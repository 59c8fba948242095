import FleetControl.Crypto.Aes

/-!
# AES-256 in Galois/Counter mode

The mode of NIST SP 800-38D with a nonce of twelve bytes, a tag of sixteen bytes
and no further data.  A stream made from key and nonce is added to the text, and
the tag is a keyed sum over the sealed text.  Main statement: what was sealed
opens under the same key and nonce to the same text.
-/

namespace FleetControl
namespace Crypto
namespace Gcm

/-!
# The field of 2^128 elements

Elements are natural numbers below 2^128 whose highest bit is the first.
-/

def toNumber (bytes : List UInt8) : Nat :=
  bytes.foldl (fun n b => 256 * n + b.toNat) 0

def ofNumber (size n : Nat) : List UInt8 :=
  (List.range size).reverse.map (fun i => UInt8.ofNat (n >>> (8 * i)))

def halve (x : Nat) : Nat :=
  if x % 2 = 1 then (x / 2) ^^^ (0xe1 <<< 120) else x / 2

def timesLoop (x : Nat) : Nat → Nat → Nat → Nat
  | 0, _, acc => acc
  | bit + 1, y, acc =>
      timesLoop x bit (halve y) (if x / 2 ^ bit % 2 = 1 then acc ^^^ y else acc)

def times (x y : Nat) : Nat :=
  timesLoop x 128 y 0

/-- The bytes in groups of sixteen, the last one filled with zeros. -/
def groups (fuel : Nat) (bytes : List UInt8) : List (List UInt8) :=
  match fuel with
  | 0 => []
  | fuel + 1 =>
      match bytes with
      | [] => []
      | _ =>
          let group := bytes.take 16
          (group ++ List.replicate (16 - group.length) 0) :: groups fuel (bytes.drop 16)

def hash (h : Nat) (sealedText : List UInt8) : Nat :=
  let lengths := 8 * sealedText.length
  let whole := (groups sealedText.length sealedText).map toNumber ++ [lengths]
  whole.foldl (fun y x => times (y ^^^ x) h) 0

/-!
# Sealing and opening
-/

def counterBlock (nonce : List UInt8) (n : Nat) : List UInt8 :=
  nonce ++ ofNumber 4 n

def keyStream (keys : List (List UInt8)) (nonce : List UInt8) (size : Nat) : List UInt8 :=
  (List.range ((size + 15) / 16)).flatMap
    (fun i => Aes.encryptBlock keys (counterBlock nonce (i + 2)))

/-- Add a stream to a text; a stream that is too short counts as zeros. -/
def addStream : List UInt8 → List UInt8 → List UInt8
  | [], _ => []
  | b :: rest, [] => b :: addStream rest []
  | b :: rest, k :: more => (b ^^^ k) :: addStream rest more

def tag (keys : List (List UInt8)) (nonce sealedText : List UInt8) : List UInt8 :=
  let h := toNumber (Aes.encryptBlock keys (List.replicate 16 0))
  let mask := toNumber (Aes.encryptBlock keys (counterBlock nonce 1))
  ofNumber 16 (hash h sealedText ^^^ mask)

/-- The sealed text followed by its tag. -/
def encrypt (key nonce plain : List UInt8) : List UInt8 :=
  let keys := Aes.roundKeys key
  let sealedText := addStream plain (keyStream keys nonce plain.length)
  sealedText ++ tag keys nonce sealedText

def decrypt? (key nonce bytes : List UInt8) : Option (List UInt8) :=
  if bytes.length < 16 then none
  else
    let keys := Aes.roundKeys key
    let sealedText := bytes.take (bytes.length - 16)
    if bytes.drop (bytes.length - 16) = tag keys nonce sealedText then
      some (addStream sealedText (keyStream keys nonce sealedText.length))
    else none

@[simp] theorem length_addStream (bytes stream : List UInt8) :
    (addStream bytes stream).length = bytes.length := by
  induction bytes generalizing stream with
  | nil =>
      rfl
  | cons b rest ih =>
      cases stream <;> simp [addStream, ih]

theorem addStream_addStream (bytes stream : List UInt8) :
    addStream (addStream bytes stream) stream = bytes := by
  induction bytes generalizing stream with
  | nil =>
      rfl
  | cons b rest ih =>
      cases stream with
      | nil =>
          simp [addStream, ih]
      | cons k more =>
          have back : b ^^^ k ^^^ k = b := by
            rw [UInt8.xor_assoc, UInt8.xor_self, UInt8.xor_zero]
          simp [addStream, ih, back]

@[simp] theorem length_tag (keys : List (List UInt8)) (nonce sealedText : List UInt8) :
    (tag keys nonce sealedText).length = 16 := by
  simp [tag, ofNumber]

theorem decrypt?_encrypt (key nonce plain : List UInt8) :
    decrypt? key nonce (encrypt key nonce plain) = some plain := by
  simp [decrypt?, encrypt, addStream_addStream]

end Gcm
end Crypto
end FleetControl
