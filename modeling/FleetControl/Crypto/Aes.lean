/-!
# AES-256

Encryption of one block of sixteen bytes under a key of thirty-two bytes, after
FIPS 197.  The substitution is computed and not tabulated: the inverse in the
field of 256 elements, followed by an affine map.
-/

namespace FleetControl
namespace Crypto
namespace Aes

/-!
# The field of 256 elements
-/

def double (x : UInt8) : UInt8 :=
  if x &&& 0x80 = 0 then x <<< 1 else (x <<< 1) ^^^ 0x1b

def times (x y : UInt8) : UInt8 :=
  let step (acc : UInt8 × UInt8) (bit : Nat) : UInt8 × UInt8 :=
    let sum := if (y >>> UInt8.ofNat bit) &&& 1 = 1 then acc.1 ^^^ acc.2 else acc.1
    (sum, double acc.2)
  ((List.range 8).foldl step (0, x)).1

/-- The inverse of an element, and zero for zero: the power 254. -/
def inverse (x : UInt8) : UInt8 :=
  let x2 := times x x
  let x4 := times x2 x2
  let x8 := times x4 x4
  let x16 := times x8 x8
  let x32 := times x16 x16
  let x64 := times x32 x32
  let x128 := times x64 x64
  times x128 (times x64 (times x32 (times x16 (times x8 (times x4 x2)))))

def turn (x : UInt8) (n : UInt8) : UInt8 :=
  (x <<< n) ||| (x >>> (8 - n))

def substitute (x : UInt8) : UInt8 :=
  let y := inverse x
  y ^^^ turn y 1 ^^^ turn y 2 ^^^ turn y 3 ^^^ turn y 4 ^^^ 0x63

/-- The substitution of every byte in order. -/
def substitutions : Array UInt8 :=
  Array.ofFn (fun i : Fin 256 => substitute (UInt8.ofNat i.val))

def subByte (x : UInt8) : UInt8 :=
  substitutions.getD x.toNat 0

/-!
# Round keys

The key schedule is a list of words of four bytes, last first.
-/

def xorBytes (xs ys : List UInt8) : List UInt8 :=
  xs.zipWith (· ^^^ ·) ys

def keyWords (key : List UInt8) : List (List UInt8) :=
  (List.range 8).map (fun i => (key.drop (4 * i)).take 4)

def nextWord (index : Nat) (factor : UInt8) (before : List UInt8) : List UInt8 :=
  if index % 8 = 0 then
    match (before.rotateLeft 1).map subByte with
    | b :: rest => (b ^^^ factor) :: rest
    | [] => []
  else if index % 8 = 4 then before.map subByte
  else before

def expand (fuel index : Nat) (factor : UInt8) (ws : List (List UInt8)) :
    List (List UInt8) :=
  match fuel with
  | 0 => ws
  | fuel + 1 =>
      let word := xorBytes (ws.getD 7 []) (nextWord index factor (ws.getD 0 []))
      expand fuel (index + 1) (if index % 8 = 0 then double factor else factor) (word :: ws)

def roundKeys (key : List UInt8) : List (List UInt8) :=
  let ws := (expand 52 8 1 (keyWords key).reverse).reverse
  (List.range 15).map (fun i => ((ws.drop (4 * i)).take 4).flatten)

/-!
# Rounds

The sixteen bytes stand column by column.
-/

def shiftRows (bytes : List UInt8) : List UInt8 :=
  [0, 5, 10, 15, 4, 9, 14, 3, 8, 13, 2, 7, 12, 1, 6, 11].map (fun i => bytes.getD i 0)

def mixColumns : List UInt8 → List UInt8
  | a :: b :: c :: d :: rest =>
      (double a ^^^ (double b ^^^ b) ^^^ c ^^^ d) ::
      (a ^^^ double b ^^^ (double c ^^^ c) ^^^ d) ::
      (a ^^^ b ^^^ double c ^^^ (double d ^^^ d)) ::
      ((double a ^^^ a) ^^^ b ^^^ c ^^^ double d) :: mixColumns rest
  | _ => []

def innerRounds (bytes : List UInt8) : List (List UInt8) → List UInt8
  | [] => bytes
  | [last] => xorBytes (shiftRows (bytes.map subByte)) last
  | key :: rest =>
      innerRounds (xorBytes (mixColumns (shiftRows (bytes.map subByte))) key) rest

def encryptBlock (keys : List (List UInt8)) (block : List UInt8) : List UInt8 :=
  match keys with
  | [] => block
  | first :: rest => innerRounds (xorBytes block first) rest

end Aes
end Crypto
end FleetControl
