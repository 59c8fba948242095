/-!
# Hexadecimal text of bytes

Bytes are written with two lower-case digits each.  Reading also accepts
upper-case digits and refuses an odd number of digits.
-/

namespace FleetControl
namespace Text
namespace Hex

def digit (n : Nat) : Char :=
  if n < 10 then Char.ofNat ('0'.toNat + n) else Char.ofNat ('a'.toNat + (n - 10))

def value? (c : Char) : Option Nat :=
  if '0' ≤ c && c ≤ '9' then some (c.toNat - '0'.toNat)
  else if 'a' ≤ c && c ≤ 'f' then some (c.toNat - 'a'.toNat + 10)
  else if 'A' ≤ c && c ≤ 'F' then some (c.toNat - 'A'.toNat + 10)
  else none

def encode : List UInt8 → List Char
  | [] => []
  | b :: rest => digit (b.toNat / 16) :: digit (b.toNat % 16) :: encode rest

def decode? : List Char → Option (List UInt8)
  | [] => some []
  | [_] => none
  | hi :: lo :: rest => do
      let h ← value? hi
      let l ← value? lo
      let bytes ← decode? rest
      return UInt8.ofNat (16 * h + l) :: bytes

theorem value?_digit {n : Nat} (h : n < 16) : value? (digit n) = some n := by
  have all : ∀ k : Fin 16, value? (digit k.val) = some k.val := by decide
  exact all ⟨n, h⟩

theorem decode?_encode (bytes : List UInt8) :
    decode? (encode bytes) = some bytes := by
  induction bytes with
  | nil =>
      rfl
  | cons b rest ih =>
      have hb := b.toNat_lt
      have high := value?_digit (n := b.toNat / 16) (by omega)
      have low := value?_digit (n := b.toNat % 16) (by omega)
      have whole : UInt8.ofNat (16 * (b.toNat / 16) + b.toNat % 16) = b := by
        rw [Nat.div_add_mod]
        simp
      simp only [encode, decode?, high, low, ih, Option.bind_eq_bind,
        Option.bind_some, whole]
      rfl

end Hex
end Text
end FleetControl
