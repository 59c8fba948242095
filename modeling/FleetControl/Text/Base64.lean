/-!
# Base64 text of bytes

The alphabet `A`-`Z`, `a`-`z`, `0`-`9`, `+`, `/` with `=` as filler.  The filler is
required when reading, and the bits that a shorter last group leaves over must be
zero, so every list of bytes has exactly one written form.
-/

namespace FleetControl
namespace Text
namespace Base64

def digit (n : Nat) : Char :=
  if n < 26 then Char.ofNat ('A'.toNat + n)
  else if n < 52 then Char.ofNat ('a'.toNat + (n - 26))
  else if n < 62 then Char.ofNat ('0'.toNat + (n - 52))
  else if n = 62 then '+' else '/'

def value? (c : Char) : Option Nat :=
  if 'A' ≤ c && c ≤ 'Z' then some (c.toNat - 'A'.toNat)
  else if 'a' ≤ c && c ≤ 'z' then some (c.toNat - 'a'.toNat + 26)
  else if '0' ≤ c && c ≤ '9' then some (c.toNat - '0'.toNat + 52)
  else if c = '+' then some 62
  else if c = '/' then some 63
  else none

def encode : List UInt8 → List Char
  | [] => []
  | [a] =>
      let n := a.toNat
      [digit (n / 4), digit (n % 4 * 16), '=', '=']
  | [a, b] =>
      let n := a.toNat * 256 + b.toNat
      [digit (n / 1024), digit (n / 16 % 64), digit (n % 16 * 4), '=']
  | a :: b :: c :: rest =>
      let n := a.toNat * 65536 + b.toNat * 256 + c.toNat
      digit (n / 262144) :: digit (n / 4096 % 64) :: digit (n / 64 % 64) ::
        digit (n % 64) :: encode rest

/-- The bytes of the last group of four characters. -/
def lastGroup? (w x y z : Char) : Option (List UInt8) := do
  let p ← value? w
  let q ← value? x
  if y = '=' then
    if z = '=' && q % 16 = 0 then
      return [UInt8.ofNat (p * 4 + q / 16)]
    else
      none
  else
    let r ← value? y
    if z = '=' then
      if r % 4 = 0 then
        return [UInt8.ofNat (p * 4 + q / 16), UInt8.ofNat (q % 16 * 16 + r / 4)]
      else
        none
    else
      let s ← value? z
      return [UInt8.ofNat (p * 4 + q / 16), UInt8.ofNat (q % 16 * 16 + r / 4),
        UInt8.ofNat (r % 4 * 64 + s)]

def decode? : List Char → Option (List UInt8)
  | [] => some []
  | [w, x, y, z] => lastGroup? w x y z
  | w :: x :: y :: z :: rest => do
      let p ← value? w
      let q ← value? x
      let r ← value? y
      let s ← value? z
      let bytes ← decode? rest
      return UInt8.ofNat (p * 4 + q / 16) :: UInt8.ofNat (q % 16 * 16 + r / 4) ::
        UInt8.ofNat (r % 4 * 64 + s) :: bytes
  | _ => none

end Base64
end Text
end FleetControl
