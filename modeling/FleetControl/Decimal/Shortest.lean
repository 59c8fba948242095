/-!
# The shortest decimal that reads back

A binary64 number stands for the interval of reals that round to it.  Its decimal
text carries the fewest digits of any decimal in that interval, and of the
decimals with so few digits the one nearest to the number; an exact tie goes to
the even digit.  All of it is exact arithmetic on natural numbers.
-/

namespace FleetControl
namespace Decimal

/-- The number `digits * 10 ^ exponent`. -/
structure Scaled where
  digits : Nat
  exponent : Int
  deriving DecidableEq, Repr

namespace Scaled

/-- Remove zeros from the end of the digits. -/
def trimZeros (fuel : Nat) (s : Scaled) : Scaled :=
  match fuel with
  | 0 => s
  | fuel + 1 =>
      if s.digits ≠ 0 ∧ s.digits % 10 = 0 then
        trimZeros fuel { digits := s.digits / 10, exponent := s.exponent + 1 }
      else s

end Scaled

/-!
# The interval of a number

The number is `mantissa * 2 ^ power`.  With everything scaled by four, its
neighbours in the interval are two units away, or one unit below when the number
is a power of two.
-/

structure Binary where
  negative : Bool
  mantissa : Nat
  power : Int
  /-- The gap below the number is half the gap above it. -/
  narrowBelow : Bool

def Binary.ofFloat (x : Float) : Binary :=
  let bits := x.toBits.toNat
  let exponent : Nat := (bits >>> 52) % 0x800
  let fraction : Nat := bits % 0x10000000000000
  { negative := 0x8000000000000000 ≤ bits
    mantissa := if exponent = 0 then fraction else 0x10000000000000 + fraction
    power := (if exponent = 0 then 1 else (exponent : Int)) - 1075
    narrowBelow := fraction = 0 && 1 < exponent }

/-- Two naturals whose quotient is `n * 2 ^ twos / 10 ^ tens`. -/
def quotientOf (n : Nat) (twos tens : Int) : Nat × Nat :=
  ((n <<< twos.toNat) * Nat.pow 10 (-tens).toNat, Nat.pow 10 tens.toNat <<< (-twos).toNat)

/-- Count of decimal digits before the point, or minus the count of zeros just
behind it. -/
def magnitude (num den : Nat) : Int :=
  if den ≤ num then (Nat.toDigits 10 (num / den)).length
  else 1 - ((Nat.toDigits 10 (den / num)).length : Int)

/-- A decimal of the grid `10 ^ grid` in the interval, if there is one. -/
def onGrid? (b : Binary) (grid : Int) : Option Scaled :=
  let (num, den) := quotientOf (4 * b.mantissa) (b.power - 2) grid
  let (unit, _) := quotientOf 1 (b.power - 2) grid
  let low := num - (if b.narrowBelow then unit else 2 * unit)
  let high := num + 2 * unit
  let closed := b.mantissa % 2 = 0
  let inside (d : Nat) : Bool :=
    if closed then low ≤ d * den && d * den ≤ high else low < d * den && d * den < high
  let down := num / den
  let up := down + 1
  let below := num - down * den
  let above := up * den - num
  if inside down && 0 < down then
    if inside up && (above < below || (above = below && up % 2 = 0)) then
      some { digits := up, exponent := grid }
    else some { digits := down, exponent := grid }
  else if inside up then some { digits := up, exponent := grid }
  else none

def firstGrid (b : Binary) (top : Int) : Nat → Nat → Scaled
  | 0, _ => { digits := 0, exponent := 0 }
  | fuel + 1, count =>
      match onGrid? b (top - count) with
      | some s => s
      | none => firstGrid b top fuel (count + 1)

/-- The digits of a finite number other than zero. -/
def shortest (b : Binary) : Scaled :=
  let (num, den) := quotientOf b.mantissa b.power 0
  (firstGrid b (magnitude num den) 20 1).trimZeros 20

/-!
# Layout

Numbers are written with a point and at least one digit on both sides of it when
their decimal exponent is from -5 to 15, and with a signed exponent otherwise.
-/

def layout (s : Scaled) : List Char :=
  let ds := Nat.toDigits 10 s.digits
  let point := (ds.length : Int) + s.exponent
  if 0 ≤ s.exponent && point ≤ 16 then
    ds ++ List.replicate s.exponent.toNat '0' ++ ['.', '0']
  else if 0 < point && point ≤ 16 then
    ds.take point.toNat ++ '.' :: ds.drop point.toNat
  else if -5 < point && point ≤ 0 then
    '0' :: '.' :: (List.replicate (-point).toNat '0' ++ ds)
  else
    let mark :=
      match ds with
      | [] => []
      | [d] => [d]
      | d :: more => d :: '.' :: more
    let e := point - 1
    let sign := if e < 0 then '-' else '+'
    mark ++ 'e' :: sign :: Nat.toDigits 10 e.natAbs

/-- The text of a finite number. -/
def ofFloat (x : Float) : List Char :=
  let b := Binary.ofFloat x
  let sign := if b.negative then ['-'] else []
  if b.mantissa = 0 then sign ++ ['0', '.', '0'] else sign ++ layout (shortest b)

/-!
# Fixed places

One digit behind the point, rounded on the exact value, a tie to the even digit.
-/

def roundHalfEven (num den : Nat) : Nat :=
  let q := num / den
  let twice := 2 * (num - q * den)
  if twice < den then q
  else if den < twice then q + 1
  else if q % 2 = 0 then q else q + 1

/-- A finite number with one place. -/
def onePlace (x : Float) : List Char :=
  let b := Binary.ofFloat x
  let (num, den) := quotientOf b.mantissa b.power (-1)
  let tenths := roundHalfEven num den
  let sign := if b.negative then ['-'] else []
  sign ++ Nat.toDigits 10 (tenths / 10) ++ '.' :: Nat.toDigits 10 (tenths % 10)

end Decimal
end FleetControl
