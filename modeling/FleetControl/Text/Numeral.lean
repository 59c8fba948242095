/-!
# Decimal numerals

Whole numbers as text.  Reading takes an optional sign and one or more digits and
nothing else: no blanks, no separators, no empty text.  A bound is part of
reading, so a numeral that does not fit is not a numeral of that width.
-/

namespace FleetControl
namespace Text
namespace Numeral

def isDigit (c : Char) : Bool :=
  '0' ≤ c && c ≤ '9'

def digitValue (c : Char) : Nat :=
  c.toNat - '0'.toNat

/-- The number written by a run of digits, continued from `acc`. -/
def value (acc : Nat) (digits : List Char) : Nat :=
  digits.foldl (fun n c => 10 * n + digitValue c) acc

def digits? (cs : List Char) : Option Nat :=
  if cs.isEmpty || !cs.all isDigit then none else some (value 0 cs)

/-- A numeral below `bound`, with an optional `+`. -/
def natural? (bound : Nat) (cs : List Char) : Option Nat :=
  let unsigned :=
    match cs with
    | '+' :: rest => rest
    | _ => cs
  (digits? unsigned).filter (· < bound)

/-- A numeral from `lo` to `hi`, with an optional sign. -/
def integer? (lo hi : Int) (cs : List Char) : Option Int :=
  let read : Option Int :=
    match cs with
    | '-' :: rest => (digits? rest).map (fun n => -(n : Int))
    | '+' :: rest => (digits? rest).map Int.ofNat
    | _ => (digits? cs).map Int.ofNat
  read.filter (fun n => decide (lo ≤ n) && decide (n ≤ hi))

def uint16? (cs : List Char) : Option UInt16 :=
  (natural? UInt16.size cs).map UInt16.ofNat

def uint64? (cs : List Char) : Option UInt64 :=
  (natural? UInt64.size cs).map UInt64.ofNat

/-- A numeral of a signed 64-bit number. -/
def int64? (cs : List Char) : Option Int :=
  integer? Int64.minValue.toInt Int64.maxValue.toInt cs

def ofNat (n : Nat) : List Char :=
  Nat.toDigits 10 n

/-- At least `width` digits: zeros are put in front of a shorter numeral. -/
def padded (width n : Nat) : List Char :=
  let ds := ofNat n
  List.replicate (width - ds.length) '0' ++ ds

end Numeral
end Text
end FleetControl
