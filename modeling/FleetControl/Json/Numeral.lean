import FleetControl.Json.Basic
import FleetControl.Text.Numeral

/-!
# JSON numerals

A numeral has an optional minus sign, whole digits without needless zeros in
front, optionally a point with digits behind it, and optionally an exponent.

A numeral without point and exponent is a whole number when it fits 64 bits.  Any
other numeral is a binary64 number: its leading digits, as many as fit an
unsigned 64-bit number, are scaled by a power of ten.  A numeral whose number is
beyond every binary64 number has no value.
-/

namespace FleetControl
namespace Json

open Text

structure Exponent where
  negative : Bool
  digits : List Char

structure Literal where
  negative : Bool
  whole : List Char
  fraction : Option (List Char)
  exponent : Option Exponent

namespace Literal

/-!
# Reading the characters
-/

def takeDigits (cs : List Char) : List Char × List Char :=
  (cs.takeWhile Numeral.isDigit, cs.dropWhile Numeral.isDigit)

def takeExponent? (cs : List Char) : Option (Option Exponent × List Char) :=
  match cs with
  | e :: rest =>
      if e = 'e' || e = 'E' then
        let (negative, rest) :=
          match rest with
          | '-' :: more => (true, more)
          | '+' :: more => (false, more)
          | _ => (false, rest)
        match takeDigits rest with
        | ([], _) => none
        | (ds, more) => some (some { negative := negative, digits := ds }, more)
      else some (none, cs)
  | [] => some (none, cs)

def takeFraction? (cs : List Char) : Option (Option (List Char) × List Char) :=
  match cs with
  | '.' :: rest =>
      match takeDigits rest with
      | ([], _) => none
      | (ds, more) => some (some ds, more)
  | _ => some (none, cs)

/-- The numeral at the front of a text, and what follows it. -/
def take? (cs : List Char) : Option (Literal × List Char) := do
  let (negative, cs) :=
    match cs with
    | '-' :: rest => (true, rest)
    | _ => (false, cs)
  let (whole, cs) := takeDigits cs
  match whole with
  | [] => none
  | '0' :: _ :: _ => none
  | _ =>
      let (fraction, cs) ← takeFraction? cs
      let (exponent, cs) ← takeExponent? cs
      return ({ negative := negative, whole := whole, fraction := fraction,
                exponent := exponent }, cs)

/-!
# The number of a numeral
-/

/-- Append digits to a number as long as it fits 64 bits. -/
def absorb (n : Nat) : List Char → Nat × List Char
  | [] => (n, [])
  | c :: rest =>
      let next := 10 * n + Numeral.digitValue c
      if next < UInt64.size then absorb next rest else (n, c :: rest)

def tenTo (n : Nat) : Float :=
  Float.ofScientific 1 false n

/-- Divide by a power of ten in steps that stay in range. -/
def divideByTen (x : Float) (count : Nat) : Float :=
  if count ≤ 308 then x / tenTo count
  else if x == 0 then x
  else divideByTen (x / tenTo 308) (count - 308)
termination_by count

def scale? (significand : Nat) (exponent : Int) : Option Float :=
  let x := Float.ofNat significand
  if exponent < 0 then some (divideByTen x exponent.natAbs)
  else if 308 < exponent then if significand = 0 then some x else none
  else
    let y := x * tenTo exponent.natAbs
    if y.isInf then none else some y

def signed (negative : Bool) (x : Float) : Float :=
  if negative then -x else x

def real? (l : Literal) : Option Float := do
  let (lead, dropped) := absorb 0 l.whole
  let (significand, kept) :=
    match l.fraction with
    | none => (lead, 0)
    | some ds =>
        let (n, rest) := absorb lead ds
        (n, ds.length - rest.length)
  let start : Int := (dropped.length : Int) - kept
  match l.exponent with
  | none => (scale? significand start).map (signed l.negative)
  | some e =>
      let size := Numeral.value 0 e.digits
      if 0x80000000 ≤ size then
        if significand ≠ 0 ∧ !e.negative then none
        else some (signed l.negative 0)
      else
        let shift : Int := if e.negative then -size else size
        (scale? significand (start + shift)).map (signed l.negative)

def number? (l : Literal) : Option Number :=
  let size := Numeral.value 0 l.whole
  if l.fraction.isNone && l.exponent.isNone && size < UInt64.size then
    if hn : l.negative then
      if h : 0 < size ∧ size ≤ 0x8000000000000000 then
        some (.whole (-(size : Int)) (by constructor <;> omega))
      else some (.real (-(Float.ofNat size)))
    else if h : size < 0x10000000000000000 then
      some (.whole size (by constructor <;> omega))
    else none
  else l.real?.map Number.real

end Literal
end Json
end FleetControl
