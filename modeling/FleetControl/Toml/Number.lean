import FleetControl.Text.Reader
import FleetControl.Time.Calendar
import FleetControl.Toml.Basic
import FleetControl.Text.Hex

/-!
# Numbers and times in TOML

Digits may have single underscores between them.  Whole numbers have 64 bits and a
sign.
-/

namespace FleetControl
namespace Toml

open Text
open Text.Reader (digits exactly word)

/-- Digits with single underscores between them. -/
def grouped (isDigit : Char → Bool) : List Char → List Char × List Char
  | c :: '_' :: d :: rest =>
      if isDigit c then
        if isDigit d then
          let (more, rest) := grouped isDigit (d :: rest)
          (c :: more, rest)
        else ([c], '_' :: d :: rest)
      else ([], c :: '_' :: d :: rest)
  | c :: rest =>
      if isDigit c then
        let (more, rest) := grouped isDigit rest
        (c :: more, rest)
      else ([], c :: rest)
  | [] => ([], [])

def inRange (n : Int) : Option Toml :=
  if Int64.minValue.toInt ≤ n ∧ n ≤ Int64.maxValue.toInt then some (.integer n) else none

/-!
# Whole numbers in other bases
-/

def based (base : Nat) (isDigit : Char → Bool) (cs : List Char) : Option (Toml × List Char) :=
  match grouped isDigit cs with
  | ([], _) => none
  | (ds, rest) => do
      let n ← ds.foldl (fun acc c => do
        let n ← acc
        let d ← Hex.value? c
        return base * n + d) (some 0)
      let value ← inRange n
      return (value, rest)

def isHex (c : Char) : Bool :=
  (Hex.value? c).isSome

def isOctal (c : Char) : Bool :=
  '0' ≤ c && c ≤ '7'

def isBinary (c : Char) : Bool :=
  c = '0' || c = '1'

/-!
# Decimal numbers
-/

def sign (cs : List Char) : Option Bool × List Char :=
  match cs with
  | '-' :: rest => (some true, rest)
  | '+' :: rest => (some false, rest)
  | _ => (none, cs)

def fractionDigits? : Reader (Option (List Char))
  | '.' :: rest =>
      match grouped Numeral.isDigit rest with
      | ([], _) => none
      | (ds, rest) => some (some ds, rest)
  | cs => some (none, cs)

def exponentPart? : Reader (Option Int)
  | c :: rest =>
      if c = 'e' || c = 'E' then
        let (negative, rest) := sign rest
        match grouped Numeral.isDigit rest with
        | ([], _) => none
        | (ds, rest) =>
            let n : Int := Numeral.value 0 ds
            some (some (if negative = some true then -n else n), rest)
      else some (none, c :: rest)
  | [] => some (none, [])

/-- A decimal number rounded to the nearest binary64 number.  An exponent beyond all
numbers counts as a thousand beyond the digits. -/
def toFloat (whole fraction : List Char) (exponent : Int) : Float :=
  let n := Numeral.value 0 (whole ++ fraction)
  let reach : Int := whole.length + fraction.length + 1000
  let e := max (-reach) (min exponent reach) - fraction.length
  Float.ofScientific n (e < 0) e.natAbs

def signedFloat (negative : Option Bool) (x : Float) : Float :=
  if negative = some true then -x else x

/-- A number beyond all others is refused unless it is negative. -/
def finite? (x : Float) : Option Toml :=
  if x.isInf && 0 < x then none else some (.float x)

def decimal? (negative : Option Bool) (cs : List Char) : Option (Toml × List Char) :=
  match grouped Numeral.isDigit cs with
  | ([], _) => none
  | (ds, rest) =>
      if ds.head? = some '0' && 1 < ds.length then none
      else do
        let (fraction, rest) ← fractionDigits? rest
        let (exponent, rest) ← exponentPart? rest
        match fraction, exponent with
        | none, none =>
            let n : Int := Numeral.value 0 ds
            let value ← inRange (if negative = some true then -n else n)
            return (value, rest)
        | _, _ =>
            let x := toFloat ds (fraction.getD []) (exponent.getD 0)
            let value ← finite? (signedFloat negative x)
            return (value, rest)

def special? (negative : Option Bool) (cs : List Char) : Option (Toml × List Char) :=
  match word "inf".toList cs with
  | some ((), rest) => some (.float (signedFloat negative (1.0 / 0.0)), rest)
  | none =>
      match word "nan".toList cs with
      | some ((), rest) => some (.float (signedFloat negative (0.0 / 0.0)), rest)
      | none => none

def number? (cs : List Char) : Option (Toml × List Char) :=
  match cs with
  | '0' :: 'x' :: rest => based 16 isHex rest
  | '0' :: 'o' :: rest => based 8 isOctal rest
  | '0' :: 'b' :: rest => based 2 isBinary rest
  | _ =>
      let (negative, rest) := sign cs
      (special? negative rest).or (decimal? negative rest)

/-!
# Dates and times
-/

def date? : Reader Unit :=
  fun cs => do
    let (year, cs) ← digits 4 4 cs
    let ((), cs) ← exactly '-' cs
    let (month, cs) ← digits 2 2 cs
    let ((), cs) ← exactly '-' cs
    let (day, cs) ← digits 2 2 cs
    let date : Time.Date := { year := year, month := month, day := day }
    if date.isValid then return ((), cs) else none

def fractionOfSecond : Reader Unit
  | '.' :: rest =>
      match rest.takeWhile Numeral.isDigit with
      | [] => none
      | _ => some ((), rest.dropWhile Numeral.isDigit)
  | cs => some ((), cs)

def clock? : Reader Unit :=
  fun cs => do
    let (hour, cs) ← digits 2 2 cs
    let ((), cs) ← exactly ':' cs
    let (minute, cs) ← digits 2 2 cs
    let ((), cs) ← exactly ':' cs
    let (second, cs) ← digits 2 2 cs
    if hour < 24 ∧ minute < 60 ∧ second ≤ 60 then fractionOfSecond cs else none

def zone? (cs : List Char) : Option (List Char) :=
  match cs with
  | 'Z' :: rest => some rest
  | 'z' :: rest => some rest
  | c :: rest =>
      if c = '+' || c = '-' then do
        let (hours, rest) ← digits 2 2 rest
        let ((), rest) ← exactly ':' rest
        let (minutes, rest) ← digits 2 2 rest
        if hours < 24 ∧ minutes < 60 then return rest else none
      else some cs
  | [] => some []

/-- The text goes on with a time behind a date. -/
def clockFollows (cs : List Char) : Bool :=
  match cs with
  | c :: d :: _ => (c = 'T' || c = 't' || c = ' ') && Numeral.isDigit d
  | _ => false

def time? (cs : List Char) : Option (Toml × List Char) :=
  match digits 4 4 cs with
  | some (_, '-' :: _) => do
      let ((), rest) ← date? cs
      if clockFollows rest then
        let ((), rest) ← clock? (rest.drop 1)
        let rest ← zone? rest
        return (.time, rest)
      else return (.time, rest)
  | _ =>
      match digits 2 2 cs with
      | some (_, ':' :: _) => (clock? cs).map (fun (_, rest) => (.time, rest))
      | _ => none

/-- The text starts like a date or a time. -/
def looksLikeTime (cs : List Char) : Bool :=
  match digits 4 4 cs with
  | some (_, '-' :: _) => true
  | _ =>
      match digits 2 2 cs with
      | some (_, ':' :: _) => true
      | _ => false

end Toml
end FleetControl
