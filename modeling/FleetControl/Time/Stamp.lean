import FleetControl.Time.Instant
import FleetControl.Text.Reader
import FleetControl.Text.Blank

/-!
# Time stamps

Instants as text in the form of RFC 3339.  Written stamps are in universal time,
end in `Z` and have a fraction of 3, 6 or 9 digits when one is needed; a year
beyond 0 to 9999 has a sign.

Two readers exist.  The strict one takes the form of the standard.  The lenient
one also takes blanks between the parts, short fields, years of any length with a
sign, and `UTC` for the offset.
-/

namespace FleetControl
namespace Time
namespace Stamp

open Text
open Text.Reader (digits exactly)

/-!
# Writing
-/

def year (y : Int) : List Char :=
  if 0 ≤ y ∧ y ≤ 9999 then Numeral.padded 4 y.natAbs
  else (if y < 0 then '-' else '+') :: Numeral.padded 4 y.natAbs

def fraction (nanos : Nat) : List Char :=
  if nanos = 0 then []
  else if nanos % 1000000 = 0 then '.' :: Numeral.padded 3 (nanos / 1000000)
  else if nanos % 1000 = 0 then '.' :: Numeral.padded 6 (nanos / 1000)
  else '.' :: Numeral.padded 9 nanos

def writeChars (t : Instant) : List Char :=
  let date := Date.ofDayNumber (t.seconds / 86400 + epochDay)
  let second := (t.seconds % 86400).toNat
  let leap := if t.nanos < billion then 0 else 1
  year date.year ++ '-' :: (Numeral.padded 2 date.month ++ '-' ::
    (Numeral.padded 2 date.day ++ 'T' :: (Numeral.padded 2 (second / 3600) ++ ':' ::
      (Numeral.padded 2 (second / 60 % 60) ++ ':' ::
        (Numeral.padded 2 (second % 60 + leap) ++
          (fraction (t.nanos - leap * billion) ++ ['Z']))))))

def write (t : Instant) : String :=
  String.ofList (writeChars t)

/-!
# Parts of a stamp
-/

def separator : Reader Unit
  | c :: rest => if c = 'T' || c = 't' || c = ' ' then some ((), rest) else none
  | [] => none

/-- Nanoseconds behind a point; digits beyond the ninth are passed over. -/
def nanoseconds : Reader Nat
  | '.' :: rest => do
      let run := (rest.take 9).takeWhile Numeral.isDigit
      if run.isEmpty then none
      else
        return (Numeral.value 0 run * Nat.pow 10 (9 - run.length),
          (rest.drop run.length).dropWhile Numeral.isDigit)
  | cs => some (0, cs)

/-- Seconds east of universal time; `gap` passes over what may stand between hours
and minutes. -/
def offset (gap : Reader Unit) (cs : List Char) : Option (Int × List Char) :=
  match cs with
  | 'Z' :: rest => some (0, rest)
  | 'z' :: rest => some (0, rest)
  | sign :: rest => do
      let direction ←
        if sign = '+' then some 1
        else if sign = '-' || sign = '\u2212' then some (-1)
        else none
      let (hours, rest) ← digits 2 2 rest
      let ((), rest) ← gap rest
      let (minutes, rest) ← digits 2 2 rest
      if hours < 24 ∧ minutes < 60 then
        return (direction * (3600 * hours + 60 * minutes : Int), rest)
      else none
  | [] => none

structure Fields where
  date : Date
  hour : Nat
  minute : Nat
  second : Nat
  nanos : Nat
  offset : Int

/-- The instant of the fields, if they name one. -/
def Fields.instant? (f : Fields) : Option Instant :=
  if f.date.isValid ∧ f.hour < 24 ∧ f.minute < 60 ∧ f.second ≤ 60 then
    let leap := if f.second = 60 then 1 else 0
    let localSeconds : Int := (f.date.dayNumber - epochDay) * 86400 +
      (3600 * f.hour + 60 * f.minute + (f.second - leap) : Nat)
    if firstSecond ≤ localSeconds ∧ localSeconds ≤ lastSecond then
      Instant.make? (localSeconds - f.offset) (f.nanos + leap * billion)
    else none
  else none

/-!
# Strict reading
-/

def strictFields : Reader Fields :=
  fun cs => do
    let (y, cs) ← digits 4 4 cs
    let ((), cs) ← exactly '-' cs
    let (month, cs) ← digits 2 2 cs
    let ((), cs) ← exactly '-' cs
    let (day, cs) ← digits 2 2 cs
    let ((), cs) ← separator cs
    let (hour, cs) ← digits 2 2 cs
    let ((), cs) ← exactly ':' cs
    let (minute, cs) ← digits 2 2 cs
    let ((), cs) ← exactly ':' cs
    let (second, cs) ← digits 2 2 cs
    let (nanos, cs) ← nanoseconds cs
    let (east, cs) ← offset (exactly ':') cs
    return ({ date := { year := y, month := month, day := day }, hour := hour
              minute := minute, second := second, nanos := nanos, offset := east }, cs)

def readStrict? (s : String) : Option Instant := do
  let (fields, rest) ← strictFields s.toList
  if rest.isEmpty then fields.instant? else none

/-!
# Lenient reading
-/

def spaced {α : Type} (part : Reader α) : Reader α :=
  fun cs => part (dropBlanks cs)

def anyYear : Reader Int
  | '-' :: rest => (digits 1 rest.length rest).map (fun (n, cs) => (-(n : Int), cs))
  | '+' :: rest => (digits 1 rest.length rest).map (fun (n, cs) => ((n : Int), cs))
  | cs => (digits 1 4 cs).map (fun (n, cs) => ((n : Int), cs))

def looseGap : Reader Unit :=
  fun cs => some ((), cs.dropWhile (fun c => c = ':' || isBlank c))

def looseOffset : Reader Int :=
  fun cs =>
    let word := String.ofList (cs.take 3)
    if word.toList.map Char.toUpper = ['U', 'T', 'C'] then some (0, cs.drop 3)
    else offset looseGap cs

def looseFields : Reader Fields :=
  fun cs => do
    let (y, cs) ← spaced anyYear cs
    let ((), cs) ← spaced (exactly '-') cs
    let (month, cs) ← spaced (digits 1 2) cs
    let ((), cs) ← spaced (exactly '-') cs
    let (day, cs) ← spaced (digits 1 2) cs
    let ((), cs) ← separator cs
    let (hour, cs) ← spaced (digits 1 2) cs
    let ((), cs) ← spaced (exactly ':') cs
    let (minute, cs) ← spaced (digits 1 2) cs
    let ((), cs) ← spaced (exactly ':') cs
    let (second, cs) ← spaced (digits 1 2) cs
    let (nanos, cs) ← nanoseconds cs
    let (east, cs) ← spaced looseOffset cs
    return ({ date := { year := y, month := month, day := day }, hour := hour
              minute := minute, second := second, nanos := nanos, offset := east }, cs)

def read? (s : String) : Option Instant := do
  let (fields, rest) ← looseFields s.toList
  if (dropBlanks rest).isEmpty then fields.instant? else none

end Stamp
end Time
end FleetControl
