/-!
# The calendar

Days of the Gregorian calendar, extended to all years.  Days are counted from the
first of January of the year 0.
-/

namespace FleetControl
namespace Time

def isLeap (year : Int) : Bool :=
  year % 4 = 0 && (year % 100 ≠ 0 || year % 400 = 0)

/-- Days from the first day of the year 0 to the first day of a year. -/
def daysBefore (year : Int) : Int :=
  365 * year + (year + 3) / 4 - (year + 99) / 100 + (year + 399) / 400

/-- The year in which a day lies. -/
def yearOf (day : Int) : Int :=
  let guess := 400 * day / 146097
  if daysBefore (guess + 1) ≤ day then guess + 1
  else if day < daysBefore guess then guess - 1
  else guess

def monthLengths (leap : Bool) : List Nat :=
  [31, if leap then 29 else 28, 31, 30, 31, 30, 31, 31, 30, 31, 30, 31]

def daysBeforeMonth (leap : Bool) (month : Nat) : Nat :=
  ((monthLengths leap).take (month - 1)).foldl (· + ·) 0

/-- Month and day of the month of a day of the year, counted from zero; the months
are those from `month` on. -/
def monthAndDay (month : Nat) (rest : Nat) : List Nat → Nat × Nat
  | [] => (month, rest + 1)
  | length :: more =>
      if rest < length then (month, rest + 1)
      else monthAndDay (month + 1) (rest - length) more

structure Date where
  year : Int
  month : Nat
  day : Nat
  deriving DecidableEq, Repr

namespace Date

def isValid (d : Date) : Bool :=
  1 ≤ d.month && d.month ≤ 12 && 1 ≤ d.day &&
    d.day ≤ (monthLengths (isLeap d.year)).getD (d.month - 1) 0

def dayNumber (d : Date) : Int :=
  daysBefore d.year + daysBeforeMonth (isLeap d.year) d.month + (d.day - 1 : Nat)

def ofDayNumber (day : Int) : Date :=
  let year := yearOf day
  let (month, rest) :=
    monthAndDay 1 (day - daysBefore year).toNat (monthLengths (isLeap year))
  { year := year, month := month, day := rest }

end Date

/-- The first of January 1970. -/
def epochDay : Int := 719528

end Time
end FleetControl
