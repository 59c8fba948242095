import FleetControl.Time.Calendar

/-!
# Instants

An instant is a whole number of seconds since the start of 1970, in universal
time, and nanoseconds behind them.  The last second of a minute may be followed by
a leap second, which counts as nanoseconds from one thousand million on.  Instants
lie within the years -262143 to 262142.
-/

namespace FleetControl
namespace Time

def billion : Nat := 1000000000

def firstSecond : Int := -8334601228800

def lastSecond : Int := 8210266876799

structure Instant where
  seconds : Int
  nanos : Nat
  bounded : firstSecond ≤ seconds ∧ seconds ≤ lastSecond
  fine : nanos < billion ∨ (seconds % 60 = 59 ∧ nanos < 2 * billion)
  deriving DecidableEq

namespace Instant

def epoch : Instant :=
  { seconds := 0, nanos := 0, bounded := by decide, fine := by decide }

instance : Inhabited Instant :=
  ⟨epoch⟩

def make? (seconds : Int) (nanos : Nat) : Option Instant :=
  if h : (firstSecond ≤ seconds ∧ seconds ≤ lastSecond) ∧
      (nanos < billion ∨ (seconds % 60 = 59 ∧ nanos < 2 * billion)) then
    some { seconds := seconds, nanos := nanos, bounded := h.1, fine := h.2 }
  else none

def ofSeconds? (seconds : Int) : Option Instant :=
  make? seconds 0

/-!
# Order
-/

def Before (a b : Instant) : Prop :=
  a.seconds < b.seconds ∨ (a.seconds = b.seconds ∧ a.nanos < b.nanos)

instance : LT Instant :=
  ⟨Before⟩

instance : LE Instant :=
  ⟨fun a b => ¬ Before b a⟩

instance (a b : Instant) : Decidable (Before a b) :=
  inferInstanceAs
    (Decidable (a.seconds < b.seconds ∨ (a.seconds = b.seconds ∧ a.nanos < b.nanos)))

instance (a b : Instant) : Decidable (a < b) :=
  inferInstanceAs (Decidable (Before a b))

instance (a b : Instant) : Decidable (a ≤ b) :=
  inferInstanceAs (Decidable (¬ Before b a))

def later (a b : Instant) : Instant :=
  if b < a then a else b

/-!
# Spans

A span is a number of milliseconds.  Within a leap second a short span stays
there; a longer one leaves it as if it were the second before or after.

Not every sum is an instant.  Times are added to where a nonce is forgotten, where
a lease is given and where it is extended, and the panel breaks off there when the
sum lies beyond the limits, in the middle of what it was asked.  Nothing here
breaks off: such a sum is the limit.  What is said about a sum therefore asks that
it is an instant.
-/

def first : Instant :=
  { seconds := firstSecond, nanos := 0, bounded := by decide, fine := by decide }

def last : Instant :=
  { seconds := lastSecond, nanos := 0, bounded := by decide, fine := by decide }

/-- Seconds and nanoseconds, either of which may be too large or negative. -/
def normal? (seconds nanos : Int) : Option Instant :=
  make? (seconds + nanos / billion) (nanos % billion).toNat

/-- The sum, if it is an instant. -/
def addMillis? (t : Instant) (millis : Int) : Option Instant :=
  let wholeSeconds := Int.tdiv millis 1000
  let extra := Int.tmod millis 1000 * 1000000
  if t.nanos < billion then normal? (t.seconds + wholeSeconds) (t.nanos + extra)
  else if 0 < wholeSeconds ∨ (0 < extra ∧ 2 * (billion : Int) ≤ t.nanos + extra) then
    normal? (t.seconds + wholeSeconds) (t.nanos - billion + extra)
  else if wholeSeconds < 0 then
    normal? (t.seconds + 1 + wholeSeconds) (t.nanos - billion + extra)
  else make? t.seconds (t.nanos + extra).toNat

/-- The sum, or the limit that it lies beyond. -/
def addMillis (t : Instant) (millis : Int) : Instant :=
  (t.addMillis? millis).getD (if millis < 0 then first else last)

def addSeconds? (t : Instant) (seconds : Int) : Option Instant :=
  t.addMillis? (1000 * seconds)

def addSeconds (t : Instant) (seconds : Int) : Instant :=
  t.addMillis (1000 * seconds)

end Instant
end Time
end FleetControl
