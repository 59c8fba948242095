import FleetControl.Proofs.Text.Numeral
import FleetControl.Time.Calendar
import FleetControl.Time.Stamp
import Mathlib.Algebra.GroupWithZero.Nat

/-!
# Time stamps read back

Every day, however far before or after the year 0, has a valid date, and that date has the
number of the day.  So the lenient reader takes every written stamp for the instant that was
written, in every year, with every fraction, and within leap seconds too.
-/

namespace FleetControl
namespace Time

/-!
# Years
-/

theorem daysBefore_succ (year : Int) :
    daysBefore (year + 1) = daysBefore year + if isLeap year then 366 else 365 := by
  simp only [daysBefore, isLeap, Bool.and_eq_true, Bool.or_eq_true, decide_eq_true_eq]
  split <;> omega

/-- The first guess at a year is wrong by one at most. -/
theorem daysBefore_guess (day : Int) :
    daysBefore (400 * day / 146097 - 1) ≤ day ∧ day < daysBefore (400 * day / 146097 + 2) := by
  have low : 146097 * (400 * day / 146097) ≤ 400 * day := by omega
  have high : 400 * day < 146097 * (400 * day / 146097) + 146097 := by omega
  generalize 400 * day / 146097 = guess at low high
  simp only [daysBefore]
  constructor <;> omega

theorem yearOf_spec (day : Int) :
    daysBefore (yearOf day) ≤ day ∧ day < daysBefore (yearOf day + 1) := by
  have guess := daysBefore_guess day
  unfold yearOf
  simp only
  split
  · rename_i later
    exact ⟨later, by rw [Int.add_assoc]; exact guess.2⟩
  · rename_i notLater
    split
    · rename_i earlier
      exact ⟨guess.1, by rw [Int.sub_add_cancel]; exact earlier⟩
    · rename_i notEarlier
      exact ⟨Int.not_lt.mp notEarlier, Int.not_le.mp notLater⟩

/-!
# Months
-/

theorem sum_monthLengths (leap : Bool) :
    (monthLengths leap).sum = if leap then 366 else 365 := by
  cases leap <;> rfl

theorem monthAndDay_spec {lengths : List Nat} {rest : Nat} (month : Nat)
    (h : rest < lengths.sum) :
    ∃ k, k < lengths.length ∧ (monthAndDay month rest lengths).1 = month + k ∧
      1 ≤ (monthAndDay month rest lengths).2 ∧
      (monthAndDay month rest lengths).2 ≤ lengths.getD k 0 ∧
      (lengths.take k).sum + ((monthAndDay month rest lengths).2 - 1) = rest := by
  induction lengths generalizing month rest with
  | nil =>
      exact absurd h (Nat.not_lt_zero rest)
  | cons length more ih =>
      unfold monthAndDay
      split
      · rename_i here
        exact ⟨0, by simp, rfl, by simp, by simpa using Nat.succ_le_of_lt here, by simp⟩
      · rename_i beyond
        rw [List.sum_cons] at h
        rcases ih (month + 1) (show rest - length < more.sum by omega) with
          ⟨k, inside, hmonth, first, last, total⟩
        refine ⟨k + 1, Nat.succ_lt_succ inside, ?_, first, ?_, ?_⟩
        · rw [hmonth]
          omega
        · simpa using last
        · rw [List.take_succ_cons, List.sum_cons]
          omega

/-!
# Dates
-/

theorem Date.ofDayNumber_spec (day : Int) :
    (Date.ofDayNumber day).isValid = true ∧ (Date.ofDayNumber day).dayNumber = day ∧
      (Date.ofDayNumber day).year = yearOf day := by
  rcases yearOf_spec day with ⟨low, high⟩
  rw [daysBefore_succ] at high
  have inside : (day - daysBefore (yearOf day)).toNat <
      (monthLengths (isLeap (yearOf day))).sum := by
    rw [sum_monthLengths]
    split
    · rename_i leap
      rw [if_pos leap] at high
      omega
    · rename_i common
      rw [if_neg common] at high
      omega
  rcases monthAndDay_spec 1 inside with ⟨k, short, hmonth, first, last, total⟩
  have twelve : (monthLengths (isLeap (yearOf day))).length = 12 := rfl
  rw [twelve] at short
  have back : 1 + k - 1 = k := by omega
  refine ⟨?_, ?_, rfl⟩
  · simp only [Date.ofDayNumber, Date.isValid, hmonth, back, Bool.and_eq_true, decide_eq_true_eq]
    exact ⟨⟨⟨by omega, by omega⟩, first⟩, last⟩
  · simp only [Date.ofDayNumber, Date.dayNumber, hmonth, back, daysBeforeMonth]
    rw [← List.sum_eq_foldl]
    omega

namespace Stamp

open Text
open Text.Reader (digits exactly)

/-!
# Digits
-/

/-- The digits that a reader takes are those of the number, if the reader takes enough
characters and none of the others that it takes is a digit just behind the number. -/
theorem run_padded {width n most : Nat} {rest : List Char}
    (enough : (Numeral.padded width n).length ≤ most)
    (stop : (rest.take (most - (Numeral.padded width n).length)).takeWhile Numeral.isDigit = []) :
    ((Numeral.padded width n ++ rest).take most).takeWhile Numeral.isDigit =
      Numeral.padded width n := by
  rw [List.take_append, List.take_of_length_le enough,
    List.takeWhile_append_of_pos (fun _ => Numeral.isDigit_of_mem_padded), stop, List.append_nil]

theorem takeWhile_take_of_head {c : Char} (stop : Numeral.isDigit c = false) (k : Nat)
    (rest : List Char) : ((c :: rest).take k).takeWhile Numeral.isDigit = [] := by
  cases k with
  | zero => rfl
  | succ k => simp [stop]

theorem digits_two {n : Nat} (fits : n < 100) (rest : List Char) :
    digits 1 2 (Numeral.padded 2 n ++ rest) = some (n, rest) := by
  have len : (Numeral.padded 2 n).length = 2 := Numeral.length_padded (by decide) fits
  have run : ((Numeral.padded 2 n ++ rest).take 2).takeWhile Numeral.isDigit =
      Numeral.padded 2 n := by
    apply run_padded
    · exact Nat.le_of_eq len
    · rw [len]
      rfl
  have value := Numeral.value_padded 2 n
  simp only [digits, run, len, value, List.drop_left' len]
  rfl

theorem digits_padded {most n : Nat} {c : Char} {rest : List Char}
    (stop : Numeral.isDigit c = false)
    (enough : (Numeral.padded 4 n).length ≤ most) :
    digits 1 most (Numeral.padded 4 n ++ c :: rest) = some (n, c :: rest) := by
  have run : ((Numeral.padded 4 n ++ c :: rest).take most).takeWhile Numeral.isDigit =
      Numeral.padded 4 n :=
    run_padded enough (takeWhile_take_of_head stop _ rest)
  have len := Numeral.le_length_padded 4 n
  have value := Numeral.value_padded 4 n
  simp only [digits, run, value, List.drop_left]
  rw [if_neg (by omega)]

theorem spaced_of_not_blank {α : Type} {part : Reader α} {c : Char} {cs : List Char}
    (h : isBlank c = false) : spaced part (c :: cs) = part (c :: cs) := by
  simp [spaced, dropBlanks, h]

theorem padded_eq_cons (width : Nat) (positive : 0 < width) (n : Nat) :
    ∃ c cs, Numeral.padded width n = c :: cs ∧ Numeral.isDigit c = true := by
  have len := Numeral.le_length_padded width n
  cases hds : Numeral.padded width n with
  | nil =>
      rw [hds, List.length_nil] at len
      omega
  | cons c cs =>
      exact ⟨c, cs, rfl, Numeral.isDigit_of_mem_padded (by rw [hds]; exact List.mem_cons_self)⟩

theorem spaced_digits_two {n : Nat} (fits : n < 100) (rest : List Char) :
    spaced (digits 1 2) (Numeral.padded 2 n ++ rest) = some (n, rest) := by
  rcases padded_eq_cons 2 (by decide) n with ⟨c, cs, hhead, digit⟩
  have read := digits_two fits rest
  rw [hhead, List.cons_append] at read ⊢
  rw [spaced_of_not_blank (Numeral.isBlank_of_isDigit digit), read]

/-!
# Years
-/

theorem anyYear_year (y : Int) (rest : List Char) :
    anyYear (year y ++ '-' :: rest) = some (y, '-' :: rest) := by
  have stop : Numeral.isDigit '-' = false := rfl
  unfold year
  split
  · rename_i plain
    have len : (Numeral.padded 4 y.natAbs).length = 4 :=
      Numeral.length_padded (by decide) (by omega)
    rcases padded_eq_cons 4 (by decide) y.natAbs with ⟨c, cs, hhead, digit⟩
    have minus : c ≠ '-' := by
      intro heq
      rw [heq] at digit
      cases digit
    have plus : c ≠ '+' := by
      intro heq
      rw [heq] at digit
      cases digit
    have read : digits 1 4 (Numeral.padded 4 y.natAbs ++ '-' :: rest) =
        some (y.natAbs, '-' :: rest) := digits_padded stop (by omega)
    rw [hhead, List.cons_append] at read ⊢
    unfold anyYear
    split
    · rename_i heq
      exact absurd (List.cons.inj heq).1 minus
    · rename_i heq
      exact absurd (List.cons.inj heq).1 plus
    · rw [read, Option.map_some]
      have same : (y.natAbs : Int) = y := by omega
      simp only [same]
  · have read : digits 1 (Numeral.padded 4 y.natAbs ++ '-' :: rest).length
        (Numeral.padded 4 y.natAbs ++ '-' :: rest) = some (y.natAbs, '-' :: rest) :=
      digits_padded stop (by rw [List.length_append]; omega)
    by_cases negative : y < 0
    · have same : -(y.natAbs : Int) = y := by omega
      simp only [negative, if_true, List.cons_append, anyYear, read, Option.map_some, same]
    · have same : (y.natAbs : Int) = y := by omega
      simp only [negative, if_false, List.cons_append, anyYear, read, Option.map_some, same]

theorem year_head (y : Int) : ∃ c cs, year y = c :: cs ∧ isBlank c = false := by
  unfold year
  split
  · rcases padded_eq_cons 4 (by decide) y.natAbs with ⟨c, cs, hhead, digit⟩
    exact ⟨c, cs, hhead, Numeral.isBlank_of_isDigit digit⟩
  · split
    · exact ⟨'-', _, rfl, rfl⟩
    · exact ⟨'+', _, rfl, rfl⟩

theorem spaced_year (y : Int) (rest : List Char) :
    spaced anyYear (year y ++ '-' :: rest) = some (y, '-' :: rest) := by
  rcases year_head y with ⟨c, cs, hhead, blank⟩
  have read := anyYear_year y rest
  rw [hhead, List.cons_append] at read ⊢
  rw [spaced_of_not_blank blank, read]

/-!
# Fractions
-/

theorem nanoseconds_point {width n : Nat} (positive : 0 < width) (short : width ≤ 9)
    (fits : n < 10 ^ width) :
    nanoseconds ('.' :: (Numeral.padded width n ++ ['Z'])) =
      some (n * Nat.pow 10 (9 - width), ['Z']) := by
  have len : (Numeral.padded width n).length = width := Numeral.length_padded positive fits
  have stop : Numeral.isDigit 'Z' = false := rfl
  have run : ((Numeral.padded width n ++ ['Z']).take 9).takeWhile Numeral.isDigit =
      Numeral.padded width n :=
    run_padded (by omega) (takeWhile_take_of_head stop _ [])
  have filled : (Numeral.padded width n).isEmpty = false := by
    cases hds : Numeral.padded width n with
    | nil =>
        rw [hds, List.length_nil] at len
        omega
    | cons c cs => rfl
  have value := Numeral.value_padded width n
  simp only [nanoseconds, run, filled, len, value, List.drop_left' len]
  rfl

theorem nanoseconds_fraction {nanos : Nat} (fits : nanos < billion) :
    nanoseconds (fraction nanos ++ ['Z']) = some (nanos, ['Z']) := by
  have size : billion = 1000000000 := rfl
  unfold fraction
  split
  · rename_i zero
    rw [zero]
    rfl
  · split
    · rename_i millis
      rw [List.cons_append, nanoseconds_point (by decide) (by decide) (by omega)]
      have same : nanos / 1000000 * Nat.pow 10 (9 - 3) = nanos := by
        show nanos / 1000000 * 1000000 = nanos
        omega
      rw [same]
    · split
      · rename_i micros
        rw [List.cons_append, nanoseconds_point (by decide) (by decide) (by omega)]
        have same : nanos / 1000 * Nat.pow 10 (9 - 6) = nanos := by
          show nanos / 1000 * 1000 = nanos
          omega
        rw [same]
      · rw [List.cons_append, nanoseconds_point (by decide) (by decide) (by omega)]
        rw [show nanos * Nat.pow 10 (9 - 9) = nanos from Nat.mul_one nanos]

/-!
# Stamps
-/

/-- The fields that a written stamp shows.  Within a leap second the second is one more
than it counts for. -/
def fieldsOf (t : Instant) : Fields :=
  let second := (t.seconds % 86400).toNat
  let leap := if t.nanos < billion then 0 else 1
  { date := Date.ofDayNumber (t.seconds / 86400 + epochDay)
    hour := second / 3600
    minute := second / 60 % 60
    second := second % 60 + leap
    nanos := t.nanos - leap * billion
    offset := 0 }

theorem two_digits_of_isValid {d : Date} (h : d.isValid = true) : d.month < 100 ∧ d.day < 100 := by
  simp only [Date.isValid, Bool.and_eq_true, decide_eq_true_eq] at h
  rcases h with ⟨⟨⟨_, december⟩, _⟩, last⟩
  have short : (monthLengths (isLeap d.year)).getD (d.month - 1) 0 ≤ 31 := by
    have all : ∀ leap : Bool, ∀ k < 12, (monthLengths leap).getD k 0 ≤ 31 := by decide
    exact all _ _ (by omega)
  omega

theorem looseFields_of_parts {y : Int} {month day hour minute second nanos : Nat}
    {clock : List Char} (hmonth : month < 100) (hday : day < 100) (hhour : hour < 100)
    (hminute : minute < 100) (hsecond : second < 100)
    (hclock : nanoseconds clock = some (nanos, ['Z'])) :
    looseFields (year y ++ '-' :: (Numeral.padded 2 month ++ '-' :: (Numeral.padded 2 day ++
      'T' :: (Numeral.padded 2 hour ++ ':' :: (Numeral.padded 2 minute ++ ':' ::
        (Numeral.padded 2 second ++ clock)))))) =
      some ({ date := { year := y, month := month, day := day }, hour := hour
              minute := minute, second := second, nanos := nanos, offset := 0 }, []) := by
  have hyphen : ∀ rest, spaced (exactly '-') ('-' :: rest) = some ((), rest) := fun _ => rfl
  have colon : ∀ rest, spaced (exactly ':') (':' :: rest) = some ((), rest) := fun _ => rfl
  have tee : ∀ rest, separator ('T' :: rest) = some ((), rest) := fun _ => rfl
  have zulu : spaced looseOffset ['Z'] = some (0, []) := rfl
  simp only [looseFields, spaced_year, spaced_digits_two hmonth, spaced_digits_two hday,
    spaced_digits_two hhour, spaced_digits_two hminute, spaced_digits_two hsecond, hyphen, colon,
    tee, hclock, zulu, Option.bind_eq_bind, Option.bind_some]
  rfl

theorem looseFields_write (t : Instant) : looseFields (writeChars t) = some (fieldsOf t, []) := by
  rcases Date.ofDayNumber_spec (t.seconds / 86400 + epochDay) with ⟨valid, _, _⟩
  rcases two_digits_of_isValid valid with ⟨month, day⟩
  have fine := t.fine
  have size : billion = 1000000000 := rfl
  have nanos : t.nanos - (if t.nanos < billion then 0 else 1) * billion < billion := by
    split <;> omega
  have second : (t.seconds % 86400).toNat % 60 + (if t.nanos < billion then 0 else 1) < 100 := by
    split <;> omega
  exact looseFields_of_parts month day (by omega) (by omega) second (nanoseconds_fraction nanos)

theorem seconds_of_fields (seconds : Int) :
    (seconds / 86400 + epochDay - epochDay) * 86400 +
      ((3600 * ((seconds % 86400).toNat / 3600) + 60 * ((seconds % 86400).toNat / 60 % 60) +
        (seconds % 86400).toNat % 60 : Nat) : Int) = seconds := by
  omega

theorem instant?_of_parts {f : Fields} {t : Instant} (valid : f.date.isValid = true)
    (hour : f.hour < 24) (minute : f.minute < 60) (second : f.second ≤ 60)
    (seconds : (f.date.dayNumber - epochDay) * 86400 +
      ((3600 * f.hour + 60 * f.minute + (f.second - if f.second = 60 then 1 else 0) : Nat) : Int) =
        t.seconds)
    (east : f.offset = 0)
    (nanos : f.nanos + (if f.second = 60 then 1 else 0) * billion = t.nanos) :
    f.instant? = some t := by
  have clock : f.date.isValid = true ∧ f.hour < 24 ∧ f.minute < 60 ∧ f.second ≤ 60 :=
    ⟨valid, hour, minute, second⟩
  simp only [Fields.instant?, clock, seconds, nanos, east, Int.sub_zero, and_self, if_true]
  rw [if_pos t.bounded, Instant.make?, dif_pos ⟨t.bounded, t.fine⟩]

theorem instant?_fieldsOf (t : Instant) : (fieldsOf t).instant? = some t := by
  rcases Date.ofDayNumber_spec (t.seconds / 86400 + epochDay) with ⟨valid, number, _⟩
  have fine := t.fine
  have clock := seconds_of_fields t.seconds
  by_cases plain : t.nanos < billion
  · have second : (fieldsOf t).second = (t.seconds % 86400).toNat % 60 := by
      simp [fieldsOf, plain]
    have early : (fieldsOf t).second ≠ 60 := by omega
    apply instant?_of_parts valid
    · show (t.seconds % 86400).toNat / 3600 < 24
      omega
    · show (t.seconds % 86400).toNat / 60 % 60 < 60
      omega
    · omega
    · rw [if_neg early, Nat.sub_zero, second]
      exact (congrArg (fun n => (n - epochDay) * 86400 + _) number).trans clock
    · rfl
    · rw [if_neg early]
      simp [fieldsOf, plain]
  · have second : (fieldsOf t).second = (t.seconds % 86400).toNat % 60 + 1 := by
      simp [fieldsOf, plain]
    have leap : (fieldsOf t).second = 60 := by omega
    apply instant?_of_parts valid
    · show (t.seconds % 86400).toNat / 3600 < 24
      omega
    · show (t.seconds % 86400).toNat / 60 % 60 < 60
      omega
    · omega
    · rw [if_pos leap, second, Nat.add_sub_cancel]
      exact (congrArg (fun n => (n - epochDay) * 86400 + _) number).trans clock
    · rfl
    · rw [if_pos leap]
      have nanos : (fieldsOf t).nanos = t.nanos - 1 * billion := by
        simp [fieldsOf, plain]
      omega

theorem read?_write (t : Instant) : read? (write t) = some t := by
  rw [read?, write, String.toList_ofList, looseFields_write]
  exact instant?_fieldsOf t

end Stamp
end Time
end FleetControl
