import FleetControl.Proofs.Json.Numeral

/-!
# The layout of finite numbers

The text of every finite number keeps to the rules of numerals.  The digits that are laid
out are those of a natural number, so they begin with a zero only if the number is zero,
and zero has no exponent.
-/

namespace FleetControl
namespace Decimal

open Json (Literal)
open Json.Literal

def Scaled.IsProper (s : Scaled) : Prop :=
  s.digits = 0 → s.exponent = 0

theorem Scaled.trimZeros_digits_ne_zero (fuel : Nat) {s : Scaled} (h : s.digits ≠ 0) :
    (s.trimZeros fuel).digits ≠ 0 := by
  induction fuel generalizing s with
  | zero => exact h
  | succ fuel ih =>
      unfold trimZeros
      split
      · rename_i cond
        apply ih
        show s.digits / 10 ≠ 0
        omega
      · exact h

theorem Scaled.trimZeros_of_digits_eq_zero (fuel : Nat) {s : Scaled} (h : s.digits = 0) :
    s.trimZeros fuel = s := by
  cases fuel with
  | zero => rfl
  | succ fuel => simp [trimZeros, h]

/-- Whichever tests a choice between a number and the next one makes, what it comes to is
not zero. -/
theorem chosen_digits_ne_zero {inside rounds above : Bool} {down : Nat} {grid : Int} {s : Scaled}
    (h : (if inside && 0 < down then
        if rounds then some { digits := down + 1, exponent := grid }
        else some { digits := down, exponent := grid }
      else if above then some { digits := down + 1, exponent := grid }
      else none) = some s) : s.digits ≠ 0 := by
  split at h
  · rename_i cond
    split at h
    · cases h
      simp
    · cases h
      simp only [Bool.and_eq_true, decide_eq_true_eq] at cond
      exact Nat.ne_of_gt cond.2
  · split at h
    · cases h
      simp
    · cases h

theorem onGrid?_digits_ne_zero {b : Binary} {grid : Int} {s : Scaled}
    (h : onGrid? b grid = some s) : s.digits ≠ 0 := by
  unfold onGrid? at h
  simp only at h
  exact chosen_digits_ne_zero h

theorem firstGrid_cases (b : Binary) (top : Int) (fuel count : Nat) :
    (firstGrid b top fuel count).digits ≠ 0 ∨
      firstGrid b top fuel count = { digits := 0, exponent := 0 } := by
  induction fuel generalizing count with
  | zero => exact Or.inr rfl
  | succ fuel ih =>
      unfold firstGrid
      split
      · rename_i s hgrid
        exact Or.inl (onGrid?_digits_ne_zero hgrid)
      · exact ih (count + 1)

theorem isProper_shortest (b : Binary) : (shortest b).IsProper := by
  intro hzero
  unfold shortest at hzero ⊢
  simp only at hzero ⊢
  rcases firstGrid_cases b (magnitude (quotientOf b.mantissa b.power 0).1
    (quotientOf b.mantissa b.power 0).2) 20 1 with found | none
  · exact absurd hzero (Scaled.trimZeros_digits_ne_zero 20 found)
  · rw [none, Scaled.trimZeros_of_digits_eq_zero 20 rfl]

/-!
# The four forms
-/

def IsNumeral (cs : List Char) : Prop :=
  ∃ l : Literal, l.IsSound ∧ l.negative = false ∧ l.chars = cs

theorem isNumeral_of (whole : List Char) (fraction : Option (List Char))
    (exponent : Option Json.Exponent) (hwhole : IsDigits whole)
    (lead : ∀ c more, whole ≠ '0' :: c :: more)
    (hfraction : ∀ ds, fraction = some ds → IsDigits ds)
    (hexponent : ∀ e, exponent = some e → IsDigits e.digits) :
    IsNumeral (whole ++ (fractionChars fraction ++ exponentChars exponent)) :=
  ⟨{ negative := false, whole := whole, fraction := fraction, exponent := exponent },
    ⟨hwhole, lead, hfraction, hexponent⟩, rfl, rfl⟩

theorem isDigits_append {ds es : List Char} (hd : IsDigits ds)
    (he : ∀ c ∈ es, Text.Numeral.isDigit c = true) : IsDigits (ds ++ es) := by
  constructor
  · simp [hd.1]
  · intro c hc
    rcases List.mem_append.mp hc with h | h
    · exact hd.2 c h
    · exact he c h

theorem isDigit_of_mem_zeros {k : Nat} {c : Char} (h : c ∈ List.replicate k '0') :
    Text.Numeral.isDigit c = true := by
  rw [(List.mem_replicate.mp h).2]
  rfl

theorem digits_lead {n : Nat} (h : n ≠ 0) {c : Char} {more : List Char}
    (heq : Nat.toDigits 10 n = c :: more) : c ≠ '0' := by
  intro hc
  rw [hc] at heq
  exact h (Text.Numeral.ofNat_lead heq).1

theorem isNumeral_whole {s : Scaled} (proper : s.IsProper) :
    IsNumeral (Nat.toDigits 10 s.digits ++ List.replicate s.exponent.toNat '0' ++ ['.', '0']) := by
  have hwhole : IsDigits (Nat.toDigits 10 s.digits ++ List.replicate s.exponent.toNat '0') :=
    isDigits_append (isDigits_ofNat s.digits) (fun _ h => isDigit_of_mem_zeros h)
  apply isNumeral_of _ (some ['0']) none hwhole
  · intro c more heq
    by_cases zero : s.digits = 0
    · rw [proper zero, zero] at heq
      simp [Nat.toDigits_zero] at heq
    · cases hds : Nat.toDigits 10 s.digits with
      | nil => exact Nat.toDigits_ne_nil hds
      | cons d ds =>
          rw [hds, List.cons_append] at heq
          exact digits_lead zero hds (List.cons.inj heq).1
  · intro ds h
    cases h
    exact ⟨by simp, by simp [Text.Numeral.isDigit]⟩
  · intro e h
    cases h

theorem isNumeral_point {n k : Nat} (nonzero : n ≠ 0) (low : 0 < k)
    (high : k < (Nat.toDigits 10 n).length) :
    IsNumeral ((Nat.toDigits 10 n).take k ++ '.' :: (Nat.toDigits 10 n).drop k) := by
  have digits := (isDigits_ofNat n).2
  have form := isNumeral_of ((Nat.toDigits 10 n).take k)
    (some ((Nat.toDigits 10 n).drop k)) none ?_ ?_ ?_ ?_
  · simpa [fractionChars, exponentChars] using form
  · constructor
    · intro h
      have len := congrArg List.length h
      simp only [List.length_take, List.length_nil] at len
      omega
    · exact fun c hc => digits c (List.mem_of_mem_take hc)
  · intro c more heq
    cases hds : Nat.toDigits 10 n with
    | nil => exact Nat.toDigits_ne_nil hds
    | cons d ds =>
        rcases Nat.exists_eq_succ_of_ne_zero (Nat.ne_of_gt low) with ⟨k, rfl⟩
        rw [hds, List.take_succ_cons] at heq
        exact digits_lead nonzero hds (List.cons.inj heq).1
  · intro ds h
    cases h
    constructor
    · intro h
      have len := congrArg List.length h
      simp only [List.length_drop, List.length_nil] at len
      omega
    · exact fun c hc => digits c (List.mem_of_mem_drop hc)
  · intro e h
    cases h

theorem isNumeral_small (n k : Nat) :
    IsNumeral ('0' :: '.' :: (List.replicate k '0' ++ Nat.toDigits 10 n)) := by
  have form := isNumeral_of ['0']
    (some (List.replicate k '0' ++ Nat.toDigits 10 n)) none ?_ ?_ ?_ ?_
  · simpa [fractionChars, exponentChars] using form
  · exact ⟨by simp, by simp [Text.Numeral.isDigit]⟩
  · intro c more heq
    cases heq
  · intro ds h
    cases h
    constructor
    · simp [Nat.toDigits_ne_nil]
    · intro c hc
      rcases List.mem_append.mp hc with zero | digit
      · exact isDigit_of_mem_zeros zero
      · exact (isDigits_ofNat n).2 c digit
  · intro e h
    cases h

theorem isNumeral_scientific {d : Char} {more : List Char} (e : Int)
    (digits : ∀ c ∈ d :: more, Text.Numeral.isDigit c = true) :
    IsNumeral
      ((match d :: more with
        | [] => []
        | [d] => [d]
        | d :: more => d :: '.' :: more) ++
        'e' :: (if e < 0 then '-' else '+') :: Nat.toDigits 10 e.natAbs) := by
  have exponent : ∀ x, some ({ negative := decide (e < 0)
                               digits := Nat.toDigits 10 e.natAbs } : Json.Exponent) = some x →
      IsDigits x.digits := by
    intro x h
    cases h
    exact isDigits_ofNat e.natAbs
  have whole : IsDigits [d] := ⟨by simp, by
    intro c hc
    rw [List.mem_singleton.mp hc]
    exact digits d List.mem_cons_self⟩
  have lead : ∀ (c : Char) (rest : List Char), [d] ≠ '0' :: c :: rest := by
    intro c rest heq
    cases heq
  cases more with
  | nil =>
      have form := isNumeral_of _ none _ whole lead (by simp) exponent
      simpa [fractionChars, exponentChars] using form
  | cons c rest =>
      have fraction : ∀ ds, some (c :: rest) = some ds → IsDigits ds := by
        intro ds h
        cases h
        exact ⟨by simp, fun x hx => digits x (List.mem_cons_of_mem d hx)⟩
      have form := isNumeral_of _ _ _ whole lead fraction exponent
      simpa [fractionChars, exponentChars] using form

theorem isNumeral_layout {s : Scaled} (proper : s.IsProper) : IsNumeral (layout s) := by
  have positive : 0 < (Nat.toDigits 10 s.digits).length := Nat.length_toDigits_pos
  have small : s.digits = 0 → (Nat.toDigits 10 s.digits).length = 1 := by
    intro h
    rw [h]
    rfl
  unfold layout
  simp only
  split
  · exact isNumeral_whole proper
  · rename_i notWhole
    simp only [Bool.and_eq_true, decide_eq_true_eq] at notWhole
    have nonzero : s.digits ≠ 0 := by
      intro h
      have e := proper h
      have one := small h
      omega
    split
    · rename_i inside
      simp only [Bool.and_eq_true, decide_eq_true_eq] at inside
      exact isNumeral_point nonzero (by omega) (by omega)
    · split
      · exact isNumeral_small s.digits _
      · cases hds : Nat.toDigits 10 s.digits with
        | nil => exact absurd hds Nat.toDigits_ne_nil
        | cons d more =>
            apply isNumeral_scientific
            intro c hc
            rw [← hds] at hc
            exact (isDigits_ofNat s.digits).2 c hc

/-- The text of a number, finite or not, keeps to the rules of numerals. -/
theorem exists_literal_ofFloat (x : Float) :
    ∃ l : Literal, l.IsSound ∧ l.chars = ofFloat x := by
  have unsigned : IsNumeral (if (Binary.ofFloat x).mantissa = 0 then ['0', '.', '0']
      else layout (shortest (Binary.ofFloat x))) := by
    split
    · exact isNumeral_whole (s := { digits := 0, exponent := 0 }) (fun _ => rfl)
    · exact isNumeral_layout (isProper_shortest _)
  rcases unsigned with ⟨l, sound, positive, hchars⟩
  refine ⟨{ l with negative := (Binary.ofFloat x).negative },
    ⟨sound.whole, sound.lead, sound.fraction, sound.exponent⟩, ?_⟩
  have body : l.whole ++ (fractionChars l.fraction ++ exponentChars l.exponent) =
      if (Binary.ofFloat x).mantissa = 0 then ['0', '.', '0']
      else layout (shortest (Binary.ofFloat x)) := by
    rw [← hchars]
    simp [chars, positive]
  simp only [chars, body, ofFloat]
  by_cases zero : (Binary.ofFloat x).mantissa = 0
  · simp [zero]
  · simp [zero]

end Decimal
end FleetControl
