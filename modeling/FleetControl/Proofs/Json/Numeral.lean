import FleetControl.Json.Numeral
import FleetControl.Json.Render
import FleetControl.Proofs.Text.Numeral

/-!
# Numerals read back

A numeral that is written by the rules is read back as it was written, up to the first
character that cannot belong to it.  The numeral of a whole number gives that number; the
numeral of a finite number keeps to the rules, but what it gives is another matter.
-/

namespace FleetControl
namespace Json

open Text

namespace Literal

/-!
# Written numerals
-/

def exponentChars : Option Exponent → List Char
  | some e => 'e' :: (if e.negative then '-' else '+') :: e.digits
  | none => []

def fractionChars : Option (List Char) → List Char
  | some ds => '.' :: ds
  | none => []

def chars (l : Literal) : List Char :=
  (if l.negative then ['-'] else []) ++
    (l.whole ++ (fractionChars l.fraction ++ exponentChars l.exponent))

def IsDigits (ds : List Char) : Prop :=
  ds ≠ [] ∧ ∀ c ∈ ds, Numeral.isDigit c = true

structure IsSound (l : Literal) : Prop where
  whole : IsDigits l.whole
  lead : ∀ c more, l.whole ≠ '0' :: c :: more
  fraction : ∀ ds, l.fraction = some ds → IsDigits ds
  exponent : ∀ e, l.exponent = some e → IsDigits e.digits

def Ends : List Char → Prop
  | [] => True
  | c :: _ => Numeral.isDigit c = false ∧ c ≠ '.' ∧ c ≠ 'e' ∧ c ≠ 'E'

def EndsDigits : List Char → Prop
  | [] => True
  | c :: _ => Numeral.isDigit c = false

theorem Ends.digits {cs : List Char} (h : Ends cs) : EndsDigits cs := by
  cases cs with
  | nil => trivial
  | cons c cs => exact h.1

/-!
# Reading the parts
-/

theorem takeDigits_append {ds rest : List Char}
    (digits : ∀ c ∈ ds, Numeral.isDigit c = true) (ends : EndsDigits rest) :
    takeDigits (ds ++ rest) = (ds, rest) := by
  induction ds with
  | nil =>
      cases rest with
      | nil => rfl
      | cons c rest =>
          have hc : Numeral.isDigit c = false := ends
          simp [takeDigits, hc]
  | cons d ds ih =>
      have hd := digits d List.mem_cons_self
      have htail := ih (fun c hc => digits c (List.mem_cons_of_mem _ hc))
      simp only [takeDigits, Prod.mk.injEq] at htail
      simp [takeDigits, hd, htail]

theorem takeExponent?_none {rest : List Char} (ends : Ends rest) :
    takeExponent? rest = some (none, rest) := by
  cases rest with
  | nil => rfl
  | cons c rest =>
      rcases ends with ⟨_, _, small, large⟩
      simp [takeExponent?, small, large]

theorem takeExponent?_some {e : Exponent} {rest : List Char} (sound : IsDigits e.digits)
    (ends : EndsDigits rest) :
    takeExponent? (exponentChars (some e) ++ rest) = some (some e, rest) := by
  rcases e with ⟨negative, ds⟩
  rcases sound with ⟨nonempty, digits⟩
  cases ds with
  | nil => exact absurd rfl nonempty
  | cons d ds =>
      have htake : takeDigits (d :: (ds ++ rest)) = (d :: ds, rest) :=
        takeDigits_append digits ends
      cases negative <;> simp [takeExponent?, exponentChars, htake]

theorem takeFraction?_none {rest : List Char} (point : ∀ more, rest ≠ '.' :: more) :
    takeFraction? rest = some (none, rest) := by
  unfold takeFraction?
  split
  · rename_i more
    exact absurd rfl (point more)
  · rfl

theorem takeFraction?_some {ds rest : List Char} (sound : IsDigits ds)
    (ends : EndsDigits rest) :
    takeFraction? ('.' :: ds ++ rest) = some (some ds, rest) := by
  rcases sound with ⟨nonempty, digits⟩
  simp only [takeFraction?, List.cons_append, takeDigits_append digits ends]

/-!
# Reading the whole
-/

theorem endsDigits_exponent {e : Option Exponent} {rest : List Char} (ends : Ends rest) :
    EndsDigits (exponentChars e ++ rest) := by
  cases e with
  | none => exact ends.digits
  | some e => rfl

theorem endsDigits_fraction {f : Option (List Char)} {rest : List Char}
    (ends : EndsDigits rest) : EndsDigits (fractionChars f ++ rest) := by
  cases f with
  | none => exact ends
  | some ds => rfl

theorem takeExponent?_chars {e : Option Exponent} {rest : List Char}
    (sound : ∀ x, e = some x → IsDigits x.digits) (ends : Ends rest) :
    takeExponent? (exponentChars e ++ rest) = some (e, rest) := by
  cases e with
  | none => exact takeExponent?_none ends
  | some e => exact takeExponent?_some (sound e rfl) ends.digits

theorem takeFraction?_chars {f : Option (List Char)} {rest : List Char}
    (sound : ∀ ds, f = some ds → IsDigits ds) (ends : EndsDigits rest)
    (point : ∀ more, rest ≠ '.' :: more) :
    takeFraction? (fractionChars f ++ rest) = some (f, rest) := by
  cases f with
  | none => exact takeFraction?_none point
  | some ds => exact takeFraction?_some (sound ds rfl) ends

theorem exponentChars_append_ne_point {e : Option Exponent} {rest : List Char}
    (ends : Ends rest) (more : List Char) : exponentChars e ++ rest ≠ '.' :: more := by
  intro h
  cases e with
  | some e => simp [exponentChars] at h
  | none =>
      simp only [exponentChars, List.nil_append] at h
      rw [h] at ends
      exact ends.2.1 rfl

def body? (negative : Bool) (cs : List Char) : Option (Literal × List Char) := do
  let (whole, cs) := takeDigits cs
  match whole with
  | [] => none
  | '0' :: _ :: _ => none
  | _ =>
      let (fraction, cs) ← takeFraction? cs
      let (exponent, cs) ← takeExponent? cs
      return ({ negative := negative, whole := whole, fraction := fraction,
                exponent := exponent }, cs)

theorem take?_minus (cs : List Char) : take? ('-' :: cs) = body? true cs := rfl

theorem take?_of_ne_minus {c : Char} (h : c ≠ '-') (cs : List Char) :
    take? (c :: cs) = body? false (c :: cs) := by
  unfold take? body?
  split
  rename_i negative more heq
  split at heq
  · rename_i tail same
    exact absurd (List.cons.inj same).1 h
  · cases heq
    rfl

theorem body?_chars {l : Literal} {rest : List Char} (sound : l.IsSound) (ends : Ends rest) :
    body? l.negative
      (l.whole ++ (fractionChars l.fraction ++ (exponentChars l.exponent ++ rest))) =
      some (l, rest) := by
  have behind := endsDigits_fraction (f := l.fraction)
    (endsDigits_exponent (e := l.exponent) ends)
  have fraction := takeFraction?_chars sound.fraction (endsDigits_exponent (e := l.exponent) ends)
    (exponentChars_append_ne_point ends)
  have exponent := takeExponent?_chars sound.exponent ends
  unfold body?
  rw [takeDigits_append sound.whole.2 behind]
  simp only
  split
  · rename_i hnil
    exact absurd hnil sound.whole.1
  · rename_i c more hzero
    exact absurd hzero (sound.lead c more)
  · simp [fraction, exponent]

theorem take?_chars {l : Literal} {rest : List Char} (sound : l.IsSound) (ends : Ends rest) :
    take? (l.chars ++ rest) = some (l, rest) := by
  have body := body?_chars sound ends
  cases hneg : l.negative with
  | true =>
      rw [hneg] at body
      simp only [chars, hneg, if_true, List.append_assoc]
      exact (take?_minus _).trans body
  | false =>
      rw [hneg] at body
      rcases List.exists_cons_of_ne_nil sound.whole.1 with ⟨d, more, hwhole⟩
      have digit : Numeral.isDigit d = true := sound.whole.2 d (by rw [hwhole]; simp)
      have minus : d ≠ '-' := by
        intro heq
        rw [heq] at digit
        simp [Numeral.isDigit] at digit
      simp only [chars, hneg, List.append_assoc]
      rw [hwhole] at body ⊢
      exact (take?_of_ne_minus minus _).trans body

/-!
# Whole numbers
-/

theorem isDigits_ofNat (n : Nat) : IsDigits (Numeral.ofNat n) :=
  ⟨Numeral.ofNat_ne_nil n, fun _ h => Numeral.isDigit_of_mem_ofNat h⟩

theorem ofNat_lead (n : Nat) (c : Char) (more : List Char) :
    Numeral.ofNat n ≠ '0' :: c :: more := by
  intro h
  have tail := (Numeral.ofNat_lead h).2
  cases tail

def ofWhole (value : Int) : Literal :=
  { negative := value < 0
    whole := Numeral.ofNat value.natAbs
    fraction := none
    exponent := none }

theorem isSound_ofWhole (value : Int) : (ofWhole value).IsSound := by
  constructor
  · exact isDigits_ofNat value.natAbs
  · exact ofNat_lead value.natAbs
  · intro ds h
    cases h
  · intro e h
    cases h

theorem number?_ofWhole (value : Int)
    (fits : -0x8000000000000000 ≤ value ∧ value < 0x10000000000000000) :
    (ofWhole value).number? = some (.whole value fits) := by
  have size : value.natAbs < UInt64.size := by
    have width : UInt64.size = 0x10000000000000000 := rfl
    omega
  simp only [number?, ofWhole, Numeral.value_ofNat, Option.isNone_none, size, Bool.true_and,
    decide_true, if_true]
  by_cases negative : value < 0
  · have range : 0 < value.natAbs ∧ value.natAbs ≤ 0x8000000000000000 := by omega
    have same : -(value.natAbs : Int) = value := by omega
    simp only [negative, range, same, decide_true, and_self, dite_true]
  · have same : (value.natAbs : Int) = value := by omega
    simp only [negative, same, decide_false, Bool.false_eq_true, dite_false, dite_true]

theorem chars_ofWhole (value : Int)
    (fits : -0x8000000000000000 ≤ value ∧ value < 0x10000000000000000) :
    (ofWhole value).chars = numeral (.whole value fits) := by
  by_cases negative : value < 0
  · simp [chars, ofWhole, fractionChars, exponentChars, numeral, Numeral.ofNat, negative]
  · simp [chars, ofWhole, fractionChars, exponentChars, numeral, Numeral.ofNat, negative]

end Literal
end Json
end FleetControl
