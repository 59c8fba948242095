import Mathlib.Algebra.GroupWithZero.Nat
import FleetControl.Text.Blank
import FleetControl.Text.Numeral

/-!
# Numerals of natural numbers

The digits of a number are read back as the number, also with zeros in front of them.
A numeral that begins with a zero is the numeral of zero.
-/

namespace FleetControl
namespace Text
namespace Numeral

theorem isDigit_of_mem_ofNat {n : Nat} {c : Char} (h : c ∈ ofNat n) : isDigit c = true := by
  have digit : c.isDigit = true := Nat.isDigit_of_mem_toDigits (by decide) (by decide) h
  simp only [Char.isDigit, Bool.and_eq_true, decide_eq_true_eq] at digit
  simp only [isDigit, Bool.and_eq_true, decide_eq_true_eq]
  exact digit

theorem isDigit_of_ofNat_eq_cons {n : Nat} {c : Char} {rest : List Char}
    (h : ofNat n = c :: rest) : isDigit c = true :=
  isDigit_of_mem_ofNat (n := n) (h ▸ List.mem_cons_self)

theorem ofNat_ne_nil (n : Nat) : ofNat n ≠ [] :=
  Nat.toDigits_ne_nil

@[simp] theorem value_ofNat (n : Nat) : value 0 (ofNat n) = n :=
  Nat.ofDigitChars_ten_toDigits

theorem isBlank_of_isDigit {c : Char} (h : isDigit c = true) : isBlank c = false := by
  simp only [isDigit, Bool.and_eq_true, decide_eq_true_eq] at h
  have low : 48 ≤ c.toNat := h.1
  have high : c.toNat ≤ 57 := h.2
  simp only [isBlank, Bool.or_eq_false_iff, Bool.and_eq_false_iff, decide_eq_false_iff_not,
    beq_eq_false_iff_ne]
  omega

@[simp] theorem digits?_ofNat (n : Nat) : digits? (ofNat n) = some n := by
  unfold digits?
  rw [if_neg, value_ofNat]
  simp only [Bool.or_eq_true, List.isEmpty_iff, Bool.not_eq_true', not_or, Bool.not_eq_false,
    List.all_eq_true]
  exact ⟨ofNat_ne_nil n, fun c hc => isDigit_of_mem_ofNat hc⟩

theorem natural?_ofNat {bound n : Nat} (below : n < bound) :
    natural? bound (ofNat n) = some n := by
  have unsigned : natural? bound (ofNat n) = (digits? (ofNat n)).filter (· < bound) := by
    unfold natural?
    split
    · rename_i rest signed
      cases isDigit_of_ofNat_eq_cons signed
    · rfl
  rw [unsigned, digits?_ofNat]
  simp [below]

@[simp] theorem uint16?_ofNat (n : UInt16) : uint16? (ofNat n.toNat) = some n := by
  rw [uint16?, natural?_ofNat n.toNat_lt, Option.map_some, UInt16.ofNat_toNat]

theorem ofNat_lead {n : Nat} {more : List Char} (h : ofNat n = '0' :: more) :
    n = 0 ∧ more = [] := by
  induction n using Nat.strongRecOn generalizing more with
  | ind n ih =>
      unfold ofNat at h
      by_cases small : n < 10
      · rw [Nat.toDigits_of_lt_base small] at h
        have all : ∀ k : Fin 10, Nat.digitChar k.val = '0' → k.val = 0 := by decide
        rcases List.cons.inj h with ⟨hd, hmore⟩
        exact ⟨all ⟨n, small⟩ hd, hmore.symm⟩
      · have base : 10 ≤ n := Nat.le_of_not_lt small
        rw [Nat.toDigits_of_base_le (by decide) base] at h
        cases hq : Nat.toDigits 10 (n / 10) with
        | nil => exact absurd hq Nat.toDigits_ne_nil
        | cons c rest =>
            rw [hq, List.cons_append] at h
            rcases List.cons.inj h with ⟨hc, _⟩
            rw [hc] at hq
            have zero := (ih (n / 10) (by omega) hq).1
            omega

/-!
# All that is read
-/

def Writes (n : Nat) (cs : List Char) : Prop :=
  ∃ digits, (cs = digits ∨ cs = '+' :: digits) ∧ digits ≠ [] ∧
    (∀ c ∈ digits, isDigit c = true) ∧ value 0 digits = n

theorem digits?_eq_some_iff {cs : List Char} {n : Nat} :
    digits? cs = some n ↔ cs ≠ [] ∧ (∀ c ∈ cs, isDigit c = true) ∧ value 0 cs = n := by
  simp [digits?, Option.ite_none_left_eq_some, and_assoc]

theorem natural?_eq_some_iff {bound n : Nat} {cs : List Char} :
    natural? bound cs = some n ↔ Writes n cs ∧ n < bound := by
  have read : ∀ {digits : List Char}, (digits? digits).filter (· < bound) = some n ↔
      digits ≠ [] ∧ (∀ c ∈ digits, isDigit c = true) ∧ value 0 digits = n ∧ n < bound := by
    intro digits
    simp [Option.filter_eq_some_iff, digits?_eq_some_iff, and_assoc]
  unfold natural?
  split
  · rename_i rest
    rw [read]
    constructor
    · rintro ⟨some_, digits, number, below⟩
      exact ⟨⟨rest, Or.inr rfl, some_, digits, number⟩, below⟩
    · rintro ⟨⟨digits, rfl | same, some_, plain, number⟩, below⟩
      · cases plain '+' List.mem_cons_self
      · cases same
        exact ⟨some_, plain, number, below⟩
  · rename_i unsigned
    rw [read]
    constructor
    · rintro ⟨some_, digits, number, below⟩
      exact ⟨⟨cs, Or.inl rfl, some_, digits, number⟩, below⟩
    · rintro ⟨⟨digits, rfl | same, some_, plain, number⟩, below⟩
      · exact ⟨some_, plain, number, below⟩
      · exact absurd same (unsigned digits)

theorem uint16?_eq_some_iff {cs : List Char} {n : UInt16} :
    uint16? cs = some n ↔ Writes n.toNat cs := by
  rw [uint16?, Option.map_eq_some_iff]
  constructor
  · rintro ⟨k, read, rfl⟩
    rcases natural?_eq_some_iff.mp read with ⟨writes, below⟩
    rw [UInt16.toNat_ofNat_of_lt' below]
    exact writes
  · intro writes
    exact ⟨n.toNat, natural?_eq_some_iff.mpr ⟨writes, n.toNat_lt⟩, UInt16.ofNat_toNat⟩

theorem Writes.of_mem {n : Nat} {cs : List Char} {c : Char} (writes : Writes n cs)
    (h : c ∈ cs) : c = '+' ∨ isDigit c = true := by
  rcases writes with ⟨digits, rfl | rfl, _, plain, _⟩
  · exact Or.inr (plain c h)
  · rcases List.mem_cons.mp h with plus | digit
    · exact Or.inl plus
    · exact Or.inr (plain c digit)

/-!
# Zeros in front
-/

theorem value_replicate_zero (k : Nat) (ds : List Char) :
    value 0 (List.replicate k '0' ++ ds) = value 0 ds := by
  induction k with
  | zero => rfl
  | succ k ih =>
      rw [List.replicate_succ, List.cons_append, ← ih]
      rfl

@[simp] theorem value_padded (width n : Nat) : value 0 (padded width n) = n := by
  simp [padded, value_replicate_zero]

theorem isDigit_of_mem_padded {width n : Nat} {c : Char} (h : c ∈ padded width n) :
    isDigit c = true := by
  rcases List.mem_append.mp h with zero | digit
  · rw [(List.mem_replicate.mp zero).2]
    rfl
  · exact isDigit_of_mem_ofNat digit

theorem length_padded {width n : Nat} (positive : 0 < width) (fits : n < 10 ^ width) :
    (padded width n).length = width := by
  have short : (ofNat n).length ≤ width :=
    (Nat.length_toDigits_le_iff (by decide) positive).mpr fits
  simp only [padded, List.length_append, List.length_replicate]
  omega

theorem le_length_padded (width n : Nat) : width ≤ (padded width n).length := by
  simp only [padded, List.length_append, List.length_replicate]
  omega

end Numeral
end Text
end FleetControl
