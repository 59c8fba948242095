import FleetControl.Time.Instant

/-!
# The order of instants

Instants are ordered by their seconds, and within a second by their nanoseconds.  A whole
number of seconds later the fraction of the second is the same.  A leap second counts as the
second after it, and no sum goes beyond the last second.
-/

namespace FleetControl
namespace Time
namespace Instant

theorem le_iff {a b : Instant} :
    a ≤ b ↔ a.seconds < b.seconds ∨ (a.seconds = b.seconds ∧ a.nanos ≤ b.nanos) := by
  show ¬ (b.seconds < a.seconds ∨ (b.seconds = a.seconds ∧ b.nanos < a.nanos)) ↔ _
  omega

protected theorem not_lt {a b : Instant} : ¬ a < b ↔ b ≤ a :=
  Iff.rfl

theorem lt_iff {a b : Instant} :
    a < b ↔ a.seconds < b.seconds ∨ (a.seconds = b.seconds ∧ a.nanos < b.nanos) :=
  Iff.rfl

protected theorem lt_irrefl (a : Instant) : ¬ a < a := by
  rw [lt_iff]
  omega

protected theorem lt_trans {a b c : Instant} (h : a < b) (h' : b < c) : a < c := by
  rw [lt_iff] at h h' ⊢
  omega

theorem lt_trichotomy (a b : Instant) : a < b ∨ a = b ∨ b < a := by
  by_cases same : a.seconds = b.seconds ∧ a.nanos = b.nanos
  · rcases a with ⟨seconds, nanos, _, _⟩
    rcases b with ⟨seconds', nanos', _, _⟩
    rcases same with ⟨rfl, rfl⟩
    exact Or.inr (Or.inl rfl)
  · rw [lt_iff, lt_iff]
    omega

protected theorem le_refl (a : Instant) : a ≤ a := by
  rw [le_iff]
  exact Or.inr ⟨rfl, Nat.le_refl _⟩

protected theorem le_trans {a b c : Instant} (h : a ≤ b) (h' : b ≤ c) : a ≤ c := by
  rw [le_iff] at h h' ⊢
  omega

protected theorem seconds_le {a b : Instant} (h : a ≤ b) : a.seconds ≤ b.seconds := by
  rw [le_iff] at h
  omega

theorem le_later (a b : Instant) : a ≤ a.later b := by
  unfold later
  split
  · exact Instant.le_refl a
  · rename_i h
    exact Instant.not_lt.mp h

/-!
# Spans of whole seconds
-/

theorem make?_eq_some_iff {seconds : Int} {nanos : Nat} {t : Instant} :
    make? seconds nanos = some t ↔ t.seconds = seconds ∧ t.nanos = nanos := by
  unfold make?
  split
  · rw [Option.some.injEq]
    constructor
    · rintro rfl
      exact ⟨rfl, rfl⟩
    · rintro ⟨rfl, rfl⟩
      rfl
  · rename_i outside
    refine iff_of_false (by simp) ?_
    rintro ⟨rfl, rfl⟩
    exact outside ⟨t.bounded, t.fine⟩

theorem make?_eq_none_iff {seconds : Int} {nanos : Nat} (fine : nanos < billion) :
    make? seconds nanos = none ↔ ¬ (firstSecond ≤ seconds ∧ seconds ≤ lastSecond) := by
  simp [make?, fine]

theorem addMillis_of_eq_some {t u : Instant} {k : Int} (h : t.addMillis? k = some u) :
    t.addMillis k = u := by
  rw [addMillis, h, Option.getD_some]

theorem addSeconds_of_eq_some {t u : Instant} {k : Int} (h : t.addSeconds? k = some u) :
    t.addSeconds k = u :=
  addMillis_of_eq_some h

theorem normal?_eq_make? {seconds : Int} {nanos : Nat} (fine : nanos < billion) :
    normal? seconds nanos = make? seconds nanos := by
  have carry : (nanos : Int) / (billion : Int) = 0 :=
    Int.ediv_eq_zero_of_lt (Int.natCast_nonneg _) (by omega)
  have rest : (nanos : Int) % (billion : Int) = nanos :=
    Int.emod_eq_of_lt (Int.natCast_nonneg _) (by omega)
  rw [normal?, carry, rest, Int.add_zero, Int.toNat_natCast]

theorem addSeconds?_eq_make? {t : Instant} {k : Int} (h : 0 < k) :
    t.addSeconds? k = make? (t.seconds + k) (t.nanos % billion) := by
  have whole : Int.tdiv (1000 * k) 1000 = k := Int.mul_tdiv_cancel_left k (by decide)
  have rest : Int.tmod (1000 * k) 1000 = 0 := Int.mul_tmod_right 1000 k
  rw [← normal?_eq_make? (Nat.mod_lt _ (by decide))]
  unfold addSeconds? addMillis?
  simp only [whole, rest, Int.zero_mul, Int.add_zero, h, true_or, if_true]
  split
  · rename_i ordinary
    rw [Nat.mod_eq_of_lt ordinary]
  · rename_i leap
    have fine : t.nanos < 2 * billion := by
      rcases t.fine with fine | fine
      · exact absurd fine leap
      · exact fine.2
    have nanos : ((t.nanos % billion : Nat) : Int) = (t.nanos : Int) - billion := by
      rw [Nat.mod_eq_sub_mod (Nat.le_of_not_lt leap), Nat.mod_eq_of_lt (by omega)]
      omega
    rw [nanos]

theorem addSeconds?_eq_some_iff {t u : Instant} {k : Int} (h : 0 < k) :
    t.addSeconds? k = some u ↔ u.seconds = t.seconds + k ∧ u.nanos = t.nanos % billion := by
  rw [addSeconds?_eq_make? h, make?_eq_some_iff]

theorem addSeconds?_eq_none_iff {t : Instant} {k : Int} (h : 0 < k) :
    t.addSeconds? k = none ↔ lastSecond < t.seconds + k := by
  have low := t.bounded.1
  rw [addSeconds?_eq_make? h, make?_eq_none_iff (Nat.mod_lt _ (by decide))]
  omega

theorem addSeconds_of_le {t : Instant} {k : Int} (h : 0 < k)
    (high : t.seconds + k ≤ lastSecond) :
    (t.addSeconds k).seconds = t.seconds + k ∧
      (t.addSeconds k).nanos = t.nanos % billion := by
  cases sum : t.addSeconds? k with
  | none =>
      rw [addSeconds?_eq_none_iff h] at sum
      omega
  | some u =>
      rw [addSeconds_of_eq_some sum]
      exact (addSeconds?_eq_some_iff h).mp sum

theorem addSeconds_of_gt {t : Instant} {k : Int} (h : 0 < k)
    (high : lastSecond < t.seconds + k) : (t.addSeconds k).seconds = lastSecond := by
  have sum := (addSeconds?_eq_none_iff h).mpr high
  rw [addSeconds?] at sum
  have forward : ¬ 1000 * k < 0 := by omega
  rw [addSeconds, addMillis, sum, Option.getD_none, if_neg forward, last]

/-- Before the last second, a time that lies a span behind another shows it. -/
theorem addSeconds_le_iff {a b : Instant} {k : Int} (h : 0 < k)
    (before : b.seconds < lastSecond) :
    a.addSeconds k ≤ b ↔ a.seconds + k < b.seconds ∨
      (a.seconds + k = b.seconds ∧ a.nanos % billion ≤ b.nanos) := by
  rw [le_iff]
  rcases Int.lt_or_le lastSecond (a.seconds + k) with high | high
  · rw [addSeconds_of_gt h high]
    omega
  · rcases addSeconds_of_le h high with ⟨seconds, nanos⟩
    rw [seconds, nanos]

end Instant
end Time
end FleetControl
