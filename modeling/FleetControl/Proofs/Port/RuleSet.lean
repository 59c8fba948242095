import FleetControl.Port.RuleSet
import Mathlib.Data.List.Sort

/-!
# What is in a set of rules

A set made of a list holds the rules of the list.  Climbing passes a rule over only when
it stands on it already, because the rules come in ascending order and no two rules have
one rank.
-/

namespace FleetControl
namespace Port
namespace RuleSet

theorem eq_of_mem_iff {s t : RuleSet} (same : ∀ r, r ∈ s ↔ r ∈ t) : s = t := by
  have antisymm : Std.Antisymm (fun r s : Rule => r.rank < s.rank) :=
    ⟨fun _ _ h h' => absurd h' (Nat.lt_asymm h)⟩
  have irrefl : Std.Irrefl (fun r s : Rule => r.rank < s.rank) := ⟨fun _ => Nat.lt_irrefl _⟩
  have rules : s.rules = t.rules := s.ascending.eq_of_mem_iff t.ascending same
  cases s
  cases t
  cases rules
  rfl

theorem mem_climb {kept : List Rule} {first r : Rule}
    (below : ∀ a ∈ kept, a.rank ≤ first.rank) :
    r ∈ climb kept first ↔ r ∈ kept ∨ r = first := by
  cases kept with
  | nil => simp [climb]
  | cons top others =>
      rw [climb]
      split
      · rw [List.mem_cons, or_comm]
      · rename_i passed
        have same : top = first :=
          Rule.rank_injective (Nat.le_antisymm (below top List.mem_cons_self)
            (Nat.not_lt.mp passed))
        rw [← same]
        constructor
        · exact Or.inl
        · rintro (h | rfl)
          · exact h
          · exact List.mem_cons_self

theorem mem_foldl_climb {rules kept : List Rule} {r : Rule}
    (sorted : rules.Pairwise (fun a b => a.rank ≤ b.rank))
    (below : ∀ a ∈ kept, ∀ b ∈ rules, a.rank ≤ b.rank) :
    r ∈ rules.foldl climb kept ↔ r ∈ kept ∨ r ∈ rules := by
  induction rules generalizing kept with
  | nil => simp
  | cons first rest ih =>
      rcases List.pairwise_cons.mp sorted with ⟨least, sorted⟩
      have climbed : ∀ {a}, a ∈ climb kept first ↔ a ∈ kept ∨ a = first :=
        mem_climb fun a ha => below a ha first List.mem_cons_self
      rw [List.foldl_cons, ih sorted, climbed, List.mem_cons, or_assoc]
      intro a ha b hb
      rcases climbed.mp ha with ha | rfl
      · exact below a ha b (List.mem_cons_of_mem first hb)
      · exact least b hb

@[simp] theorem mem_ofList {rules : List Rule} {r : Rule} : r ∈ ofList rules ↔ r ∈ rules := by
  have sorted : (rules.mergeSort (fun r s => decide (r.rank ≤ s.rank))).Pairwise
      (fun a b => a.rank ≤ b.rank) := by
    refine (List.pairwise_mergeSort ?_ ?_ rules).imp fun h => of_decide_eq_true h
    · intro a b c hab hbc
      simp only [decide_eq_true_eq] at hab hbc ⊢
      exact Nat.le_trans hab hbc
    · intro a b
      simp only [Bool.or_eq_true, decide_eq_true_eq]
      exact Nat.le_total a.rank b.rank
  show r ∈ List.reverse _ ↔ _
  rw [List.mem_reverse, mem_foldl_climb sorted (by simp), List.mem_mergeSort]
  simp

@[simp] theorem mem_insertAll {s : RuleSet} {rules : List Rule} {r : Rule} :
    r ∈ s.insertAll rules ↔ r ∈ s ∨ r ∈ rules := by
  unfold insertAll
  split
  · rename_i none
    rw [List.isEmpty_iff.mp none]
    simp
  · rw [mem_ofList, List.mem_append]
    rfl

/-!
# Rules that are listed

Hash sets are not computed with in proofs, so what is taken out of a set is also told by
its list.
-/

theorem rules_eraseAll (s : RuleSet) (rules : List Rule) :
    (s.eraseAll rules).rules = s.rules.filter (fun r => decide (r ∉ rules)) := by
  simp [eraseAll, filter]

theorem rules_difference (s t : RuleSet) :
    (s.difference t).rules = s.rules.filter (fun r => decide (r ∉ t.rules)) :=
  s.rules_eraseAll t.rules

theorem rules_intersection (s t : RuleSet) :
    (s.intersection t).rules = s.rules.filter (fun r => decide (r ∈ t.rules)) := by
  refine List.filter_congr fun r _ => ?_
  simp

end RuleSet
end Port
end FleetControl
