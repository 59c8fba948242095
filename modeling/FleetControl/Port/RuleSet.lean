import Std.Data.HashSet
import FleetControl.Port.Rule

/-!
# Sets of port rules

A set lists its rules in ascending order, each once, so two sets with the same
rules are equal.
-/

namespace FleetControl
namespace Port

structure RuleSet where
  rules : List Rule
  ascending : rules.Pairwise (fun r s => r.rank < s.rank)
  deriving DecidableEq

namespace RuleSet

def empty : RuleSet :=
  { rules := [], ascending := List.Pairwise.nil }

instance : Inhabited RuleSet :=
  ⟨empty⟩

instance : Membership Rule RuleSet :=
  ⟨fun s r => r ∈ s.rules⟩

instance (r : Rule) (s : RuleSet) : Decidable (r ∈ s) :=
  inferInstanceAs (Decidable (r ∈ s.rules))

def isEmpty (s : RuleSet) : Bool :=
  s.rules.isEmpty

/-!
# Sets of lists

The rules are sorted and then climbed: a rule is kept when it stands above the
last rule kept.
-/

def climb (kept : List Rule) (r : Rule) : List Rule :=
  match kept with
  | [] => [r]
  | top :: _ => if top.rank < r.rank then r :: kept else kept

theorem descending_climb {kept : List Rule} {r : Rule}
    (h : kept.Pairwise (fun a b => b.rank < a.rank)) :
    (climb kept r).Pairwise (fun a b => b.rank < a.rank) := by
  cases kept with
  | nil =>
      simp [climb]
  | cons top rest =>
      simp only [climb]
      split
      · rename_i hlt
        refine List.pairwise_cons.mpr ⟨?_, h⟩
        intro a ha
        rcases List.mem_cons.mp ha with ha | ha
        · rw [ha]
          exact hlt
        · exact Nat.lt_trans ((List.pairwise_cons.mp h).1 a ha) hlt
      · exact h

theorem descending_foldl_climb (rules kept : List Rule)
    (h : kept.Pairwise (fun a b => b.rank < a.rank)) :
    (rules.foldl climb kept).Pairwise (fun a b => b.rank < a.rank) := by
  induction rules generalizing kept with
  | nil =>
      exact h
  | cons r rest ih =>
      exact ih (climb kept r) (descending_climb h)

def ofList (rules : List Rule) : RuleSet :=
  { rules :=
      ((rules.mergeSort (fun r s => decide (r.rank ≤ s.rank))).foldl climb []).reverse
    ascending := by
      rw [List.pairwise_reverse]
      exact descending_foldl_climb _ [] List.Pairwise.nil }

/-!
# Changes
-/

def filter (keep : Rule → Bool) (s : RuleSet) : RuleSet :=
  { rules := s.rules.filter keep
    ascending := List.Pairwise.sublist List.filter_sublist s.ascending }

def insertAll (s : RuleSet) (rules : List Rule) : RuleSet :=
  if rules.isEmpty then s else ofList (s.rules ++ rules)

def eraseAll (s : RuleSet) (rules : List Rule) : RuleSet :=
  let gone := Std.HashSet.ofList rules
  s.filter (fun r => !gone.contains r)

def difference (s t : RuleSet) : RuleSet :=
  s.eraseAll t.rules

def intersection (s t : RuleSet) : RuleSet :=
  let there := Std.HashSet.ofList t.rules
  s.filter there.contains

/-!
# Membership
-/

@[simp] theorem mem_eraseAll {s : RuleSet} {rules : List Rule} {r : Rule} :
    r ∈ s.eraseAll rules ↔ r ∈ s ∧ r ∉ rules := by
  show r ∈ (s.eraseAll rules).rules ↔ r ∈ s.rules ∧ r ∉ rules
  simp [eraseAll, filter]

@[simp] theorem mem_difference {s t : RuleSet} {r : Rule} :
    r ∈ s.difference t ↔ r ∈ s ∧ r ∉ t :=
  mem_eraseAll

@[simp] theorem mem_intersection {s t : RuleSet} {r : Rule} :
    r ∈ s.intersection t ↔ r ∈ s ∧ r ∈ t := by
  show r ∈ (s.intersection t).rules ↔ r ∈ s.rules ∧ r ∈ t.rules
  simp [intersection, filter]

end RuleSet
end Port
end FleetControl
