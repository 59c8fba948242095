import FleetControl.Firewall.Basic
import FleetControl.Proofs.Port.RuleSet

/-!
# Acts on a firewall

A firewall job that has succeeded is an act on the firewall of its node: it opens rules or
it closes them.  After acts one after the other, a rule is as the last act that names it
says.  So what is wished for is there at the end exactly when no last word contradicts the
wish, provided that an act names each rule that was not as wished before.
-/

namespace FleetControl
namespace Firewall

open Port
open Time

structure Act where
  opens : Bool
  rules : List Rule
  deriving DecidableEq

namespace Act

def opened (act : Act) : List Rule :=
  if act.opens then act.rules else []

def closed (act : Act) : List Rule :=
  if act.opens then [] else act.rules

end Act

/-- Whether the last act that names a rule opens it. -/
def lastWord (r : Rule) : List Act → Option Bool
  | [] => none
  | act :: rest => (lastWord r rest).or (if r ∈ act.rules then some act.opens else none)

/-- The last word on every rule is what is wished for. -/
def EndsAsWished (desired : RuleSet) (acts : List Act) : Prop :=
  ∀ r opens, lastWord r acts = some opens → (opens = true ↔ r ∈ desired)

theorem lastWord_eq_none_iff {r : Rule} {acts : List Act} :
    lastWord r acts = none ↔ ∀ act ∈ acts, r ∉ act.rules := by
  induction acts with
  | nil => simp [lastWord]
  | cons act rest ih => simp [lastWord, ih, and_comm]

theorem exists_of_lastWord {r : Rule} {opens : Bool} {acts : List Act}
    (h : lastWord r acts = some opens) : ∃ act ∈ acts, r ∈ act.rules ∧ act.opens = opens := by
  induction acts with
  | nil => cases h
  | cons act rest ih =>
      rw [lastWord, Option.or_eq_some_iff] at h
      rcases h with h | ⟨_, h⟩
      · rcases ih h with ⟨later, mem, named⟩
        exact ⟨later, List.mem_cons_of_mem act mem, named⟩
      · split at h
        · rename_i named
          exact ⟨act, List.mem_cons_self, named, Option.some.inj h⟩
        · cases h

theorem lastWord_append (r : Rule) (first second : List Act) :
    lastWord r (first ++ second) = (lastWord r second).or (lastWord r first) := by
  induction first with
  | nil => simp [lastWord]
  | cons act rest ih => rw [List.cons_append, lastWord, ih, lastWord, Option.or_assoc]

theorem endsAsWished_of_forall {desired : RuleSet} {acts : List Act}
    (h : ∀ act ∈ acts, ∀ r ∈ act.rules, (act.opens = true ↔ r ∈ desired)) :
    EndsAsWished desired acts := by
  intro r opens word
  rcases exists_of_lastWord word with ⟨act, mem, named, rfl⟩
  exact h act mem r named

/-!
# The node after acts
-/

namespace Node

structure Becomes (f : Node) (acts : List Act) (g : Node) : Prop where
  openPorts : ∀ r, r ∈ g.openPorts ↔
    lastWord r acts = some true ∨ (lastWord r acts = none ∧ r ∈ f.openPorts)
  managed : ∀ r, r ∈ g.managed ↔
    lastWord r acts = some true ∨ (lastWord r acts = none ∧ r ∈ f.managed)

theorem becomes_nil (f : Node) : f.Becomes [] f := by
  constructor <;> simp [lastWord]

theorem Becomes.trans {f g h : Node} {first second : List Act} (before : f.Becomes first g)
    (after : g.Becomes second h) : f.Becomes (first ++ second) h := by
  constructor
  · intro r
    rw [after.openPorts, before.openPorts, lastWord_append]
    cases lastWord r second <;> simp
  · intro r
    rw [after.managed, before.managed, lastWord_append]
    cases lastWord r second <;> simp

theorem mem_act (s : RuleSet) (act : Act) (r : Rule) :
    r ∈ (s.insertAll act.opened).eraseAll act.closed ↔
      lastWord r [act] = some true ∨ (lastWord r [act] = none ∧ r ∈ s) := by
  by_cases named : r ∈ act.rules <;> cases opens : act.opens <;>
    simp [lastWord, Act.opened, Act.closed, named, opens]

theorem becomes_change (f : Node) (act : Act) (now : Instant) :
    f.Becomes [act] (f.change act.opened act.closed now) where
  openPorts := mem_act f.openPorts act
  managed := mem_act f.managed act

end Node

/-!
# Plans
-/

namespace Plan

variable {nodeId : String} {desired : RuleSet} {f g : Node} {r : Rule}

theorem mem_toOpen : r ∈ (between nodeId desired (some f)).toOpen ↔
    r ∈ desired ∧ r ∉ f.openPorts :=
  RuleSet.mem_difference

theorem mem_toClose : r ∈ (between nodeId desired (some f)).toClose ↔
    (r ∈ f.openPorts ∧ r ∈ f.managed) ∧ r ∉ desired :=
  RuleSet.mem_difference.trans (and_congr_left' RuleSet.mem_intersection)

theorem isEmpty_between : (between nodeId desired (some f)).isEmpty = true ↔
    ∀ r, (r ∈ desired → r ∈ f.openPorts) ∧
      (r ∈ f.openPorts → r ∈ f.managed → r ∈ desired) := by
  rw [isEmpty, Bool.and_eq_true, List.isEmpty_iff, List.isEmpty_iff,
    List.eq_nil_iff_forall_not_mem, List.eq_nil_iff_forall_not_mem, ← forall_and]
  refine forall_congr' fun r => ?_
  rw [mem_toOpen, mem_toClose, not_and, Decidable.not_not, not_and, Decidable.not_not, and_imp]

/-- Acts that name every rule of a plan leave nothing to plan exactly when they end as
wished. -/
theorem isEmpty_iff_endsAsWished {acts : List Act} (becomes : f.Becomes acts g)
    (opening : ∀ r ∈ (between nodeId desired (some f)).toOpen, lastWord r acts ≠ none)
    (closing : ∀ r ∈ (between nodeId desired (some f)).toClose, lastWord r acts ≠ none) :
    (between nodeId desired (some g)).isEmpty = true ↔ EndsAsWished desired acts := by
  rw [isEmpty_between]
  refine forall_congr' fun r => ?_
  rw [becomes.openPorts, becomes.managed]
  cases word : lastWord r acts with
  | none =>
      have open_ := mt mem_toOpen.mpr fun h => opening r h word
      have closed := mt mem_toClose.mpr fun h => closing r h word
      simp only [not_and, Decidable.not_not, and_imp] at open_ closed
      simpa using ⟨open_, closed⟩
  | some opens =>
      cases opens <;> simp

/-!
# Plans that are carried out
-/

/-- What the acts open is what was planned to be opened, and so for what they close. -/
structure CarriedOut (plan : Plan) (acts : List Act) : Prop where
  opening : ∀ r, (∃ act ∈ acts, act.opens = true ∧ r ∈ act.rules) ↔ r ∈ plan.toOpen
  closing : ∀ r, (∃ act ∈ acts, act.opens = false ∧ r ∈ act.rules) ↔ r ∈ plan.toClose

namespace CarriedOut

variable {acts : List Act} (carried : (between nodeId desired (some f)).CarriedOut acts)
include carried

theorem endsAsWished : EndsAsWished desired acts := by
  refine endsAsWished_of_forall fun act mem r hr => ?_
  cases opens : act.opens with
  | true =>
      have planned := mem_toOpen.mp ((carried.opening r).mp ⟨act, mem, opens, hr⟩)
      simpa using planned.1
  | false =>
      have planned := mem_toClose.mp ((carried.closing r).mp ⟨act, mem, opens, hr⟩)
      simpa using planned.2

theorem lastWord_ne_none (planned : r ∈ (between nodeId desired (some f)).toOpen ∨
      r ∈ (between nodeId desired (some f)).toClose) : lastWord r acts ≠ none := by
  intro none_
  rcases planned with planned | planned
  · rcases (carried.opening r).mpr planned with ⟨act, mem, _, hr⟩
    exact lastWord_eq_none_iff.mp none_ act mem hr
  · rcases (carried.closing r).mpr planned with ⟨act, mem, _, hr⟩
    exact lastWord_eq_none_iff.mp none_ act mem hr

variable (becomes : f.Becomes acts g)
include becomes

theorem isEmpty : (between nodeId desired (some g)).isEmpty = true :=
  (isEmpty_iff_endsAsWished becomes (fun _ planned => carried.lastWord_ne_none (.inl planned))
    (fun _ planned => carried.lastWord_ne_none (.inr planned))).mpr carried.endsAsWished

/-- What is open in the end is what is wished for and what was open without being managed. -/
theorem mem_openPorts :
    r ∈ g.openPorts ↔ r ∈ desired ∨ (r ∈ f.openPorts ∧ r ∉ f.managed) := by
  rw [becomes.openPorts]
  cases word : lastWord r acts with
  | none =>
      have kept := mt carried.lastWord_ne_none (not_not_intro word)
      rw [mem_toOpen, mem_toClose] at kept
      simp only [reduceCtorEq, false_or, true_and]
      grind
  | some opens =>
      have wished := carried.endsAsWished r opens word
      cases opens with
      | true => simpa using Or.inl (wished.mp rfl)
      | false =>
          rcases exists_of_lastWord word with ⟨act, mem, hr, closes⟩
          have planned := mem_toClose.mp ((carried.closing r).mp ⟨act, mem, closes, hr⟩)
          simp [planned.1.2, planned.2]

end CarriedOut
end Plan
end Firewall
end FleetControl
