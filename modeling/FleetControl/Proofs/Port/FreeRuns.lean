import Mathlib.Data.List.Pairwise
import FleetControl.Port.Lease

/-!
# Free runs

The free runs lie between the bounds, stand in ascending order and keep clear of all
occupied runs.  Ports that are taken from the front of free runs do so too.
-/

namespace FleetControl
namespace Port
namespace Run

def Apart (a b : Run) : Prop :=
  a.2 < b.1 ∨ b.2 < a.1

theorem Apart.symm {a b : Run} (h : Apart a b) : Apart b a :=
  Or.symm h

/-- One run ends before the other begins, and there are ports in between. -/
def Before (a b : Run) : Prop :=
  a.2 + 1 < b.1

theorem Before.apart {a b : Run} (h : Before a b) : Apart a b := by
  unfold Before at h
  unfold Apart
  omega

structure Leads (run whole : Run) : Prop where
  start : run.1 = whole.1
  proper : run.1 ≤ run.2
  stop : run.2 ≤ whole.2

theorem Leads.apart {run whole other : Run} (leads : Leads run whole)
    (apart : Apart whole other) : Apart run other := by
  have start := leads.start
  have stop := leads.stop
  unfold Apart at apart ⊢
  omega

theorem Leads.before {run whole other other' : Run} (leads : Leads run whole)
    (leads' : Leads other other') (before : Before whole other') : Before run other := by
  have stop := leads.stop
  have start := leads'.start
  unfold Before at before ⊢
  omega

end Run

open Run

/-!
# Where free runs lie
-/

theorem bounds_of_mem_freeRuns {stop cursor : Nat} {occupied : List Run} {run : Run}
    (h : run ∈ freeRuns stop cursor occupied) :
    cursor ≤ run.1 ∧ run.1 ≤ run.2 ∧ run.2 ≤ stop := by
  induction occupied generalizing cursor with
  | nil =>
      simp only [freeRuns] at h
      split at h
      · rename_i room
        cases List.mem_singleton.mp h
        exact ⟨Nat.le_refl _, room, Nat.le_refl _⟩
      · cases h
  | cons taken rest ih =>
      rcases taken with ⟨first, last⟩
      simp only [freeRuns] at h
      split at h
      · cases h
      · split at h
        · exact ih h
        · split at h
          · rcases List.mem_cons.mp h with rfl | h
            · simp only
              omega
            · have later := ih h
              omega
          · have later := ih h
            omega

/-- A free run keeps clear of the occupied runs, which come in the order of their first
ports. -/
theorem apart_of_mem_freeRuns {stop cursor : Nat} {occupied : List Run}
    (ascending : occupied.Pairwise (fun a b => a.1 ≤ b.1)) {run : Run}
    (h : run ∈ freeRuns stop cursor occupied) {taken : Run} (mem : taken ∈ occupied) :
    Apart run taken := by
  induction occupied generalizing cursor with
  | nil =>
      cases mem
  | cons head rest ih =>
      rcases head with ⟨first, last⟩
      rcases List.pairwise_cons.mp ascending with ⟨least, others⟩
      have within := bounds_of_mem_freeRuns h
      simp only [freeRuns] at h
      unfold Apart at ih ⊢
      split at h
      · cases h
      · split at h
        · rcases List.mem_cons.mp mem with rfl | mem
          · simp only
            omega
          · exact ih others h mem
        · split at h
          · rcases List.mem_cons.mp h with rfl | h
            · rcases List.mem_cons.mp mem with rfl | mem
              · simp only
                omega
              · have above := least taken mem
                simp only at above ⊢
                omega
            · have later := bounds_of_mem_freeRuns h
              rcases List.mem_cons.mp mem with rfl | mem
              · simp only
                omega
              · exact ih others h mem
          · have later := bounds_of_mem_freeRuns h
            rcases List.mem_cons.mp mem with rfl | mem
            · simp only
              omega
            · exact ih others h mem

theorem pairwise_before_freeRuns {stop cursor : Nat} {occupied : List Run}
    (proper : ∀ taken ∈ occupied, taken.1 ≤ taken.2) :
    (freeRuns stop cursor occupied).Pairwise Before := by
  induction occupied generalizing cursor with
  | nil =>
      unfold freeRuns
      split
      · exact List.pairwise_singleton _ _
      · exact List.Pairwise.nil
  | cons head rest ih =>
      rcases head with ⟨first, last⟩
      have sound : first ≤ last := proper (first, last) List.mem_cons_self
      have tail : ∀ cursor, (freeRuns stop cursor rest).Pairwise Before :=
        fun cursor => ih (fun taken mem => proper taken (List.mem_cons_of_mem _ mem))
      unfold freeRuns
      split
      · exact List.Pairwise.nil
      · split
        · exact tail cursor
        · split
          · refine List.pairwise_cons.mpr ⟨?_, tail _⟩
            intro later mem
            have within := bounds_of_mem_freeRuns mem
            unfold Before
            simp only
            omega
          · exact tail _

theorem pairwise_apart_freeRuns {stop cursor : Nat} {occupied : List Run}
    (proper : ∀ taken ∈ occupied, taken.1 ≤ taken.2) :
    (freeRuns stop cursor occupied).Pairwise Apart :=
  (pairwise_before_freeRuns proper).imp Before.apart

/-!
# Ports from the front of free runs
-/

theorem leads_leading {size : Nat} {run : Run} (positive : size ≠ 0)
    (fit : Tables.fits size run = true) (proper : run.1 ≤ run.2) :
    Leads (Tables.leading run size) run := by
  have width : size ≤ run.2 - run.1 + 1 := of_decide_eq_true fit
  constructor
  · rfl
  · show run.1 ≤ run.1 + size - 1
    omega
  · show run.1 + size - 1 ≤ run.2
    omega

theorem leads_of_mem_takePorts {size : Nat} {runs : List Run}
    (proper : ∀ run ∈ runs, run.1 ≤ run.2) {run : Run} (h : run ∈ takePorts size runs) :
    ∃ whole ∈ runs, Leads run whole := by
  induction runs generalizing size with
  | nil =>
      cases size <;> cases h
  | cons whole rest ih =>
      cases size with
      | zero => cases h
      | succ size =>
          rcases List.mem_cons.mp h with rfl | h
          · refine ⟨whole, List.mem_cons_self, leads_leading ?_ ?_ ?_⟩
            · simp [width]
            · exact decide_eq_true (Nat.min_le_right _ _)
            · exact proper whole List.mem_cons_self
          · rcases ih (fun run mem => proper run (List.mem_cons_of_mem _ mem)) h with
              ⟨other, mem, leads⟩
            exact ⟨other, List.mem_cons_of_mem _ mem, leads⟩

/-- How runs stand to one another, ports from the front of them do as well. -/
theorem pairwise_takePorts {R : Run → Run → Prop} {size : Nat} {runs : List Run}
    (inherit : ∀ {a b whole whole'}, Leads a whole → Leads b whole' → R whole whole' →
      R a b)
    (proper : ∀ run ∈ runs, run.1 ≤ run.2) (pairwise : runs.Pairwise R) :
    (takePorts size runs).Pairwise R := by
  induction runs generalizing size with
  | nil =>
      cases size <;> exact List.Pairwise.nil
  | cons whole rest ih =>
      cases size with
      | zero => exact List.Pairwise.nil
      | succ size =>
          rcases List.pairwise_cons.mp pairwise with ⟨head, tail⟩
          have others : ∀ run ∈ rest, run.1 ≤ run.2 :=
            fun run mem => proper run (List.mem_cons_of_mem _ mem)
          have sound : whole.1 ≤ whole.2 := proper whole List.mem_cons_self
          refine List.pairwise_cons.mpr ⟨?_, ih others tail⟩
          intro later mem
          rcases leads_of_mem_takePorts others mem with ⟨other, hother, leads⟩
          have first : Leads (Tables.leading whole (min (size + 1) whole.width)) whole := by
            refine leads_leading ?_ (decide_eq_true (Nat.min_le_right _ _)) sound
            simp [width]
          exact inherit first leads (head other hother)

theorem pairwise_apart_takePorts {size : Nat} {runs : List Run}
    (proper : ∀ run ∈ runs, run.1 ≤ run.2) (apart : runs.Pairwise Apart) :
    (takePorts size runs).Pairwise Apart :=
  pairwise_takePorts (fun first leads apart => first.apart (leads.apart apart.symm).symm)
    proper apart

theorem pairwise_before_takePorts {size : Nat} {runs : List Run}
    (proper : ∀ run ∈ runs, run.1 ≤ run.2) (before : runs.Pairwise Before) :
    (takePorts size runs).Pairwise Before :=
  pairwise_takePorts Leads.before proper before

end Port
end FleetControl
