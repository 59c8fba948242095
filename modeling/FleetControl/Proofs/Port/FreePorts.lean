import Mathlib.Data.List.Sort
import FleetControl.Proofs.Port.FreeRuns

/-!
# The ports of free runs

A stretch of ports between the bounds that no occupied run touches lies on one free run,
whichever way the occupied runs overlap.  So the ports of the free runs, one run after the
other, are the free ports in ascending order.
-/

namespace FleetControl
namespace Port
namespace Run

def Holds (run : Run) (port : Nat) : Prop :=
  run.1 ≤ port ∧ port ≤ run.2

instance (run : Run) (port : Nat) : Decidable (run.Holds port) :=
  inferInstanceAs (Decidable (_ ∧ _))

structure Within (part whole : Run) : Prop where
  start : whole.1 ≤ part.1
  stop : part.2 ≤ whole.2

theorem apart_of_holds_no_port {a b : Run} (ha : a.1 ≤ a.2) (hb : b.1 ≤ b.2)
    (none_ : ∀ port, a.Holds port → ¬ b.Holds port) : Apart a b := by
  have first : ¬ b.Holds a.1 := none_ a.1 ⟨Nat.le_refl _, ha⟩
  have second : ¬ a.Holds b.1 := fun inside => none_ b.1 inside ⟨Nat.le_refl _, hb⟩
  unfold Holds at first second
  unfold Apart
  omega

theorem Apart.not_holds {a b : Run} (apart : Apart a b) {port : Nat} (h : a.Holds port) :
    ¬ b.Holds port := by
  unfold Holds at h ⊢
  unfold Apart at apart
  omega

/-!
# Listing ports
-/

def ports (run : Run) : List Nat :=
  List.range' run.1 (run.2 + 1 - run.1)

@[simp] theorem mem_ports {run : Run} {port : Nat} : port ∈ run.ports ↔ run.Holds port := by
  unfold ports Holds
  rw [List.mem_range'_1]
  omega

theorem length_ports {run : Run} (proper : run.1 ≤ run.2) : run.ports.length = run.width := by
  rw [ports, List.length_range', width, Nat.sub_add_comm proper]

theorem ports_leading {run : Run} {size : Nat} (positive : size ≠ 0)
    (room : size ≤ run.2 + 1 - run.1) :
    ports (Tables.leading run size) = run.ports.take size := by
  have width : (Tables.leading run size).2 + 1 - run.1 = size := by
    show run.1 + size - 1 + 1 - run.1 = size
    omega
  have split : run.2 + 1 - run.1 = size + (run.2 + 1 - run.1 - size) := by omega
  unfold ports
  rw [split, ← List.range'_append_1, List.take_left' List.length_range']
  exact congrArg (List.range' run.1) width

end Run

open Run

def portsOf (runs : List Run) : List Nat :=
  runs.flatMap ports

theorem mem_portsOf {runs : List Run} {port : Nat} :
    port ∈ portsOf runs ↔ ∃ run ∈ runs, run.Holds port := by
  simp only [portsOf, List.mem_flatMap, mem_ports]

theorem ascending_portsOf {runs : List Run} (before : runs.Pairwise Before) :
    (portsOf runs).Pairwise (· < ·) := by
  refine List.pairwise_flatMap.mpr ⟨fun run _ => List.pairwise_lt_range', before.imp ?_⟩
  intro a b before port first later second
  have last := (mem_ports.mp first).2
  have start := (mem_ports.mp second).1
  unfold Before at before
  omega

theorem length_portsOf {runs : List Run} (proper : ∀ run ∈ runs, run.1 ≤ run.2) :
    (portsOf runs).length = totalWidth runs := by
  induction runs with
  | nil => rfl
  | cons run rest ih =>
      have tail := ih (fun other mem => proper other (List.mem_cons_of_mem _ mem))
      have head := length_ports (proper run List.mem_cons_self)
      show (run.ports ++ portsOf rest).length = run.width + totalWidth rest
      rw [List.length_append, head, tail]

theorem portsOf_takePorts {size : Nat} {runs : List Run}
    (proper : ∀ run ∈ runs, run.1 ≤ run.2) :
    portsOf (takePorts size runs) = (portsOf runs).take size := by
  induction runs generalizing size with
  | nil =>
      cases size <;> rfl
  | cons run rest ih =>
      cases size with
      | zero => rfl
      | succ size =>
          have others : ∀ other ∈ rest, other.1 ≤ other.2 :=
            fun other mem => proper other (List.mem_cons_of_mem _ mem)
          have length := length_ports (proper run List.mem_cons_self)
          have room : min (size + 1) run.width ≤ run.2 + 1 - run.1 := by
            rw [Nat.sub_add_comm (proper run List.mem_cons_self)]
            exact Nat.min_le_right _ _
          have positive : min (size + 1) run.width ≠ 0 := by simp [width]
          show ports (Tables.leading run (min (size + 1) run.width)) ++
              portsOf (takePorts (size + 1 - min (size + 1) run.width) rest) =
            (run.ports ++ portsOf rest).take (size + 1)
          rw [ports_leading positive room, ih others, List.take_append, length]
          congr 1
          · rw [← length, List.take_eq_take_iff]
            omega
          · congr 1
            omega

/-!
# No free port is missed
-/

theorem within_freeRuns {stop cursor : Nat} {occupied : List Run} (part : Run)
    (proper : part.1 ≤ part.2) (above : cursor ≤ part.1) (below : part.2 ≤ stop)
    (clear : ∀ taken ∈ occupied, Apart part taken) :
    ∃ run ∈ freeRuns stop cursor occupied, part.Within run := by
  induction occupied generalizing cursor with
  | nil =>
      have room : cursor ≤ stop := by omega
      rw [freeRuns, if_pos room]
      exact ⟨(cursor, stop), List.mem_cons_self, above, below⟩
  | cons taken rest ih =>
      rcases taken with ⟨first, last⟩
      have head : Apart part (first, last) := clear _ List.mem_cons_self
      have others : ∀ taken ∈ rest, Apart part taken :=
        fun taken mem => clear taken (List.mem_cons_of_mem _ mem)
      unfold Apart at head
      simp only at head
      simp only [freeRuns]
      split
      · omega
      · split
        · exact ih above others
        · split
          · -- the stretch lies in the gap before the occupied run, or behind it
            rcases head with gap | behind
            · exact ⟨(cursor, first - 1), List.mem_cons_self, above, Nat.le_sub_one_of_lt gap⟩
            · rcases ih (by omega : max cursor (last + 1) ≤ part.1) others with
                ⟨run, mem, inside⟩
              exact ⟨run, List.mem_cons_of_mem _ mem, inside⟩
          · exact ih (by omega : max cursor (last + 1) ≤ part.1) others

variable {stop cursor : Nat} {occupied : List Run}

/-- The free runs hold the free ports. -/
theorem holds_freeRuns_iff (ascending : occupied.Pairwise (fun a b => a.1 ≤ b.1))
    (proper : ∀ taken ∈ occupied, taken.1 ≤ taken.2) {port : Nat} :
    (∃ run ∈ freeRuns stop cursor occupied, run.Holds port) ↔
      (cursor ≤ port ∧ port ≤ stop) ∧ ∀ taken ∈ occupied, ¬ taken.Holds port := by
  constructor
  · rintro ⟨run, mem, inside⟩
    have bounds := bounds_of_mem_freeRuns mem
    have first := inside.1
    have last := inside.2
    refine ⟨⟨by omega, by omega⟩, ?_⟩
    intro taken htaken
    exact (apart_of_mem_freeRuns ascending mem htaken).not_holds inside
  · rintro ⟨⟨above, below⟩, free⟩
    have clear : ∀ taken ∈ occupied, Apart (port, port) taken := by
      intro taken mem
      refine apart_of_holds_no_port (Nat.le_refl _) (proper taken mem) ?_
      intro other inside
      rw [Nat.le_antisymm inside.2 inside.1]
      exact free taken mem
    rcases within_freeRuns (port, port) (Nat.le_refl _) above below clear with
      ⟨run, mem, inside⟩
    exact ⟨run, mem, inside.start, inside.stop⟩

theorem portsOf_freeRuns (ascending : occupied.Pairwise (fun a b => a.1 ≤ b.1))
    (proper : ∀ taken ∈ occupied, taken.1 ≤ taken.2) :
    portsOf (freeRuns stop cursor occupied) =
      (ports (cursor, stop)).filter
        (fun port => decide (∀ taken ∈ occupied, ¬ taken.Holds port)) := by
  apply (ascending_portsOf (pairwise_before_freeRuns proper)).eq_of_mem_iff
  · exact List.Pairwise.filter _ List.pairwise_lt_range'
  · intro port
    rw [mem_portsOf, holds_freeRuns_iff ascending proper, List.mem_filter, mem_ports,
      decide_eq_true_iff]
    rfl

end Port
end FleetControl
