import FleetControl.Proofs.Plane.Blocks

/-!
# How often a release is audited

An operator's release of a block is audited whether the block was active or not.  So of a
block that is released it is told once for the release itself, and once more for every time
that somebody releases it again.
-/

namespace FleetControl

open Port

namespace Plane

variable {p : Plane} {steps : List Step} {id : String}

def releasedTwice (p : Plane) : List Step → List String
  | [] => []
  | step :: rest => p.releasedAgain step.operation ++ (p.next step).releasedTwice rest

theorem tallies_after (tidy : p.state.ports.Tidy) (names : p.NamesNewBlocks steps) :
    ∃ told, p.state.ports.Tallies told (p.releasedTwice steps) (p.after steps).state.ports ∧
      ∀ id, releases id (p.trail steps) = told.count id := by
  induction steps generalizing p with
  | nil => exact ⟨[], .refl _, fun _ => rfl⟩
  | cons step rest ih =>
      rcases ports_follow_next names.1 with ⟨now, follows, counts⟩
      rcases ih (follows.tidy tidy) names.2 with ⟨later, tallies, counts'⟩
      refine ⟨now ++ later, (follows.tallies tidy).trans tallies, fun id => ?_⟩
      rw [trail, releases_append, List.count_append, counts, counts']

/-- It is told of a release when the block becomes released, and each time after that. -/
theorem releases_trail (ports : p.state.ports = .empty) (names : p.NamesNewBlocks steps)
    (id : String) :
    releases id (p.trail steps) =
      ((p.after steps).state.ports.isReleased id).toNat + (p.releasedTwice steps).count id := by
  have tidy : p.state.ports.Tidy := ports ▸ Tables.tidy_empty
  rcases tallies_after tidy names with ⟨told, tallies, counts⟩
  have before : p.state.ports.isReleased id = false := by rw [ports]; rfl
  have balance := tallies id
  rw [before] at balance
  rw [counts]
  exact balance

/-!
# Released blocks stay released
-/

theorem isReleased_of_mem_releasedAgain {operation : Operation}
    (mem : id ∈ p.releasedAgain operation) : p.state.ports.isReleased id = true := by
  unfold releasedAgain at mem
  split at mem
  · split at mem
    · rename_i released
      rw [List.mem_singleton.mp mem]
      exact released
    · cases mem
  · cases mem

theorem isReleased_of_mem_releasedTwice (names : p.NamesNewBlocks steps)
    (mem : id ∈ p.releasedTwice steps) : (p.after steps).state.ports.isReleased id = true := by
  induction steps generalizing p with
  | nil => cases mem
  | cons step rest ih =>
      rcases List.mem_append.mp mem with now | later
      · exact (age_after names).isReleased (isReleased_of_mem_releasedAgain now)
      · exact ih names.2 later

/-!
# Releases that are told once
-/

/-- Of every block that is released at the end of a run it has been told once, and of every
block that is active it has not been told. -/
def TellsOnce (p : Plane) (steps : List Step) : Prop :=
  ∀ id block, (p.after steps).state.ports.blocks.get? id = some block →
    releases id (p.trail steps) = if block.isActive then 0 else 1

/-- Each release is told once exactly when no operator releases a block again. -/
theorem tellsOnce_iff (ports : p.state.ports = .empty) (names : p.NamesNewBlocks steps) :
    p.TellsOnce steps ↔ p.releasedTwice steps = [] := by
  constructor
  · intro once
    apply List.eq_nil_iff_forall_not_mem.mpr
    intro id mem
    have released := isReleased_of_mem_releasedTwice names mem
    rcases Tables.isReleased_iff.mp released with ⟨block, found, inactive⟩
    have told := once id block found
    rw [releases_trail ports names id, released, inactive] at told
    have again : 0 < (p.releasedTwice steps).count id := List.count_pos_iff.mpr mem
    simp only [Bool.toNat_true, Bool.false_eq_true, if_false] at told
    omega
  · intro never id block found
    rw [releases_trail ports names id, never, Tables.isReleased_of_get? found]
    cases block.isActive <;> rfl

/-- A release that nobody repeats. -/
theorem tellsOnce_iff_released :
    (idle (.standard "")).state.ports = .empty ∧
      (idle (.standard "")).NamesNewBlocks (leaseRun.take 3) ∧
      ((idle (.standard "")).after (leaseRun.take 3)).state.ports.blocks =
        Table.empty.insert "b" (leasedBlock.release .epoch) ∧
      (idle (.standard "")).TellsOnce (leaseRun.take 3) := by
  have names : (idle (.standard "")).NamesNewBlocks (leaseRun.take 3) := by
    have whole := namesNewBlocks_leaseRun
    rw [show leaseRun = leaseRun.take 3 ++ leaseRun.drop 3 from rfl] at whole
    exact (namesNewBlocks_append.mp whole).1
  exact ⟨rfl, names, by decide +kernel, (tellsOnce_iff rfl names).mpr (by decide +kernel)⟩

/-- The second release of `b` changes nothing, and it is told like the first. -/
theorem not_tellsOnce_leaseRun :
    (idle (.standard "")).state.ports = .empty ∧
      (idle (.standard "")).NamesNewBlocks leaseRun ∧
      releases "b" ((idle (.standard "")).trail leaseRun) = 2 ∧
      ¬ (idle (.standard "")).TellsOnce leaseRun := by
  have twice : releases "b" ((idle (.standard "")).trail leaseRun) = 2 := by decide +kernel
  refine ⟨rfl, namesNewBlocks_leaseRun, twice, fun once => ?_⟩
  have found : ((idle (.standard "")).after leaseRun).state.ports.blocks.get? "b" =
      some (leasedBlock.release .epoch) := by
    decide +kernel
  have told := once "b" _ found
  rw [twice] at told
  exact absurd told (by decide)

end Plane
end FleetControl
