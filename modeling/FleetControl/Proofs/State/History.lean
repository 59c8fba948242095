import FleetControl.Proofs.Plane.Run
import FleetControl.Proofs.State.Alarms

/-!
# Alarms and disks over time

Events are applied one after the other, each with its own time, its own fresh names and the
thresholds of that time.  An event that is refused tells nothing and changes nothing.

Whatever is told of an alarm is told when the alarm rises, and never while it lasts; so between
two such notices the alarm was over.  A failed backup is told each time.

The disk of a node shows the last complete reading.  Its level is that of the last reading with a
total, and an override lasts until such a reading is fine.
-/

namespace FleetControl

open Inventory
open Time

namespace State

variable {s s' : State} {event : Effect.Event} {fresh : Fresh} {thresholds : DiskThresholds}
  {now : Instant}

/-!
# One event after the other
-/

structure Occurrence where
  event : Effect.Event
  fresh : Fresh
  thresholds : DiskThresholds
  now : Instant

def occur (s : State) (o : Occurrence) : State :=
  match s.applyEvent o.fresh o.thresholds o.now o.event with
  | .ok (_, s') => s'
  | .error _ => s

def tell (s : State) (o : Occurrence) : List Notification :=
  match s.applyEvent o.fresh o.thresholds o.now o.event with
  | .ok (followUp, _) => followUp.notifications
  | .error _ => []

def before (s : State) (os : List Occurrence) (i : Nat) : State :=
  (os.take i).foldl occur s

/-- What the occurrence with this number tells. -/
def told (s : State) (os : List Occurrence) (i : Nat) : List Notification :=
  match os[i]? with
  | some o => (s.before os i).tell o
  | none => []

variable {o : Occurrence} {os : List Occurrence} {i j : Nat} {a : Alarm} {nodeId : String}

theorem applyEvents_eq_history (s : State) (fresh : Fresh) (thresholds : DiskThresholds)
    (now : Instant) (events : List Effect.Event) :
    (s.applyEvents fresh thresholds now events).2.2 =
        (events.map (fun event => Occurrence.mk event fresh thresholds now)).foldl occur s ∧
      (s.applyEvents fresh thresholds now events).1.notifications =
        (List.range events.length).flatMap
          (s.told (events.map (fun event => Occurrence.mk event fresh thresholds now))) := by
  induction events generalizing s with
  | nil => exact ⟨rfl, rfl⟩
  | cons event rest ih =>
      rw [List.map_cons, List.foldl_cons, List.length_cons, List.range_succ_eq_map,
        List.flatMap_cons, List.flatMap_map]
      rcases ih (s.occur ⟨event, fresh, thresholds, now⟩) with ⟨state, notifications⟩
      refine ⟨state ▸ ?_, Eq.trans ?_ (congrArg (s.tell ⟨event, fresh, thresholds, now⟩ ++ ·)
        notifications)⟩
      · rw [applyEvents, occur]
        cases s.applyEvent fresh thresholds now event <;> rfl
      · rw [applyEvents, tell, occur]
        cases s.applyEvent fresh thresholds now event <;> rfl

/-!
# What one occurrence tells
-/

theorem Comes.single {told : List Notification} (h : Comes s event s' told) :
    told.length ≤ 1 ∧ ∀ n ∈ told, n.kind = .backupFailed ∨ ∃ a : Alarm, a.Tells n := by
  cases h with
  | nothing _ _ => simp
  | alarm tells _ _ => exact ⟨Nat.le_refl 1, List.forall_mem_singleton.mpr (Or.inr ⟨_, tells⟩)⟩
  | backup kind _ _ => exact ⟨Nat.le_refl 1, List.forall_mem_singleton.mpr (Or.inl kind)⟩

/-!
# What a history tells
-/

namespace Occurrence

def Reports (nodeId : String) (o : Occurrence) : Prop :=
  ∃ total free error, o.event = .nodeDiskReported nodeId total free error

def readings (nodeId : String) (o : Occurrence) : List Reading :=
  match o.event with
  | .nodeDiskReported other total free error =>
      if other = nodeId then (reading? o.thresholds total free error).toList else []
  | _ => []

end Occurrence

/-- The row of a disk after some reports, if it was on record `earlier` or was not. -/
structure Recorded (earlier : Option NodeDisk) (reported : Prop) (readings : List Reading)
    (row : Option NodeDisk) : Prop where
  known : row.isSome ↔ earlier.isSome ∨ reported
  read : readings ≠ [] → reported
  shows_ : ∀ disk, row = some disk → Shows earlier readings disk

theorem Recorded.append {earlier between row : Option NodeDisk} {reported again : Prop}
    {readings more : List Reading} (h : Recorded earlier reported readings between)
    (h' : Recorded between again more row) :
    Recorded earlier (reported ∨ again) (readings ++ more) row where
  known := by rw [h'.known, h.known, or_assoc]
  read := by
    intro some_
    by_cases first : readings = []
    · rw [first, List.nil_append] at some_
      exact Or.inr (h'.read some_)
    · exact Or.inl (h.read first)
  shows_ := by
    intro disk here
    have later := h'.shows_ disk here
    cases between with
    | some disk' => exact (h.shows_ disk' rfl).append later
    | none =>
        have nobody : ¬ (earlier.isSome ∨ reported) := fun known => nomatch h.known.mpr known
        have nothing : readings = [] := by
          by_contra some_
          exact nobody (Or.inr (h.read some_))
        have absent : earlier = none := by
          cases earlier with
          | none => rfl
          | some _ => exact (nobody (Or.inl rfl)).elim
        rw [nothing, absent]
        exact later

theorem Recorded.refl (row : Option NodeDisk) : Recorded row False [] row where
  known := (or_false _).symm ▸ Iff.rfl
  read := fun some_ => absurd rfl some_
  shows_ := by
    rintro disk rfl
    constructor <;> simp

end State
end FleetControl
