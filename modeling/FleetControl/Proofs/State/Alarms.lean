import FleetControl.Proofs.JobStore.Results
import FleetControl.Proofs.JobStore.Surroundings

/-!
# What one event tells

An event tells of an alarm just when its row becomes as bad as the alarm has it, and of a backup
just when the backup failed.  It never tells more than one thing.  A report on a disk is complete
when it has both numbers and no error; only such a report changes what the disk shows.
-/

namespace FleetControl

open Inventory
open Refusal
open Time

/-!
# Alarms
-/

inductive Alarm where
  | instance_ (instanceId : String)
  | voiceServer (serverId : String)
  | attack (nodeId : String)
  | disk (nodeId : String)
  deriving DecidableEq

namespace Alarm

def kind : Alarm → Notification.Kind
  | .instance_ _ | .voiceServer _ => .instanceError
  | .attack _ => .ddosAttack
  | .disk _ => .diskCritical

def subject : Alarm → String
  | .instance_ id | .voiceServer id | .attack id | .disk id => id

def lead : Alarm → String
  | .instance_ _ => "instance "
  | .voiceServer _ => "TS server "
  | .attack _ => "DDoS attack detected on node "
  | .disk _ => "node "

/-- The row is as bad as the alarm has it. -/
def Holds (s : State) : Alarm → Prop
  | .instance_ id => ∃ row, s.instances.get? id = some row ∧ row.status = .error
  | .voiceServer id => ∃ row, s.voiceServers.get? id = some row ∧ row.status = .error
  | .attack id => ∃ row, s.ddosReports.get? id = some row ∧ row.attackActive = true
  | .disk id => ∃ row, s.nodeDisks.get? id = some row ∧ row.level = .critical

def Known (s : State) : Alarm → Prop
  | .instance_ id => ∃ row, s.instances.get? id = some row
  | .voiceServer id => ∃ row, s.voiceServers.get? id = some row
  | .attack _ | .disk _ => True

/-- The row becomes as bad as the alarm has it, and was not so before. -/
structure Rises (s s' : State) (a : Alarm) : Prop where
  known : a.Known s
  before : ¬ a.Holds s
  after : a.Holds s'

structure Tells (n : Notification) (a : Alarm) : Prop where
  kind : n.kind = a.kind
  subject : n.subject = a.subject
  lead : (a.lead ++ a.subject).toList <+: n.message.toList

variable {s s' : State} {a b : Alarm} {n : Notification}

theorem Tells.letter (h : Tells n a) : n.message.toList.head? = a.lead.toList.head? := by
  rcases h.lead with ⟨rest, message⟩
  rw [← message]
  cases a <;> simp [Alarm.lead]

theorem Tells.unique (h : Tells n a) (h' : Tells n b) : a = b := by
  have kind := h.kind.symm.trans h'.kind
  have subject := h.subject.symm.trans h'.subject
  have letter := h.letter.symm.trans h'.letter
  cases a <;> cases b <;> simp_all [Alarm.kind, Alarm.subject, Alarm.lead]

end Alarm

namespace State

/-!
# One event
-/

def FailsBackup (s : State) (event : Effect.Event) (backupId : String) : Prop :=
  ∃ size error, event = .backupFinished backupId false size error ∧
    ∃ row, s.backups.get? backupId = some row

/-- What an event tells, if it takes the state from `s` to `s'`. -/
inductive Comes (s : State) (event : Effect.Event) (s' : State) : List Notification → Prop
  | nothing (steady : ∀ a : Alarm, ¬ a.Rises s s') (noBackup : ∀ id, ¬ s.FailsBackup event id) :
      Comes s event s' []
  | alarm {a : Alarm} {n : Notification} (tells : a.Tells n)
      (rises : ∀ b : Alarm, b.Rises s s' ↔ b = a) (noBackup : ∀ id, ¬ s.FailsBackup event id) :
      Comes s event s' [n]
  | backup {n : Notification} (kind : n.kind = .backupFailed)
      (failed : ∀ id, s.FailsBackup event id ↔ id = n.subject)
      (steady : ∀ a : Alarm, ¬ a.Rises s s') : Comes s event s' [n]

variable {s s' : State} {event : Effect.Event} {fresh : Fresh} {thresholds : DiskThresholds}
  {now : Instant}

theorem Comes.of_same (same : ∀ a : Alarm, a.Holds s' ↔ a.Holds s)
    (noBackup : ∀ id, ¬ s.FailsBackup event id) : Comes s event s' [] :=
  .nothing (fun a rises => rises.before ((same a).mp rises.after)) noBackup

structure Reading where
  total : UInt64
  free : UInt64
  level : DiskLevel

def reading? (thresholds : DiskThresholds) (total free : Option UInt64) (error : Option String) :
    Option Reading :=
  match error, total, free with
  | none, some total, some free =>
      some { total := total, free := free, level := thresholds.levelFor (freePercent total free) }
  | _, _, _ => none

/-- What a disk shows after readings, if it was on record `earlier` or was not. -/
structure Shows (earlier : Option NodeDisk) (readings : List Reading) (disk : NodeDisk) :
    Prop where
  total : disk.totalBytes =
    (readings.getLast?.map Reading.total).or (earlier.bind NodeDisk.totalBytes)
  free : disk.freeBytes =
    (readings.getLast?.map Reading.free).or (earlier.bind NodeDisk.freeBytes)
  level : disk.level =
    ((readings.filter (fun r => decide (0 < r.total))).getLast?.map Reading.level).getD
      ((earlier.map NodeDisk.level).getD .ok)
  override_ : disk.overrideActive = true ↔
    (∃ before, earlier = some before ∧ before.overrideActive = true) ∧
      ∀ r ∈ readings, 0 < r.total → r.level ≠ .ok

theorem Shows.append {earlier : Option NodeDisk} {readings more : List Reading}
    {between disk : NodeDisk} (h : Shows earlier readings between)
    (h' : Shows (some between) more disk) : Shows earlier (readings ++ more) disk where
  total := by
    rw [h'.total, Option.bind_some, h.total, List.getLast?_append, Option.map_or, Option.or_assoc]
  free := by
    rw [h'.free, Option.bind_some, h.free, List.getLast?_append, Option.map_or, Option.or_assoc]
  level := by
    rw [h'.level, Option.map_some, Option.getD_some, h.level, List.filter_append,
      List.getLast?_append, Option.map_or, Option.getD_or]
  override_ := by
    rw [h'.override_, List.forall_mem_append, ← and_assoc, ← h.override_]
    simp

end State
end FleetControl
