import FleetControl.Proofs.InPlace.Basic
import FleetControl.State.Effects

/-!
# Events in place

Whatever row an event is about is looked up before the first write, also where an event
writes two rows.
-/

namespace FleetControl
namespace InPlace

open Inventory
open Port
open Time

def changeDomain (domainId : String) (change : Domain → Domain) : InPlace State FollowUp := do
  let domain ← look (fun s => State.find s.domains .domain domainId)
  write (fun s => { s with domains := s.domains.insert domainId (change domain) })
  return .none

def changeVoiceServer (serverId : String) (status : InstanceStatus) (now : Instant) :
    InPlace State FollowUp := do
  let server ← look (fun s => State.find s.voiceServers .voiceServer serverId)
  let alarm :=
    if status = .error ∧ server.status ≠ .error then
      FollowUp.notify .instanceError serverId ("TS server " ++ serverId ++ " entered error state")
    else .none
  let after := { server with status := status, updatedAt := some now }
  write (fun s => { s with voiceServers := s.voiceServers.insert serverId after })
  return alarm

def putInstance (instanceId : String) (row : Inventory.Instance) : InPlace State Unit :=
  write (fun s => { s with instances := s.instances.insert instanceId row })

def findInstance (instanceId : String) : InPlace State Inventory.Instance :=
  look (fun s => State.find s.instances .instance_ instanceId)

def changeInstance (instanceId : String) (status : InstanceStatus) (now : Instant) :
    InPlace State FollowUp := do
  let row ← findInstance instanceId
  let alarm :=
    if status = .error ∧ row.status ≠ .error then
      FollowUp.notify .instanceError instanceId
        ("instance " ++ instanceId ++ " entered error state")
    else .none
  putInstance instanceId { row with status := status, updatedAt := some now }
  return alarm

def requestDiskScan (fresh : Fresh) (instanceId : String) (nodeId : Option String)
    (now : Instant) : InPlace State FollowUp := do
  let row ← findInstance instanceId
  let pending ← look (fun s =>
    .ok (s.hasPending State.diskScanType "instance_id" instanceId))
  if row.diskUsedBytes.isSome || pending then return .none
  else do
    let payload := State.diskScanPayload instanceId (nodeId.getD row.nodeId)
    let job ← take (fun s => s.insertJob fresh State.diskScanType payload (some "system") now)
    return .ofJobs [job]

def applyDiskScan (instanceId : String) (usedBytes : Option UInt64) (error : Option String)
    (now : Instant) : InPlace State FollowUp := do
  let row ← findInstance instanceId
  putInstance instanceId
    { row with
      diskUsedBytes := usedBytes.or row.diskUsedBytes
      diskError := error
      diskScannedAt := some now }
  return .none

def applyQuery (instanceId : String) (query : Query) (now : Instant) :
    InPlace State FollowUp := do
  let row ← findInstance instanceId
  putInstance instanceId { row with query := some query, updatedAt := some now }
  return .none

def finishBackup (backupId : String) (succeeded : Bool) (sizeBytes : Option UInt64)
    (error : Option String) (now : Instant) : InPlace State FollowUp := do
  let row ← look (fun s => State.find s.backups .backup backupId)
  let after :=
    { row with
      status := if succeeded then .succeeded else .failed
      sizeBytes := sizeBytes.or row.sizeBytes
      error := error
      completedAt := some now }
  write (fun s => { s with backups := s.backups.insert backupId after })
  let alarm :=
    if succeeded then FollowUp.none
    else
      .notify .backupFailed backupId
        ("backup " ++ backupId ++ " of instance " ++ row.instanceId ++ " failed: " ++
          error.getD "")
  return alarm

def anonymizeUser (userId requestId : String) (now : Instant) : InPlace State FollowUp := do
  let user ← look (fun s => State.find s.users .user userId)
  let request ← look (fun s => State.find s.deletionRequests .deletionRequest requestId)
  let request := { request with status := .completed, completedAt := some now }
  write (fun s => { s with deletionRequests := s.deletionRequests.insert requestId request })
  let user :=
    { user with
      email := "deleted-" ++ userId ++ "@anonymized.invalid"
      displayName := "Deleted user"
      anonymizedAt := some now }
  write (fun s => { s with users := s.users.insert userId user })
  return .none

def applyEvent (fresh : Fresh) (thresholds : DiskThresholds) (now : Instant) :
    Effect.Event → InPlace State FollowUp
  | .domainStatusChanged domainId status =>
      changeDomain domainId (fun d => { d with status := status, updatedAt := some now })
  | .certificateIssued domainId expiresAt =>
      changeDomain domainId (State.issueCertificate expiresAt now)
  | .firewallApplied nodeId opened closed =>
      take (fun s => (.none, s.applyFirewallChange nodeId opened closed now))
  | .ddosReported report => take (fun s => s.applyDdosReport report)
  | .ddosPolicyApplied policy =>
      take (fun s =>
        (.none, { s with ddosPolicies := s.ddosPolicies.insert policy.nodeId policy }))
  | .voiceServerChanged serverId _ status => changeVoiceServer serverId status now
  | .instanceChanged instanceId status => changeInstance instanceId status now
  | .diskScanRequested instanceId nodeId => requestDiskScan fresh instanceId nodeId now
  | .portsReleased instanceId => take (fun s => s.releasePorts fresh instanceId now)
  | .diskScanned instanceId usedBytes error => applyDiskScan instanceId usedBytes error now
  | .nodeDiskReported nodeId total free error =>
      take (fun s => s.applyNodeDisk thresholds nodeId total free error now)
  | .queryChanged instanceId query => applyQuery instanceId query now
  | .backupFinished backupId succeeded sizeBytes error =>
      finishBackup backupId succeeded sizeBytes error now
  | .userAnonymized userId requestId => anonymizeUser userId requestId now

/-- Apply events one after the other.  After one that is refused the next one finds what that
one has left behind. -/
def applyEvents (fresh : Fresh) (thresholds : DiskThresholds) (now : Instant) :
    List Effect.Event → InPlace State (FollowUp × Nat)
  | [] => pure (.none, 0)
  | event :: rest => do
      match ← attempt (applyEvent fresh thresholds now event) with
      | some followUp => do
          let (more, skipped) ← applyEvents fresh thresholds now rest
          return (followUp.append more, skipped)
      | none => do
          let (more, skipped) ← applyEvents fresh thresholds now rest
          return (more, skipped + 1)

/-!
# No trace of refusals
-/

theorem settles_requestDiskScan (fresh : Fresh) (instanceId : String) (nodeId : Option String)
    (now : Instant) :
    Settles (requestDiskScan fresh instanceId nodeId now)
      (fun s => s.requestDiskScan fresh instanceId nodeId now) := by
  refine settles_look fun row => ?_
  intro s
  rw [on_bind, on_look]
  dsimp only
  by_cases known : row.diskUsedBytes.isSome || s.hasPending State.diskScanType "instance_id"
    instanceId
  · rw [if_pos known, if_pos known]
    rfl
  · rw [if_neg known, if_neg known]
    rfl

theorem settles_anonymizeUser (userId requestId : String) (now : Instant) :
    Settles (anonymizeUser userId requestId now)
      (fun s => s.anonymizeUser userId requestId now) :=
  settles_look fun _ => settles_look fun _ => fun _ => rfl

theorem settles_applyEvent (fresh : Fresh) (thresholds : DiskThresholds) (now : Instant)
    (event : Effect.Event) :
    Settles (applyEvent fresh thresholds now event)
      (fun s => s.applyEvent fresh thresholds now event) := by
  cases event with
  | domainStatusChanged domainId status => exact settles_look fun _ => settles_write _ _
  | certificateIssued domainId expiresAt => exact settles_look fun _ => settles_write _ _
  | firewallApplied nodeId opened closed => exact settles_take _
  | ddosReported report => exact settles_take _
  | ddosPolicyApplied policy => exact settles_take _
  | voiceServerChanged serverId flavor status => exact settles_look fun _ => settles_write _ _
  | instanceChanged instanceId status => exact settles_look fun _ => settles_write _ _
  | diskScanRequested instanceId nodeId => exact settles_requestDiskScan _ _ _ _
  | portsReleased instanceId => exact settles_take _
  | diskScanned instanceId usedBytes error => exact settles_look fun _ => settles_write _ _
  | nodeDiskReported nodeId total free error => exact settles_take _
  | queryChanged instanceId query => exact settles_look fun _ => settles_write _ _
  | backupFinished backupId succeeded sizeBytes error =>
      exact settles_look fun _ => settles_write _ _
  | userAnonymized userId requestId => exact settles_anonymizeUser _ _ _

theorem on_applyEvents (fresh : Fresh) (thresholds : DiskThresholds) (now : Instant)
    (events : List Effect.Event) (s : State) :
    on (applyEvents fresh thresholds now events) s =
      (.ok ((s.applyEvents fresh thresholds now events).1,
          (s.applyEvents fresh thresholds now events).2.1),
        (s.applyEvents fresh thresholds now events).2.2) := by
  induction events generalizing s with
  | nil => rfl
  | cons event rest ih =>
      rw [applyEvents, on_bind, (settles_applyEvent fresh thresholds now event).on_attempt,
        State.applyEvents]
      cases s.applyEvent fresh thresholds now event with
      | error e =>
          dsimp only
          rw [on_bind, ih]
          rfl
      | ok r =>
          dsimp only
          rw [on_bind, ih]
          rfl

end InPlace
end FleetControl
