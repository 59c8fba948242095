import FleetControl.Decimal.Shortest
import FleetControl.Effect.Event
import FleetControl.Notice
import FleetControl.State.Firewalls

/-!
# Events in the state

Writing an event into the state.  Rows are looked up before anything is written.
An alarm is raised when a row enters the alarming condition, not while it stays
in it.
-/

namespace FleetControl

open Inventory
open Port
open Time

/-- What events produce beyond the change of the state. -/
structure FollowUp where
  notifications : List Notification
  createdJobs : List Job
  released : List Release

namespace FollowUp

def none : FollowUp :=
  { notifications := [], createdJobs := [], released := [] }

def append (a b : FollowUp) : FollowUp :=
  { notifications := a.notifications ++ b.notifications
    createdJobs := a.createdJobs ++ b.createdJobs
    released := a.released ++ b.released }

def notify (kind : Notification.Kind) (subject message : String) : FollowUp :=
  { none with notifications := [{ kind := kind, subject := subject, message := message }] }

def ofJobs (jobs : List Job) : FollowUp :=
  { none with createdJobs := jobs }

end FollowUp

namespace State

/-- Something that succeeds with its consequences and a new state. -/
abbrev Applied := Except Error (FollowUp × State)

def changeDomain (s : State) (domainId : String) (change : Domain → Domain) : Applied := do
  let domain ← find s.domains .domain domainId
  return (.none, { s with domains := s.domains.insert domainId (change domain) })

/-!
# Attacks
-/

def applyDdosReport (s : State) (report : DdosReport) : FollowUp × State :=
  let wasActive :=
    match s.ddosReports.get? report.nodeId with
    | some before => before.attackActive
    | none => false
  let alarm :=
    if report.attackActive && !wasActive then
      FollowUp.notify .ddosAttack report.nodeId
        ("DDoS attack detected on node " ++ report.nodeId ++ " (" ++
          Error.natText report.pps.toNat ++ " pps)")
    else .none
  (alarm, { s with ddosReports := s.ddosReports.insert report.nodeId report })

/-!
# Voice servers and instances
-/

def changeVoiceServer (s : State) (serverId : String) (status : InstanceStatus)
    (now : Instant) : Applied := do
  let server ← find s.voiceServers .voiceServer serverId
  let alarm :=
    if status = .error ∧ server.status ≠ .error then
      FollowUp.notify .instanceError serverId ("TS server " ++ serverId ++ " entered error state")
    else .none
  let after := { server with status := status, updatedAt := some now }
  return (alarm, { s with voiceServers := s.voiceServers.insert serverId after })

def changeInstance (s : State) (instanceId : String) (status : InstanceStatus)
    (now : Instant) : Applied := do
  let row ← find s.instances .instance_ instanceId
  let alarm :=
    if status = .error ∧ row.status ≠ .error then
      FollowUp.notify .instanceError instanceId
        ("instance " ++ instanceId ++ " entered error state")
    else .none
  let after := { row with status := status, updatedAt := some now }
  return (alarm, { s with instances := s.instances.insert instanceId after })

def diskScanType : String := "instance.disk.scan"

def diskScanPayload (instanceId nodeId : String) : Payload :=
  ((Table.empty.insert "instance_id" instanceId).insert "node_id" nodeId).insert
    "agent_id" nodeId

def requestDiskScan (s : State) (fresh : Fresh) (instanceId : String)
    (nodeId : Option String) (now : Instant) : Applied := do
  let row ← find s.instances .instance_ instanceId
  if row.diskUsedBytes.isSome || s.hasPending diskScanType "instance_id" instanceId then
    return (.none, s)
  else
    let payload := diskScanPayload instanceId (nodeId.getD row.nodeId)
    let (job, s) := s.insertJob fresh diskScanType payload (some "system") now
    return (.ofJobs [job], s)

def releasePorts (s : State) (fresh : Fresh) (instanceId : String) (now : Instant) :
    FollowUp × State :=
  let (release, ports) := s.ports.releaseInstance instanceId now
  let (jobs, s) := { s with ports := ports }.reconcileFirewalls fresh now release.nodes.names
  ({ FollowUp.ofJobs jobs with released := [release] }, s)

def applyDiskScan (s : State) (instanceId : String) (usedBytes : Option UInt64)
    (error : Option String) (now : Instant) : Applied := do
  let row ← find s.instances .instance_ instanceId
  let after :=
    { row with
      diskUsedBytes := usedBytes.or row.diskUsedBytes
      diskError := error
      diskScannedAt := some now }
  return (.none, { s with instances := s.instances.insert instanceId after })

def applyQuery (s : State) (instanceId : String) (query : Query) (now : Instant) :
    Applied := do
  let row ← find s.instances .instance_ instanceId
  let after := { row with query := some query, updatedAt := some now }
  return (.none, { s with instances := s.instances.insert instanceId after })

/-!
# Disks of nodes

A complete report without error sets the level from the share of free space.  Any
other report leaves the level and the last reading as they are.
-/

def freshDisk (nodeId : String) (now : Instant) : NodeDisk :=
  { nodeId := nodeId, totalBytes := none, freeBytes := none, level := .ok
    overrideActive := false, error := none, updatedAt := now }

def freePercent (total free : UInt64) : Float :=
  free.toFloat * 100.0 / total.toFloat

def diskAlarm (nodeId : String) (before after : DiskLevel) (percent : Float) : FollowUp :=
  if after = .critical ∧ before ≠ .critical then
    .notify .diskCritical nodeId
      ("node " ++ nodeId ++ " has " ++ String.ofList (Decimal.onePlace percent) ++ "% disk free")
  else .none

/-- A reading of total and free space. -/
def readDisk (disk : NodeDisk) (thresholds : DiskThresholds) (nodeId : String)
    (total free : UInt64) : FollowUp × NodeDisk :=
  let disk := { disk with totalBytes := some total, freeBytes := some free, error := none }
  if 0 < total then
    let percent := freePercent total free
    let level := thresholds.levelFor percent
    (diskAlarm nodeId disk.level level percent,
      { disk with
        level := level
        overrideActive := if level = .ok then false else disk.overrideActive })
  else (.none, disk)

def applyNodeDisk (s : State) (thresholds : DiskThresholds) (nodeId : String)
    (total free : Option UInt64) (error : Option String) (now : Instant) :
    FollowUp × State :=
  let disk := { (s.nodeDisks.get? nodeId).getD (freshDisk nodeId now) with updatedAt := now }
  let (followUp, disk) :=
    match error, total, free with
    | some e, _, _ => (FollowUp.none, { disk with error := some e })
    | none, some total, some free => readDisk disk thresholds nodeId total free
    | none, _, _ => (FollowUp.none, disk)
  (followUp, { s with nodeDisks := s.nodeDisks.insert nodeId disk })

/-!
# Backups and users
-/

def finishBackup (s : State) (backupId : String) (succeeded : Bool)
    (sizeBytes : Option UInt64) (error : Option String) (now : Instant) : Applied := do
  let row ← find s.backups .backup backupId
  let after :=
    { row with
      status := if succeeded then .succeeded else .failed
      sizeBytes := sizeBytes.or row.sizeBytes
      error := error
      completedAt := some now }
  let alarm :=
    if succeeded then FollowUp.none
    else
      .notify .backupFailed backupId
        ("backup " ++ backupId ++ " of instance " ++ row.instanceId ++ " failed: " ++
          error.getD "")
  return (alarm, { s with backups := s.backups.insert backupId after })

def anonymizeUser (s : State) (userId requestId : String) (now : Instant) : Applied := do
  let user ← find s.users .user userId
  let request ← find s.deletionRequests .deletionRequest requestId
  let request := { request with status := .completed, completedAt := some now }
  let user :=
    { user with
      email := "deleted-" ++ userId ++ "@anonymized.invalid"
      displayName := "Deleted user"
      anonymizedAt := some now }
  return (.none,
    { s with
      deletionRequests := s.deletionRequests.insert requestId request
      users := s.users.insert userId user })

/-!
# All events
-/

def issueCertificate (expiresAt now : Instant) (domain : Domain) : Domain :=
  { domain with
    sslExpiresAt := some expiresAt
    status := if domain.status = .pending then .active else domain.status
    updatedAt := some now }

def applyEvent (s : State) (fresh : Fresh) (thresholds : DiskThresholds) (now : Instant) :
    Effect.Event → Applied
  | .domainStatusChanged domainId status =>
      s.changeDomain domainId (fun d => { d with status := status, updatedAt := some now })
  | .certificateIssued domainId expiresAt =>
      s.changeDomain domainId (issueCertificate expiresAt now)
  | .firewallApplied nodeId opened closed =>
      .ok (.none, s.applyFirewallChange nodeId opened closed now)
  | .ddosReported report => .ok (s.applyDdosReport report)
  | .ddosPolicyApplied policy =>
      .ok (.none, { s with ddosPolicies := s.ddosPolicies.insert policy.nodeId policy })
  | .voiceServerChanged serverId _ status => s.changeVoiceServer serverId status now
  | .instanceChanged instanceId status => s.changeInstance instanceId status now
  | .diskScanRequested instanceId nodeId => s.requestDiskScan fresh instanceId nodeId now
  | .portsReleased instanceId => .ok (s.releasePorts fresh instanceId now)
  | .diskScanned instanceId usedBytes error => s.applyDiskScan instanceId usedBytes error now
  | .nodeDiskReported nodeId total free error =>
      .ok (s.applyNodeDisk thresholds nodeId total free error now)
  | .queryChanged instanceId query => s.applyQuery instanceId query now
  | .backupFinished backupId succeeded sizeBytes error =>
      s.finishBackup backupId succeeded sizeBytes error now
  | .userAnonymized userId requestId => s.anonymizeUser userId requestId now

/-- Apply events one after the other; an event that cannot be applied is skipped
and counted. -/
def applyEvents (s : State) (fresh : Fresh) (thresholds : DiskThresholds) (now : Instant) :
    List Effect.Event → FollowUp × Nat × State
  | [] => (.none, 0, s)
  | event :: rest =>
      match s.applyEvent fresh thresholds now event with
      | .ok (followUp, s) =>
          let (more, skipped, s) := s.applyEvents fresh thresholds now rest
          (followUp.append more, skipped, s)
      | .error _ =>
          let (more, skipped, s) := s.applyEvents fresh thresholds now rest
          (more, skipped + 1, s)

end State
end FleetControl
