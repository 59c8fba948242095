import FleetControl.Effect.Event
import FleetControl.Effect.Output

/-!
# Handlers

One handler for each family of jobs.  A handler that is given work of another
family has nothing to say.
-/

namespace FleetControl
namespace Effect
namespace Handler

open Inventory

/-- The status of a domain follows the outcome, whatever it was. -/
def domainAdded : Handler := fun i =>
  match i.work with
  | .domain domainId =>
      let status : DomainStatus :=
        match i.status with
        | .succeeded => .active
        | .cancelled => .cancelled
        | _ => .failed
      [.domainStatusChanged domainId status]
  | _ => []

def certificateIssued : Handler := fun i =>
  match i.work with
  | .domain domainId =>
      if i.succeeded then
        match Output.time? i.output "expires_at" with
        | some expiresAt => [.certificateIssued domainId expiresAt]
        | none => []
      else []
  | _ => []

def firewallApplied : Handler := fun i =>
  match i.work with
  | .firewall nodeId ports =>
      if i.succeeded then
        if i.type = "firewall.close_ports" then [.firewallApplied nodeId [] ports]
        else [.firewallApplied nodeId ports []]
      else []
  | _ => []

def ddosReported : Handler := fun i =>
  match i.work with
  | .ddosCheck nodeId =>
      if i.succeeded then
        [.ddosReported
          { nodeId := nodeId
            attackActive := (Output.bool? i.output "attack_active").getD false
            pps := (Output.uint64? i.output "pps").getD 0
            bps := Output.uint64? i.output "bps"
            ports := Output.ports i.output "ports"
            protocols := (Output.list i.output "protocols").map Text.lower
            reportedAt := i.completedAt }]
      else []
  | _ => []

def ddosPolicyApplied : Handler := fun i =>
  match i.work with
  | .ddosPolicy nodeId mode ports protocols enabled =>
      if i.succeeded then
        [.ddosPolicyApplied
          { nodeId := nodeId, mode := mode, ports := ports, protocols := protocols
            enabled := enabled, appliedAt := i.completedAt }]
      else []
  | _ => []

/-- The status of a voice server after a successful action. -/
def voiceServerAfter : Lifecycle → Option InstanceStatus
  | .create => some .running
  | .start => some .running
  | .restart => some .running
  | .stop => some .stopped
  | .delete => some .deleted
  | _ => none

def voiceServerLifecycle : Handler := fun i =>
  match i.work with
  | .voiceServer serverId flavor action =>
      match voiceServerAfter action with
      | none => []
      | some after =>
          match i.status with
          | .succeeded => [.voiceServerChanged serverId flavor after]
          | .failed => [.voiceServerChanged serverId flavor .error]
          | _ => []
  | _ => []

/-- The status of an instance after a successful action. -/
def instanceAfter : Lifecycle → Option InstanceStatus
  | .create => some .stopped
  | .start => some .running
  | .stop => some .stopped
  | .restart => some .running
  | .reinstall => some .stopped
  | .delete => some .deleted
  | .suspend => some .suspended
  | .unsuspend => some .stopped
  | .other _ => none

/-- What else follows from a successful action on an instance. -/
def instanceFollowUps (instanceId : String) (nodeId : Option String) :
    Lifecycle → List Event
  | .create => [.diskScanRequested instanceId nodeId]
  | .start => [.diskScanRequested instanceId nodeId]
  | .delete => [.portsReleased instanceId]
  | _ => []

def instanceLifecycle : Handler := fun i =>
  match i.work with
  | .lifecycle instanceId nodeId action =>
      match i.status with
      | .succeeded =>
          match instanceAfter action with
          | some after =>
              .instanceChanged instanceId after :: instanceFollowUps instanceId nodeId action
          | none => []
      | .failed => if action.isMutating then [.instanceChanged instanceId .error] else []
      | _ => []
  | _ => []

def diskScanned : Handler := fun i =>
  match i.work with
  | .diskScan instanceId _ =>
      match i.status with
      | .succeeded =>
          [.diskScanned instanceId
            ((Output.uint64? i.output "used_bytes").or (Output.uint64? i.output "bytes")) none]
      | .failed =>
          [.diskScanned instanceId none
            (some (Output.failureReason i.output "disk scan failed"))]
      | _ => []
  | _ => []

def nodeDiskReported : Handler := fun i =>
  match i.work with
  | .nodeDiskStat nodeId =>
      match i.status with
      | .succeeded =>
          [.nodeDiskReported nodeId (Output.uint64? i.output "total_bytes")
            (Output.uint64? i.output "free_bytes") none]
      | .failed =>
          [.nodeDiskReported nodeId none none
            (some (Output.failureReason i.output "disk stat failed"))]
      | _ => []
  | _ => []

def isOnline (output : Members) : Bool :=
  ((Output.bool? output "online").or
    ((Output.text? output "status").map (fun s => Text.sameIgnoringCase s "online"))).getD false

def queryChanged : Handler := fun i =>
  match i.work with
  | .statusCheck instanceId =>
      match i.status with
      | .succeeded =>
          [.queryChanged instanceId
            { state := if isOnline i.output then .online else .offline
              players := Output.uint32? i.output "players"
              maxPlayers := Output.uint32? i.output "max_players"
              error := none
              checkedAt := i.completedAt }]
      | .failed =>
          [.queryChanged instanceId
            { state := .error
              players := none
              maxPlayers := none
              error := some (Output.failureReason i.output "status check failed")
              checkedAt := i.completedAt }]
      | _ => []
  | _ => []

/-- A cancelled backup counts as failed. -/
def backupFinished : Handler := fun i =>
  match i.work with
  | .backup backupId _ =>
      if i.succeeded then
        [.backupFinished backupId true (Output.uint64? i.output "size_bytes") none]
      else if i.status = .cancelled then
        [.backupFinished backupId false none (some "backup cancelled")]
      else
        [.backupFinished backupId false none
          (some (Output.failureReason i.output "backup failed"))]
  | _ => []

def userAnonymized : Handler := fun i =>
  match i.work with
  | .anonymize userId requestId =>
      if i.succeeded then [.userAnonymized userId requestId] else []
  | _ => []

end Handler
end Effect
end FleetControl
