import FleetControl.Inventory.Basic
import FleetControl.Job.Basic

/-!
# Events

What the result of a job means for the inventory, the ports and the firewalls.
-/

namespace FleetControl
namespace Effect

open Inventory
open Port
open Time

inductive Event where
  | domainStatusChanged (domainId : String) (status : DomainStatus)
  | certificateIssued (domainId : String) (expiresAt : Instant)
  | firewallApplied (nodeId : String) (opened closed : List Rule)
  | ddosReported (report : DdosReport)
  | ddosPolicyApplied (policy : DdosPolicy)
  | voiceServerChanged (serverId : String) (flavor : Flavor) (status : InstanceStatus)
  | instanceChanged (instanceId : String) (status : InstanceStatus)
  /-- A disk scan is wanted unless one is pending or the usage is known. -/
  | diskScanRequested (instanceId : String) (nodeId : Option String)
  | portsReleased (instanceId : String)
  | diskScanned (instanceId : String) (usedBytes : Option UInt64) (error : Option String)
  | nodeDiskReported (nodeId : String) (totalBytes freeBytes : Option UInt64)
      (error : Option String)
  | queryChanged (instanceId : String) (query : Query)
  | backupFinished (backupId : String) (succeeded : Bool) (sizeBytes : Option UInt64)
      (error : Option String)
  | userAnonymized (userId requestId : String)
  deriving DecidableEq

/-- A finished job, as the handlers see it. -/
structure Input where
  type : String
  work : Job.Work
  status : Job.Status
  output : Members
  completedAt : Instant

namespace Input

def succeeded (i : Input) : Bool :=
  i.status = .succeeded

end Input

abbrev Handler := Input → List Event

end Effect
end FleetControl
