import FleetControl.Inventory.Lifecycle
import FleetControl.Time.Instant

/-!
# Inventory

The things that jobs act on and report about: domains, instances, voice servers,
backups, users, the disks of nodes, and attacks on nodes.
-/

namespace FleetControl
namespace Inventory

open Time

/-!
# Domains
-/

inductive DomainStatus where
  | pending
  | active
  | failed
  | cancelled
  deriving DecidableEq, Repr

namespace DomainStatus

def word : DomainStatus → String
  | .pending => "pending"
  | .active => "active"
  | .failed => "failed"
  | .cancelled => "cancelled"

def all : List DomainStatus :=
  [.pending, .active, .failed, .cancelled]

end DomainStatus

structure Domain where
  id : String
  name : String
  status : DomainStatus
  sslExpiresAt : Option Instant
  updatedAt : Option Instant
  deriving DecidableEq

/-!
# Instances and voice servers
-/

inductive InstanceStatus where
  | provisioning
  | running
  | stopped
  | suspended
  | error
  | deleted
  deriving DecidableEq, Repr

namespace InstanceStatus

def word : InstanceStatus → String
  | .provisioning => "provisioning"
  | .running => "running"
  | .stopped => "stopped"
  | .suspended => "suspended"
  | .error => "error"
  | .deleted => "deleted"

def all : List InstanceStatus :=
  [.provisioning, .running, .stopped, .suspended, .error, .deleted]

end InstanceStatus

inductive QueryState where
  | online
  | offline
  | error
  deriving DecidableEq, Repr

namespace QueryState

def word : QueryState → String
  | .online => "online"
  | .offline => "offline"
  | .error => "error"

def all : List QueryState :=
  [.online, .offline, .error]

end QueryState

/-- What the latest status check found. -/
structure Query where
  state : QueryState
  players : Option UInt32
  maxPlayers : Option UInt32
  error : Option String
  checkedAt : Instant
  deriving DecidableEq

structure Instance where
  id : String
  customerId : String
  nodeId : String
  status : InstanceStatus
  diskUsedBytes : Option UInt64
  diskError : Option String
  diskScannedAt : Option Instant
  query : Option Query
  updatedAt : Option Instant
  deriving DecidableEq

structure VoiceServer where
  id : String
  flavor : Flavor
  nodeId : String
  status : InstanceStatus
  updatedAt : Option Instant
  deriving DecidableEq

/-!
# Backups and users
-/

inductive BackupStatus where
  | queued
  | succeeded
  | failed
  deriving DecidableEq, Repr

namespace BackupStatus

def word : BackupStatus → String
  | .queued => "queued"
  | .succeeded => "succeeded"
  | .failed => "failed"

def all : List BackupStatus :=
  [.queued, .succeeded, .failed]

end BackupStatus

structure Backup where
  id : String
  instanceId : String
  status : BackupStatus
  sizeBytes : Option UInt64
  error : Option String
  completedAt : Option Instant
  deriving DecidableEq

structure User where
  id : String
  email : String
  displayName : String
  anonymizedAt : Option Instant
  deriving DecidableEq

inductive DeletionStatus where
  | pending
  | completed
  deriving DecidableEq, Repr

namespace DeletionStatus

def word : DeletionStatus → String
  | .pending => "pending"
  | .completed => "completed"

def all : List DeletionStatus :=
  [.pending, .completed]

end DeletionStatus

/-- A user's wish to be forgotten. -/
structure DeletionRequest where
  id : String
  userId : String
  status : DeletionStatus
  completedAt : Option Instant
  deriving DecidableEq

/-!
# Disks of nodes
-/

inductive DiskLevel where
  | ok
  | warning
  | critical
  deriving DecidableEq, Repr

namespace DiskLevel

def word : DiskLevel → String
  | .ok => "ok"
  | .warning => "warning"
  | .critical => "critical"

def all : List DiskLevel :=
  [.ok, .warning, .critical]

end DiskLevel

structure NodeDisk where
  nodeId : String
  totalBytes : Option UInt64
  freeBytes : Option UInt64
  level : DiskLevel
  /-- The operator lets provisioning go on although space is low. -/
  overrideActive : Bool
  error : Option String
  updatedAt : Instant
  deriving DecidableEq

/-- Free space in percent below which a disk is watched, and below which it is
critical. -/
structure DiskThresholds where
  warnFreePercent : Float
  criticalFreePercent : Float

namespace DiskThresholds

def standard : DiskThresholds :=
  { warnFreePercent := 15.0, criticalFreePercent := 5.0 }

def levelFor (t : DiskThresholds) (freePercent : Float) : DiskLevel :=
  if freePercent < t.criticalFreePercent then .critical
  else if freePercent < t.warnFreePercent then .warning
  else .ok

end DiskThresholds

/-!
# Attacks on nodes
-/

structure DdosReport where
  nodeId : String
  attackActive : Bool
  pps : UInt64
  bps : Option UInt64
  ports : List UInt16
  protocols : List String
  reportedAt : Instant
  deriving DecidableEq

structure DdosPolicy where
  nodeId : String
  mode : String
  ports : List UInt16
  protocols : List String
  enabled : Bool
  appliedAt : Instant
  deriving DecidableEq

end Inventory
end FleetControl
