import FleetControl.Port.RuleSet
import FleetControl.Table
import FleetControl.NameSet
import FleetControl.Time.Instant

/-!
# Ports of nodes

Ports are handed out in two ways.  A customer leases a block of neighbouring ports
from a pool of a node and may bind it to an instance.  An instance is allocated a
single port for one of its roles.
-/

namespace FleetControl
namespace Port

open Time

/-- Ports of a node from which blocks are leased. -/
structure Pool where
  id : String
  nodeId : String
  name : String
  startPort : UInt16
  endPort : UInt16
  protocols : List Protocol
  purpose : String
  enabled : Bool
  deriving DecidableEq

/-- Ports of a node from which single ports are allocated. -/
structure Range where
  id : String
  nodeId : String
  name : String
  startPort : UInt16
  endPort : UInt16
  protocol : Protocol
  purpose : String
  enabled : Bool
  deriving DecidableEq

structure Block where
  id : String
  poolId : String
  nodeId : String
  customerId : String
  instanceId : Option String
  startPort : UInt16
  endPort : UInt16
  allocatedAt : Instant
  releasedAt : Option Instant
  deriving DecidableEq

namespace Block

/-- A released block stays on record but holds no ports. -/
def isActive (b : Block) : Bool :=
  b.releasedAt.isNone

def covers (b : Block) (port : UInt16) : Bool :=
  b.startPort ≤ port && port ≤ b.endPort

def isHeldBy (b : Block) (instanceId : String) : Bool :=
  b.isActive && b.instanceId = some instanceId

def release (b : Block) (now : Instant) : Block :=
  { b with instanceId := none, releasedAt := some now }

end Block

structure Allocation where
  id : String
  nodeId : String
  protocol : Protocol
  port : UInt16
  instanceId : String
  role : String
  allocatedAt : Instant
  deriving DecidableEq

namespace Allocation

def rule (a : Allocation) : Rule :=
  { protocol := a.protocol, port := a.port }

end Allocation

/-- How a single port is chosen. -/
inductive Strategy where
  /-- The lowest free port of a range. -/
  | firstFree (rangeId : String)
  /-- The port of another role, plus an offset. -/
  | derived (baseRole : String) (offset : Int)
  | explicit (port : UInt16)
  deriving DecidableEq

structure Request where
  nodeId : String
  protocol : Protocol
  instanceId : String
  role : String
  strategy : Strategy
  deriving DecidableEq

/-- A wish for a block: from the whole pool, or between two ports. -/
structure BlockRequest where
  customerId : String
  size : UInt32
  start : Option UInt16
  stop : Option UInt16
  deriving DecidableEq

/-- What the release of an instance gave back, and on which nodes. -/
structure Release where
  blocks : List String
  allocations : List Allocation
  nodes : NameSet
  deriving DecidableEq

structure Tables where
  pools : Table Pool
  ranges : Table Range
  blocks : Table Block
  allocations : Table Allocation
  deriving DecidableEq

namespace Tables

def empty : Tables :=
  { pools := .empty, ranges := .empty, blocks := .empty, allocations := .empty }

instance : Inhabited Tables :=
  ⟨empty⟩

end Tables
end Port
end FleetControl
