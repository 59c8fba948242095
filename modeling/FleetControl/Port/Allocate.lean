import FleetControl.Port.Lease

/-!
# Allocating single ports

`insertAllocation` is the only way an allocation comes into being, and it refuses a
port that is allocated already on the same node and protocol.
-/

namespace FleetControl
namespace Port
namespace Tables

open Time

def portTaken (t : Tables) (nodeId : String) (protocol : Protocol) (port : UInt16) : Bool :=
  t.allocations.values.any (fun a =>
    a.nodeId = nodeId && a.protocol = protocol && a.port = port)

def portInActiveBlock (t : Tables) (nodeId : String) (protocol : Protocol)
    (port : UInt16) : Bool :=
  t.blocks.values.any (fun b =>
    b.nodeId = nodeId && b.covers port && t.blockReserves b protocol)

def insertAllocation (t : Tables) (a : Allocation) : Except Error (Allocation × Tables) :=
  if t.portTaken a.nodeId a.protocol a.port then
    .error (.portTaken a.nodeId a.protocol a.port)
  else .ok (a, { t with allocations := t.allocations.insert a.id a })

/-!
# Choosing the port
-/

/-- The ports from `start` to `stop` in ascending order. -/
def portsBetween (start stop : UInt16) : List UInt16 :=
  (List.range' start.toNat (stop.toNat + 1 - start.toNat)).map UInt16.ofNat

def isFree (t : Tables) (nodeId : String) (protocol : Protocol) (port : UInt16) : Bool :=
  !t.portTaken nodeId protocol port && !t.portInActiveBlock nodeId protocol port

def firstFreePort (t : Tables) (req : Request) (rangeId : String) : Except Error UInt16 :=
  match t.ranges.get? rangeId with
  | none => .error (.missing .portRange rangeId)
  | some range =>
      if range.nodeId ≠ req.nodeId ∨ range.protocol ≠ req.protocol then
        .error (.wrongRange rangeId range.nodeId range.protocol req.nodeId req.protocol)
      else if !range.enabled then .error (.rangeDisabled rangeId)
      else
        match (portsBetween range.startPort range.endPort).find?
            (t.isFree req.nodeId req.protocol) with
        | some port => .ok port
        | none => .error (.portsExhausted rangeId 1)

/-- The allocation to derive from: on the same protocol if there is one. -/
def baseFor (t : Tables) (req : Request) (baseRole : String) : Option Allocation :=
  let candidates := t.allocations.values.filter (fun a =>
    a.instanceId = req.instanceId && a.role = baseRole)
  (candidates.find? (fun a => a.protocol = req.protocol)).or candidates.head?

def derivedPort (t : Tables) (req : Request) (baseRole : String) (offset : Int) :
    Except Error UInt16 :=
  match t.baseFor req baseRole with
  | none => .error (.noBasePort req.instanceId baseRole)
  | some base =>
      let port := (base.port.toNat : Int) + offset
      if 0 < port ∧ port < 65536 then .ok (UInt16.ofNat port.toNat)
      else .error (.derivedOutOfRange port)

def choosePort (t : Tables) (req : Request) : Except Error UInt16 :=
  match req.strategy with
  | .explicit port => if port = 0 then .error .portZero else .ok port
  | .derived baseRole offset => t.derivedPort req baseRole offset
  | .firstFree rangeId => do
      let port ← t.firstFreePort req rangeId
      if port = 0 then throw .portZero else return port

/-- The instance has a port for this role and protocol. -/
def roleTaken (t : Tables) (req : Request) : Bool :=
  t.allocations.values.any (fun a =>
    a.instanceId = req.instanceId && a.role = req.role && a.protocol = req.protocol)

def allocatePort (t : Tables) (req : Request) (now : Instant) (fresh : String) :
    Except Error (Allocation × Tables) :=
  if t.roleTaken req then .error (.roleTaken req.instanceId req.protocol req.role)
  else do
    let port ← t.choosePort req
    t.insertAllocation
      { id := fresh
        nodeId := req.nodeId
        protocol := req.protocol
        port := port
        instanceId := req.instanceId
        role := req.role
        allocatedAt := now }

/-!
# Releasing an instance
-/

/-- Take the named allocations out, and tell which were there. -/
def takeAllocations (rows : Table Allocation) : List String → List Allocation × Table Allocation
  | [] => ([], rows)
  | id :: rest =>
      match rows.get? id with
      | some a =>
          let (taken, after) := takeAllocations (rows.erase id) rest
          (a :: taken, after)
      | none => takeAllocations rows rest

def releaseInstance (t : Tables) (instanceId : String) (now : Instant) : Release × Tables :=
  let released := t.blocks.values.filter (fun b => b.isHeldBy instanceId)
  let ids := (t.allocations.values.filter (fun a => a.instanceId = instanceId)).map
    Allocation.id
  let (taken, allocations) := takeAllocations t.allocations ids
  ({ blocks := released.map Block.id
     allocations := taken
     nodes := NameSet.ofList (released.map Block.nodeId ++ taken.map Allocation.nodeId) },
   { t with
     blocks := t.blocks.map (fun _ b => if b.isHeldBy instanceId then b.release now else b)
     allocations := allocations })

/-!
# Ports that must be open
-/

def blockRules (t : Tables) (b : Block) : List Rule :=
  let protocols :=
    match t.pools.get? b.poolId with
    | some pool => pool.protocols
    | none => Protocol.all
  (portsBetween b.startPort b.endPort).flatMap (fun port =>
    protocols.map (fun p => { protocol := p, port := port }))

/-- The ports that must be open on a node: single allocations, and all ports of
active blocks that are bound to an instance. -/
def desired (t : Tables) (nodeId : String) : RuleSet :=
  let allocations := t.allocations.values.filter (fun a => a.nodeId = nodeId)
  let blocks := t.blocks.values.filter (fun b =>
    b.isActive && b.nodeId = nodeId && b.instanceId.isSome)
  RuleSet.ofList (allocations.map Allocation.rule ++ blocks.flatMap t.blockRules)

end Tables
end Port
end FleetControl
