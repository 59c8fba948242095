import FleetControl.Error
import FleetControl.Port.Basic

/-!
# Leasing blocks

A block is taken from the lowest run of free ports that is long enough.  A port is
free for a pool when, on the node of the pool, no active block reserves it for one
of the protocols of the pool and no single allocation holds it on one of them.
-/

namespace FleetControl
namespace Port

open Time

/-!
# Runs of ports

A run is a pair of its first and its last port.
-/

abbrev Run := Nat × Nat

namespace Run

def width (run : Run) : Nat :=
  run.2 - run.1 + 1

def le (a b : Run) : Bool :=
  decide (a.1 < b.1) || (decide (a.1 = b.1) && decide (a.2 ≤ b.2))

end Run

/-- The free runs from `cursor` to `stop` between occupied runs in ascending
order. -/
def freeRuns (stop cursor : Nat) : List Run → List Run
  | [] => if cursor ≤ stop then [(cursor, stop)] else []
  | (first, last) :: rest =>
      if stop < cursor then []
      else if last < cursor ∨ stop < first then freeRuns stop cursor rest
      else if cursor < first then
        (cursor, first - 1) :: freeRuns stop (max cursor (last + 1)) rest
      else freeRuns stop (max cursor (last + 1)) rest

/-- The first `size` ports of the runs, as runs. -/
def takePorts : Nat → List Run → List Run
  | 0, _ => []
  | _ + 1, [] => []
  | size + 1, run :: rest =>
      let width := min (size + 1) run.width
      (run.1, run.1 + width - 1) :: takePorts (size + 1 - width) rest

def totalWidth : List Run → Nat
  | [] => 0
  | run :: rest => run.width + totalWidth rest

namespace Tables

/-!
# Pools and ranges
-/

def checkBounds (start stop : UInt16) : Except Error Unit :=
  if start = 0 ∨ stop < start then .error (.notARange start stop) else .ok ()

/-- Put a pool on record; one without a name is given `fresh` for a name, and one
without protocols serves all. -/
def addPool (t : Tables) (pool : Pool) (fresh : String) : Except Error (Pool × Tables) := do
  checkBounds pool.startPort pool.endPort
  let pool :=
    { pool with
      id := if pool.id.isEmpty then fresh else pool.id
      protocols := if pool.protocols.isEmpty then Protocol.all else pool.protocols }
  return (pool, { t with pools := t.pools.insert pool.id pool })

def addRange (t : Tables) (range : Range) (fresh : String) :
    Except Error (Range × Tables) := do
  checkBounds range.startPort range.endPort
  let range := { range with id := if range.id.isEmpty then fresh else range.id }
  return (range, { t with ranges := t.ranges.insert range.id range })

def findPool (t : Tables) (poolId : String) : Except Error Pool :=
  match t.pools.get? poolId with
  | none => .error (.missing .portPool poolId)
  | some pool => if pool.enabled then .ok pool else .error (.poolDisabled poolId)

/-!
# Occupied ports
-/

/-- An active block reserves its ports for the protocols of its pool, and for all
protocols when its pool is gone. -/
def blockReserves (t : Tables) (block : Block) (protocol : Protocol) : Bool :=
  block.isActive &&
    match t.pools.get? block.poolId with
    | some pool => pool.protocols.contains protocol
    | none => true

def occupied (t : Tables) (pool : Pool) : List Run :=
  let byBlocks := (t.blocks.values.filter (fun b =>
    b.nodeId = pool.nodeId && pool.protocols.any (t.blockReserves b))).map
      (fun b => (b.startPort.toNat, b.endPort.toNat))
  let byAllocations := (t.allocations.values.filter (fun a =>
    a.nodeId = pool.nodeId && pool.protocols.contains a.protocol)).map
      (fun a => (a.port.toNat, a.port.toNat))
  (byBlocks ++ byAllocations).mergeSort Run.le

/-- The free runs of a pool between two ports. -/
def freeFor (t : Tables) (pool : Pool) (start stop : Nat) : List Run :=
  freeRuns stop start (t.occupied pool)

/-!
# Blocks
-/

def newBlock (pool : Pool) (customerId : String) (now : Instant) (run : Run)
    (id : String) : Block :=
  { id := id
    poolId := pool.id
    nodeId := pool.nodeId
    customerId := customerId
    instanceId := none
    startPort := UInt16.ofNat run.1
    endPort := UInt16.ofNat run.2
    allocatedAt := now
    releasedAt := none }

def putBlocks (t : Tables) (blocks : List Block) : Tables :=
  { t with blocks := blocks.foldl (fun rows b => rows.insert b.id b) t.blocks }

/-- Lease runs as blocks, the first under the name `fresh 0`. -/
def leaseRuns (t : Tables) (pool : Pool) (customerId : String) (now : Instant)
    (fresh : Nat → String) (runs : List Run) : List Block × Tables :=
  let blocks := runs.mapIdx (fun i run => newBlock pool customerId now run (fresh i))
  (blocks, t.putBlocks blocks)

def fits (size : Nat) (run : Run) : Bool :=
  size ≤ run.width

def leading (run : Run) (size : Nat) : Run :=
  (run.1, run.1 + size - 1)

/-- Lease `size` neighbouring ports of a pool. -/
def allocateBlock (t : Tables) (poolId customerId : String) (size : Nat) (now : Instant)
    (fresh : Nat → String) : Except Error (List Block × Tables) :=
  if size = 0 then .error .blockSizeZero
  else do
    let pool ← t.findPool poolId
    match (t.freeFor pool pool.startPort.toNat pool.endPort.toNat).find? (fits size) with
    | some run => return t.leaseRuns pool customerId now fresh [leading run size]
    | none => throw (.portsExhausted pool.id size)

/-- Lease `size` ports between two ports of a pool, in one block if one run is long
enough, and else in several. -/
def allocateBlocksInRange (t : Tables) (poolId customerId : String) (start stop : UInt16)
    (size : Nat) (now : Instant) (fresh : Nat → String) :
    Except Error (List Block × Tables) :=
  if stop < start then .error (.startAfterEnd start stop)
  else do
    let pool ← t.findPool poolId
    if start < pool.startPort ∨ pool.endPort < stop then
      throw (.outsidePool start stop pool.id pool.startPort pool.endPort)
    if size = 0 then throw .blockSizeZero
    let runs := t.freeFor pool start.toNat stop.toNat
    match runs.find? (fits size) with
    | some run => return t.leaseRuns pool customerId now fresh [leading run size]
    | none =>
        if totalWidth runs < size then throw (.portsExhausted pool.id size)
        else return t.leaseRuns pool customerId now fresh (takePorts size runs)

/-- A request without bounds takes from the whole pool; one missing bound is the
bound of the pool. -/
def allocateBlocks (t : Tables) (poolId : String) (req : BlockRequest) (now : Instant)
    (fresh : Nat → String) : Except Error (List Block × Tables) :=
  match req.start, req.stop with
  | none, none => t.allocateBlock poolId req.customerId req.size.toNat now fresh
  | start, stop =>
      match t.pools.get? poolId with
      | none => .error (.missing .portPool poolId)
      | some pool =>
          t.allocateBlocksInRange poolId req.customerId (start.getD pool.startPort)
            (stop.getD pool.endPort) req.size.toNat now fresh

def findBlock (t : Tables) (blockId : String) : Except Error Block :=
  match t.blocks.get? blockId with
  | some block => .ok block
  | none => .error (.missing .portBlock blockId)

/-- A block stays bound to the instance it was bound to first, until it is
released. -/
def checkBinding (block : Block) (blockId instanceId : String) : Except Error Unit :=
  if block.isActive then
    match block.instanceId with
    | some other =>
        if other = instanceId then .ok () else .error (.blockBound blockId other)
    | none => .ok ()
  else .error (.blockReleased blockId)

def bindBlock (t : Tables) (blockId instanceId : String) : Except Error (Block × Tables) := do
  let block ← t.findBlock blockId
  checkBinding block blockId instanceId
  let bound := { block with instanceId := some instanceId }
  return (bound, { t with blocks := t.blocks.insert blockId bound })

/-- Release a block; one that is released already stays as it is. -/
def releaseBlock (t : Tables) (blockId : String) (now : Instant) :
    Except Error (Block × Tables) := do
  let block ← t.findBlock blockId
  let after := if block.isActive then block.release now else block
  return (after, { t with blocks := t.blocks.insert blockId after })

end Tables
end Port
end FleetControl
