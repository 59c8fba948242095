import FleetControl.Port.Allocate
import FleetControl.Proofs.InPlace.Basic

/-!
# Port tables in place

A lease of several blocks writes them one after the other, when all checks are behind it.
-/

namespace FleetControl
namespace InPlace

open Port
open Time

def addPool (pool : Pool) (fresh : String) : InPlace Tables Pool := do
  look (fun _ => Tables.checkBounds pool.startPort pool.endPort)
  let row :=
    { pool with
      id := if pool.id.isEmpty then fresh else pool.id
      protocols := if pool.protocols.isEmpty then Protocol.all else pool.protocols }
  write (fun t => { t with pools := t.pools.insert row.id row })
  return row

def addRange (range : Port.Range) (fresh : String) : InPlace Tables Port.Range := do
  look (fun _ => Tables.checkBounds range.startPort range.endPort)
  let row := { range with id := if range.id.isEmpty then fresh else range.id }
  write (fun t => { t with ranges := t.ranges.insert row.id row })
  return row

def insertBlock (block : Block) : InPlace Tables Unit :=
  write (fun t => { t with blocks := t.blocks.insert block.id block })

def insertBlocks : List Block → InPlace Tables Unit
  | [] => pure ()
  | block :: rest => do
      insertBlock block
      insertBlocks rest

def leaseRuns (pool : Pool) (customerId : String) (now : Instant) (fresh : Nat → String)
    (runs : List Run) : InPlace Tables (List Block) := do
  let blocks := runs.mapIdx (fun i run => Tables.newBlock pool customerId now run (fresh i))
  insertBlocks blocks
  return blocks

def allocateBlock (poolId customerId : String) (size : Nat) (now : Instant)
    (fresh : Nat → String) : InPlace Tables (List Block) :=
  if size = 0 then throw .blockSizeZero
  else do
    let pool ← look (fun t => t.findPool poolId)
    let runs ← look (fun t => .ok (t.freeFor pool pool.startPort.toNat pool.endPort.toNat))
    match runs.find? (Tables.fits size) with
    | some run => leaseRuns pool customerId now fresh [Tables.leading run size]
    | none => throw (.portsExhausted pool.id size)

def allocateBlocksInRange (poolId customerId : String) (start stop : UInt16) (size : Nat)
    (now : Instant) (fresh : Nat → String) : InPlace Tables (List Block) :=
  if stop < start then throw (.startAfterEnd start stop)
  else do
    let pool ← look (fun t => t.findPool poolId)
    if start < pool.startPort ∨ pool.endPort < stop then
      throw (.outsidePool start stop pool.id pool.startPort pool.endPort)
    else if size = 0 then throw .blockSizeZero
    else do
      let runs ← look (fun t => .ok (t.freeFor pool start.toNat stop.toNat))
      match runs.find? (Tables.fits size) with
      | some run => leaseRuns pool customerId now fresh [Tables.leading run size]
      | none =>
          if totalWidth runs < size then throw (.portsExhausted pool.id size)
          else leaseRuns pool customerId now fresh (takePorts size runs)

def allocateBlocks (poolId : String) (req : BlockRequest) (now : Instant)
    (fresh : Nat → String) : InPlace Tables (List Block) :=
  match req.start, req.stop with
  | none, none => allocateBlock poolId req.customerId req.size.toNat now fresh
  | start, stop => do
      let pool ← look (fun t =>
        match t.pools.get? poolId with
        | none => .error (.missing .portPool poolId)
        | some pool => .ok pool)
      allocateBlocksInRange poolId req.customerId (start.getD pool.startPort)
        (stop.getD pool.endPort) req.size.toNat now fresh

def bindBlock (blockId instanceId : String) : InPlace Tables Block := do
  let block ← look (fun t => t.findBlock blockId)
  look (fun _ => Tables.checkBinding block blockId instanceId)
  let bound := { block with instanceId := some instanceId }
  write (fun t => { t with blocks := t.blocks.insert blockId bound })
  return bound

def releaseBlock (blockId : String) (now : Instant) : InPlace Tables Block := do
  let block ← look (fun t => t.findBlock blockId)
  let after := if block.isActive then block.release now else block
  write (fun t => { t with blocks := t.blocks.insert blockId after })
  return after

def insertAllocation (a : Allocation) : InPlace Tables Allocation := do
  check (fun t => t.portTaken a.nodeId a.protocol a.port) (.portTaken a.nodeId a.protocol a.port)
  write (fun t => { t with allocations := t.allocations.insert a.id a })
  return a

def allocatePort (req : Request) (now : Instant) (fresh : String) :
    InPlace Tables Allocation := do
  check (fun t => t.roleTaken req) (.roleTaken req.instanceId req.protocol req.role)
  let port ← look (fun t => t.choosePort req)
  insertAllocation
    { id := fresh
      nodeId := req.nodeId
      protocol := req.protocol
      port := port
      instanceId := req.instanceId
      role := req.role
      allocatedAt := now }

/-!
# No trace of refusals
-/

theorem settles_addPool (pool : Pool) (fresh : String) :
    Settles (addPool pool fresh) (fun t => t.addPool pool fresh) :=
  settles_look fun _ => settles_write _ _

theorem settles_addRange (range : Port.Range) (fresh : String) :
    Settles (addRange range fresh) (fun t => t.addRange range fresh) :=
  settles_look fun _ => settles_write _ _

theorem on_insertBlocks (blocks : List Block) (t : Tables) :
    on (insertBlocks blocks) t = (.ok (), t.putBlocks blocks) := by
  induction blocks generalizing t with
  | nil => rfl
  | cons block rest ih =>
      rw [insertBlocks, on_bind, insertBlock, on_write]
      exact ih _

theorem settles_leaseRuns (pool : Pool) (customerId : String) (now : Instant)
    (fresh : Nat → String) (runs : List Run) :
    Settles (leaseRuns pool customerId now fresh runs)
      (fun t => .ok (t.leaseRuns pool customerId now fresh runs)) := by
  intro t
  rw [leaseRuns, on_bind, on_insertBlocks]
  rfl

theorem settles_allocateBlock (poolId customerId : String) (size : Nat) (now : Instant)
    (fresh : Nat → String) :
    Settles (allocateBlock poolId customerId size now fresh)
      (fun t => t.allocateBlock poolId customerId size now fresh) := by
  refine settles_ite (fun _ => settles_throw _) fun _ => settles_look fun pool => ?_
  intro t
  rw [on_bind, on_look]
  dsimp only
  cases (t.freeFor pool pool.startPort.toNat pool.endPort.toNat).find? (Tables.fits size) with
  | none => rfl
  | some run => exact settles_leaseRuns pool customerId now fresh [Tables.leading run size] t

theorem settles_allocateBlocksInRange (poolId customerId : String) (start stop : UInt16)
    (size : Nat) (now : Instant) (fresh : Nat → String) :
    Settles (allocateBlocksInRange poolId customerId start stop size now fresh)
      (fun t => t.allocateBlocksInRange poolId customerId start stop size now fresh) := by
  refine settles_ite (fun _ => settles_throw _) fun _ => settles_look fun pool => ?_
  refine settles_ite (fun _ => settles_throw _) fun _ =>
    settles_ite (fun _ => settles_throw _) fun _ => ?_
  intro t
  rw [on_bind, on_look]
  dsimp only
  cases (t.freeFor pool start.toNat stop.toNat).find? (Tables.fits size) with
  | some run => exact settles_leaseRuns pool customerId now fresh [Tables.leading run size] t
  | none =>
      dsimp only
      by_cases few : totalWidth (t.freeFor pool start.toNat stop.toNat) < size
      · rw [if_pos few, if_pos few]
        rfl
      · rw [if_neg few, if_neg few]
        exact settles_leaseRuns pool customerId now fresh (takePorts size _) t

theorem settles_allocateBlocks (poolId : String) (req : BlockRequest) (now : Instant)
    (fresh : Nat → String) :
    Settles (allocateBlocks poolId req now fresh)
      (fun t => t.allocateBlocks poolId req now fresh) := by
  have bounded : ∀ start stop : Option UInt16,
      Settles (look (fun t => match t.pools.get? poolId with
        | none => .error (.missing .portPool poolId)
        | some pool => .ok pool) >>= fun pool =>
          allocateBlocksInRange poolId req.customerId (start.getD pool.startPort)
            (stop.getD pool.endPort) req.size.toNat now fresh)
        (fun t => match t.pools.get? poolId with
          | none => .error (.missing .portPool poolId)
          | some pool => t.allocateBlocksInRange poolId req.customerId
              (start.getD pool.startPort) (stop.getD pool.endPort) req.size.toNat now fresh) := by
    intro start stop t
    rw [on_bind, on_look]
    dsimp only
    cases t.pools.get? poolId with
    | none => rfl
    | some pool => exact settles_allocateBlocksInRange _ _ _ _ _ _ _ t
  unfold allocateBlocks Tables.allocateBlocks
  cases req.start with
  | none =>
      cases req.stop with
      | none => exact settles_allocateBlock _ _ _ _ _
      | some stop => exact bounded none (some stop)
  | some start => exact bounded (some start) req.stop

theorem settles_bindBlock (blockId instanceId : String) :
    Settles (bindBlock blockId instanceId) (fun t => t.bindBlock blockId instanceId) :=
  settles_look fun _ => settles_look fun _ => settles_write _ _

theorem settles_releaseBlock (blockId : String) (now : Instant) :
    Settles (releaseBlock blockId now) (fun t => t.releaseBlock blockId now) :=
  settles_look fun _ => settles_write _ _

theorem settles_insertAllocation (a : Allocation) :
    Settles (insertAllocation a) (fun t => t.insertAllocation a) :=
  settles_check (settles_write _ _)

theorem settles_allocatePort (req : Request) (now : Instant) (fresh : String) :
    Settles (allocatePort req now fresh) (fun t => t.allocatePort req now fresh) :=
  settles_check (settles_look fun _ => settles_insertAllocation _)

end InPlace
end FleetControl
