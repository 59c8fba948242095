import FleetControl.Plane.Basic

/-!
# What operators ask of the plane about ports

An operation that changes which ports must be open on a node also enqueues the
firewall jobs that the change needs.
-/

namespace FleetControl

open Port
open Time

/-- What the release of an instance gave back, and the firewall jobs it needs. -/
structure PortRelease where
  blocks : List String
  allocations : List Allocation
  firewallJobs : List Job

namespace Plane

/-- Change the port tables, then enqueue the firewall jobs of nodes. -/
def changePorts {α : Type} (p : Plane) (fresh : Fresh) (result : Except Error (α × Tables))
    (nodes : α → List String) (now : Instant) : Except Error ((α × List Job) × State) := do
  let (a, ports) ← result
  let (jobs, s) := { p.state with ports := ports }.reconcileFirewalls fresh now (nodes a)
  return ((a, jobs), s)

/-- A change of the port tables that needs no firewall job. -/
def putPorts {α : Type} (p : Plane) (result : Except Error (α × Tables)) :
    Except Error (α × State) :=
  result.map (fun (a, ports) => (a, { p.state with ports := ports }))

/-!
# Pools, ranges and blocks
-/

def addPool (p : Plane) (fresh : Fresh) (pool : Pool) : Outcome Pool :=
  p.transactDurably (p.putPorts (p.state.ports.addPool pool fresh.pool)) (fun _ => .none)

def addRange (p : Plane) (fresh : Fresh) (range : Port.Range) : Outcome Port.Range :=
  p.transactDurably (p.putPorts (p.state.ports.addRange range fresh.range)) (fun _ => .none)

def blockEvent (actor : String) (now : Instant) (b : Block) : AuditEvent :=
  ((AuditEvent.plain "port.block.allocated" actor b.id now).noting "customer_id"
    b.customerId).noting "range" (Error.span b.startPort b.endPort)

def allocateBlocks (p : Plane) (fresh : Fresh) (poolId : String) (req : BlockRequest)
    (actor : String) (now : Instant) : Outcome (List Block) :=
  p.transactDurably (p.putPorts (p.state.ports.allocateBlocks poolId req now fresh.block))
    (fun blocks => .ofAudit (blocks.map (blockEvent actor now)))

def bindBlock (p : Plane) (fresh : Fresh) (blockId instanceId : String) (now : Instant) :
    Outcome Block :=
  let bound := p.transactDurably
    (p.changePorts fresh (p.state.ports.bindBlock blockId instanceId) (fun b => [b.nodeId]) now)
    (fun (_, jobs) => createdJobs now jobs)
  bound.map Prod.fst

def releaseBlock (p : Plane) (fresh : Fresh) (blockId actor : String) (now : Instant) :
    Outcome Block :=
  let released := p.transactDurably
    (p.changePorts fresh (p.state.ports.releaseBlock blockId now) (fun b => [b.nodeId]) now)
    (fun (_, jobs) => .ofAudit (releaseEvents actor now [blockId]) ++ createdJobs now jobs)
  released.map Prod.fst

/-!
# Single ports
-/

def allocationEvent (actor : String) (now : Instant) (a : Allocation) : AuditEvent :=
  (((AuditEvent.plain "port.allocated" actor a.id now).noting "port" a.rule.text).noting
    "instance_id" a.instanceId).noting "role" a.role

def allocatePort (p : Plane) (fresh : Fresh) (req : Request) (actor : String)
    (now : Instant) : Outcome Allocation :=
  let allocated := p.transactDurably
    (p.changePorts fresh (p.state.ports.allocatePort req now fresh.allocation)
      (fun a => [a.nodeId]) now)
    (fun (a, jobs) => .ofAudit [allocationEvent actor now a] ++ createdJobs now jobs)
  allocated.map Prod.fst

def releaseInstancePorts (p : Plane) (fresh : Fresh) (instanceId actor : String)
    (now : Instant) : Outcome PortRelease :=
  let released := p.transactDurably
    (p.changePorts fresh (.ok (p.state.ports.releaseInstance instanceId now))
      (fun r => r.nodes.names) now)
    (fun (r, jobs) => .ofAudit (releaseEvents actor now r.blocks) ++ createdJobs now jobs)
  released.map (fun (r, jobs) =>
    { blocks := r.blocks, allocations := r.allocations, firewallJobs := jobs })

def reconcileFirewall (p : Plane) (fresh : Fresh) (nodeId : String) (now : Instant) :
    Outcome (List Job) :=
  let (jobs, s) := p.state.reconcileFirewall fresh nodeId now
  p.transact (.ok (jobs, .durableIf (!jobs.isEmpty), s)) (createdJobs now)

end Plane
end FleetControl
