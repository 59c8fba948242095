import FleetControl.Proofs.Firewall.Requests
import FleetControl.Proofs.JobStore.Soundness
import FleetControl.Proofs.Plane.Network

/-!
# Reconciling

A step that changes which ports must be open reconciles the nodes that it concerns.  When
it is done, all that is planned for such a node is asked for by a queued or running job.
-/

namespace FleetControl

open Time

namespace Plane

variable {p : Plane} {fresh : Fresh} {now : Instant} {nodeId : String}

def nodeOf {α : Type} (node : α → String) : Except Error (α × Port.Tables) → List String
  | .ok (a, _) => [node a]
  | .error _ => []

/-- The nodes that a step reconciles; a step that is refused reconciles none. -/
def reconciled (p : Plane) (step : Step) : List String :=
  let ports := p.state.ports
  match step.operation with
  | .allocatePort req _ =>
      nodeOf Port.Allocation.nodeId (ports.allocatePort req step.now step.fresh.allocation)
  | .bindBlock blockId instanceId =>
      nodeOf Port.Block.nodeId (ports.bindBlock blockId instanceId)
  | .releaseBlock blockId _ => nodeOf Port.Block.nodeId (ports.releaseBlock blockId step.now)
  | .releaseInstancePorts instanceId _ =>
      (ports.releaseInstance instanceId step.now).1.nodes.names
  | .reconcileFirewall node => [node]
  | _ => []

def Reconciles (p q : Plane) (fresh : Fresh) (now : Instant) (nodes : List String) : Prop :=
  ∃ ports, q.state.network = { p.state.network with ports := ports } ∧
    q.state.jobStore =
      ({ p.state with ports := ports }.reconcileFirewalls fresh now nodes).2.jobStore

section ChangePorts

variable {α : Type} {result : Except Error (α × Port.Tables)} {a : α} {ports : Port.Tables}

theorem plane_changePorts (h : result = .ok (a, ports)) (nodes : α → List String)
    (tell : α × List Job → Notices) :
    (p.transactDurably (p.changePorts fresh result nodes now) tell).plane =
      { p with
        store := p.store.apply .durable
          ({ p.state with ports := ports }.reconcileFirewalls fresh now (nodes a)).2 } := by
  subst h
  rfl

theorem plane_changePorts_of_error {e : Error} (h : result = .error e)
    (nodes : α → List String) (tell : α × List Job → Notices) :
    (p.transactDurably (p.changePorts fresh result nodes now) tell).plane = p := by
  subst h
  rfl

theorem reconciles_changePorts (h : result = .ok (a, ports)) (nodes : α → List String)
    (tell : α × List Job → Notices) :
    p.Reconciles (p.transactDurably (p.changePorts fresh result nodes now) tell).plane fresh now
      (nodes a) := by
  rw [plane_changePorts h]
  let s : State := { p.state with ports := ports }
  exact ⟨ports, (p.store.network_apply .durable (s.reconcileFirewalls fresh now (nodes a)).2).trans
    (s.network_reconcileFirewalls fresh now (nodes a)), p.store.jobStore_apply .durable _⟩

end ChangePorts

theorem reconciles_releaseInstancePorts (instanceId actor : String) :
    p.Reconciles (p.releaseInstancePorts fresh instanceId actor now).plane fresh now
      (p.state.ports.releaseInstance instanceId now).1.nodes.names := by
  rw [releaseInstancePorts, plane_map]
  generalize p.state.ports.releaseInstance instanceId now = released
  rcases released with ⟨release, ports⟩
  have done : Except.ok (release, ports) = (.ok (release, ports) : Except Error _) := rfl
  exact reconciles_changePorts done (fun r => r.nodes.names) _

theorem reconciles_reconcileFirewall (nodeId : String) :
    p.Reconciles (p.reconcileFirewall fresh nodeId now).plane fresh now [nodeId] :=
  ⟨p.state.ports, (ends_reconcileFirewall nodeId).network rfl,
    p.store.jobStore_apply (.durableIf (!(p.state.reconcileFirewall fresh nodeId now).1.isEmpty))
      (p.state.reconcileFirewall fresh nodeId now).2⟩

theorem mem_nodeOf {α : Type} {node : α → String} {result : Except Error (α × Port.Tables)}
    (h : nodeId ∈ nodeOf node result) : ∃ a ports, result = .ok (a, ports) ∧ nodeId = node a := by
  unfold nodeOf at h
  split at h
  · rename_i a ports
    exact ⟨a, ports, rfl, List.mem_singleton.mp h⟩
  · cases h

theorem reconciles_next {step : Step} (h : nodeId ∈ p.reconciled step) :
    ∃ nodes, nodeId ∈ nodes ∧ p.Reconciles (p.next step) step.fresh step.now nodes := by
  rcases step with ⟨fresh, now, observers, operation⟩
  cases operation with
  | allocatePort req actor =>
      rcases mem_nodeOf h with ⟨a, ports, result, rfl⟩
      exact ⟨[a.nodeId], List.mem_singleton_self _,
        reconciles_changePorts (p := { p with observers := observers }) result _ _⟩
  | bindBlock blockId instanceId =>
      rcases mem_nodeOf h with ⟨block, ports, result, rfl⟩
      exact ⟨[block.nodeId], List.mem_singleton_self _,
        reconciles_changePorts (p := { p with observers := observers }) result _ _⟩
  | releaseBlock blockId actor =>
      rcases mem_nodeOf h with ⟨block, ports, result, rfl⟩
      exact ⟨[block.nodeId], List.mem_singleton_self _,
        reconciles_changePorts (p := { p with observers := observers }) result _ _⟩
  | releaseInstancePorts instanceId actor =>
      exact ⟨(p.state.ports.releaseInstance instanceId now).1.nodes.names, h,
        reconciles_releaseInstancePorts (p := { p with observers := observers }) instanceId actor⟩
  | reconcileFirewall node =>
      exact ⟨[node], h, reconciles_reconcileFirewall (p := { p with observers := observers }) node⟩
  | register | heartbeat | poll | submitResult | submitLogs | createJob | jobDetail | cancelJob
  | expireStale | addPool | addRange | allocateBlocks => cases h

theorem requested_next {step : Step} {start : UInt64} (h : nodeId ∈ p.reconciled step)
    (names : step.fresh.NamesNewJobs p.state) (numbered : p.state.jobStore.Numbered start)
    (room : start.toNat + (p.next step).state.jobs.size < UInt64.size) :
    (p.next step).state.Requested nodeId ((p.next step).state.firewallPlan nodeId) := by
  rcases reconciles_next h with ⟨nodes, mem, ports, network, jobs⟩
  let s : State := { p.state with ports := ports }
  have rows : (p.next step).state.jobs = (s.reconcileFirewalls step.fresh step.now nodes).2.jobs :=
    congrArg JobStore.jobs jobs
  have plan : (p.next step).state.firewallPlan nodeId = s.firewallPlan nodeId :=
    State.firewallPlan_congr network nodeId
  rw [rows] at room
  rw [plan]
  have requested := State.requested_of_reconcileFirewalls (s := s) names.1 mem
    ⟨numbered, names.namedByNumber⟩ room
  exact requested.mono fun id job found => rows ▸ found

end Plane
end FleetControl
