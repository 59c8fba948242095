import FleetControl.Proofs.Plane.Convergence
import FleetControl.Proofs.Port.Teardown

/-!
# What an instance leaves behind

On the plane, the teardown of an instance reconciles the nodes that it tells of.  No other node
has anything to reconcile.
-/

namespace FleetControl

open Port
open Time

namespace Plane

variable {p : Plane} {fresh : Fresh} {instanceId actor nodeId : String} {now : Instant}

theorem network_releaseInstancePorts :
    (p.releaseInstancePorts fresh instanceId actor now).plane.state.network =
      { p.state.network with ports := (p.state.ports.releaseInstance instanceId now).2 } := by
  rw [releaseInstancePorts, plane_map, plane_changePorts rfl]
  exact (p.store.network_apply .durable _).trans (State.network_reconcileFirewalls _ fresh now _)

theorem firewallPlan_releaseInstancePorts
    (other : nodeId ∉ (p.state.ports.releaseInstance instanceId now).1.nodes.names) :
    (p.releaseInstancePorts fresh instanceId actor now).plane.state.firewallPlan nodeId =
      p.state.firewallPlan nodeId := by
  let s : State := { p.state with ports := (p.state.ports.releaseInstance instanceId now).2 }
  have network : (p.releaseInstancePorts fresh instanceId actor now).plane.state.network =
      s.network := network_releaseInstancePorts
  rw [State.firewallPlan_congr network, State.firewallPlan, State.firewallPlan]
  show Firewall.Plan.between nodeId (s.ports.desired nodeId) _ = _
  rw [Tables.desired_releaseInstance_of_not_mem other]

/-- If the rows of an instance stand under their own names, as they always do in tables that
are reached by deeds, its teardown takes all of them and nothing else, and tells of just what
it has taken.  And whatever the names, a node that is not told of has nothing to reconcile. -/
theorem releaseInstance_takes_down :
    (∀ t : Tables, t.Reached → ∀ instanceId, t.OwnNamed instanceId) ∧
      (∀ (t : Tables) instanceId now, t.OwnNamed instanceId →
        t.TellsAll instanceId (t.releaseInstance instanceId now).1 ∧
          t.TakesDown instanceId now (t.releaseInstance instanceId now).2) ∧
      ∀ (p : Plane) fresh instanceId actor now nodeId,
        nodeId ∉ (p.state.ports.releaseInstance instanceId now).1.nodes.names →
          (p.releaseInstancePorts fresh instanceId actor now).plane.state.firewallPlan nodeId =
            p.state.firewallPlan nodeId :=
  ⟨fun _ reached instanceId => reached.ownNamed instanceId,
    fun _ _ now named =>
      ⟨Tables.tellsAll_releaseInstance named now, Tables.takesDown_releaseInstance named now⟩,
    fun _ _ _ _ _ _ other => firewallPlan_releaseInstancePorts other⟩

def parting : List Deed :=
  [.addPool
      { id := "pool", nodeId := "near", name := "", startPort := 5000, endPort := 5001
        protocols := [.tcp], purpose := "", enabled := true } "",
    .allocateBlock "pool" "customer" 2 .epoch (fun _ => "block"),
    .bindBlock "block" "gone",
    .allocatePort ⟨"far", .udp, "gone", "query", .explicit 6000⟩ .epoch "first",
    .allocatePort ⟨"near", .tcp, "stays", "game", .explicit 5000⟩ .epoch "second"]

def shared : Tables :=
  parting.foldl Tables.next .empty

theorem releaseInstance_takes_down_shared :
    shared.Reached ∧ shared.OwnNamed "gone" ∧
      shared.TellsAll "gone" (shared.releaseInstance "gone" .epoch).1 ∧
      shared.TakesDown "gone" .epoch (shared.releaseInstance "gone" .epoch).2 ∧
      (shared.releaseInstance "gone" .epoch).1.nodes.names = ["far", "near"] ∧
      (⟨.tcp, 5000⟩ : Rule) ∈ (shared.releaseInstance "gone" .epoch).2.desired "near" ∧
      "other" ∉ (lentPlane.state.ports.releaseInstance "i1" .epoch).1.nodes.names ∧
      (lentPlane.releaseInstancePorts (.strokes 'c') "i1" "admin" .epoch).plane.state.firewallPlan
        "other" = lentPlane.state.firewallPlan "other" := by
  have reached : shared.Reached := ⟨parting, rfl⟩
  have named := releaseInstance_takes_down.1 shared reached "gone"
  rcases releaseInstance_takes_down.2.1 shared "gone" .epoch named with ⟨tells, takes⟩
  have other : "other" ∉ (lentPlane.state.ports.releaseInstance "i1" .epoch).1.nodes.names := by
    decide +kernel
  refine ⟨reached, named, tells, takes, by decide +kernel, ?_, other,
    releaseInstance_takes_down.2.2 lentPlane _ _ _ _ _ other⟩
  refine (takes.desired "near" ⟨.tcp, 5000⟩).mpr ⟨"stays", by decide, ?_⟩
  have found : shared.allocations.get? "second" =
      some ⟨"second", "near", .tcp, 5000, "stays", "game", .epoch⟩ := by
    decide +kernel
  exact .allocation found rfl rfl rfl

def misfiled : Tables :=
  { Tables.empty with
    allocations := .ofList [("k", ⟨"a", "n1", .tcp, 5001, "i1", "game", .epoch⟩)] }

/-- It is looked for where it does not stand, so it stays. -/
theorem not_takesDown_misfiled :
    ¬ misfiled.TakesDown "i1" .epoch (misfiled.releaseInstance "i1" .epoch).2 := by
  intro takes
  have found : (misfiled.releaseInstance "i1" .epoch).2.allocations.get? "k" =
      some ⟨"a", "n1", .tcp, 5001, "i1", "game", .epoch⟩ := by
    decide +kernel
  exact takes.noAllocation "k" _ found rfl

end Plane
end FleetControl
