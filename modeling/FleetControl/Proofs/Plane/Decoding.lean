import FleetControl.Proofs.Plane.Convergence
import FleetControl.Proofs.Plane.Provenance

/-!
# The meaning of stored jobs

A producer's job is checked before it is stored.  The jobs of the plane itself are stored as
they are, with the name of a node in them that nobody has checked: so all stored jobs have a
meaning as long as the plane plans for no node with a blank name.
-/

namespace FleetControl

open Port
open Time

namespace Plane

variable {p : Plane} {steps : List Step} {id nodeId : String} {job : Job} {rules : List Rule}

/-- In a step of the run, the plane itself has created the job for these rules of the node. -/
def RequestedFor (p : Plane) (steps : List Step) (id : String) (job : Job) (nodeId : String)
    (rules : List Rule) : Prop :=
  ∃ first step rest, steps = first ++ step :: rest ∧ step.operation.isOrder = false ∧
    (p.after first).Appears step id job ∧
    ((p.after first).planned step).Plans nodeId job.type rules ∧
    job.payload = State.firewallPayload nodeId (listText rules)

theorem sound_planned_after (bare : p.IsBare) (first : List Step) (step : Step) :
    ((p.after first).planned step).Sound := by
  have all : p.registry.All Effect.Handler.KeepsToWork :=
    bare.standard ▸ Effect.Registry.keepsToWork_standard
  have sound := Network.sound_of_empty (n := p.state.network) bare.ports bare.firewalls
  refine sound_planned ?_ (network_sound_after all sound) step
  rw [registry_after]
  exact bare.standard

theorem RequestedFor.decode (requested : p.RequestedFor steps id job nodeId rules)
    (bare : p.IsBare) :
    Job.Work.decode job.type job.payload =
      if Text.trim nodeId = "" then .error (.missing job.type "node_id")
      else .ok (.firewall (Text.trim nodeId) rules) := by
  rcases requested with ⟨first, step, rest, _, _, _, plans, payload⟩
  rw [payload]
  exact plans.decode (sound_planned_after bare first step)

/-- A stored job has a meaning, unless it was requested for a node. -/
theorem meant_or_requested (bare : p.IsBare)
    (stored : (p.after steps).state.jobs.get? id = some job) :
    (∃ work, Job.Work.decode job.type job.payload = .ok work) ∨
      ∃ nodeId rules, p.RequestedFor steps id job nodeId rules := by
  rcases appears_of_stored stored with ⟨before, was, _⟩ | ⟨first, step, rest, split, appears⟩
  · have jobs : p.state.jobs = .empty := bare.jobs.1
    rw [jobs] at was
    cases was
  · cases order : step.operation.isOrder with
    | true => exact Or.inl (appears.meant order)
    | false =>
        have standard : (p.after first).registry = .standard := by
          rw [registry_after]
          exact bare.standard
        rcases (appears.makes standard order).plans_or_meant with
          ⟨nodeId, rules, plans, payload⟩ | meant
        · exact Or.inr ⟨nodeId, rules, first, step, rest, split, order, appears, plans, payload⟩
        · exact Or.inl meant

/-- A stored job has a meaning exactly when it was not requested for a node with a blank name.
A requested job means the rules that it was requested for, of the same node, exactly when the
name of the node is trimmed. -/
theorem decodes_iff (bare : p.IsBare)
    (stored : (p.after steps).state.jobs.get? id = some job) :
    ((∃ work, Job.Work.decode job.type job.payload = .ok work) ↔
      ∀ nodeId rules, p.RequestedFor steps id job nodeId rules → Text.trim nodeId ≠ "") ∧
    ∀ nodeId rules, p.RequestedFor steps id job nodeId rules →
      (Job.Work.decode job.type job.payload = .ok (.firewall nodeId rules) ↔
        Text.trim nodeId = nodeId ∧ nodeId ≠ "") := by
  refine ⟨⟨?_, ?_⟩, ?_⟩
  · intro meant nodeId rules requested blank
    rcases meant with ⟨work, meant⟩
    rw [requested.decode bare, if_pos blank] at meant
    cases meant
  · intro named
    rcases meant_or_requested bare stored with meant | ⟨nodeId, rules, requested⟩
    · exact meant
    · refine ⟨.firewall (Text.trim nodeId) rules, ?_⟩
      rw [requested.decode bare, if_neg (named nodeId rules requested)]
  · intro nodeId rules requested
    rw [requested.decode bare]
    constructor
    · intro meant
      split at meant
      · cases meant
      · rename_i named
        have trimmed := (Job.Work.firewall.inj (Except.ok.inj meant)).1
        exact ⟨trimmed, trimmed ▸ named⟩
    · intro named
      rw [named.1, if_neg named.2]

/-!
# A port on the node of an agent

The job that is to open the port is for the node that the port is on.
-/

theorem requestedFor_portAllocated {job : Job}
    (found : lentPlane.state.jobs.get? "b|" = some job) :
    emptyPlane.RequestedFor [registered, portAllocated] "b|" job "a" [⟨.tcp, 5001⟩] := by
  have plan : (hostPlane.planned portAllocated).plan "a" = ⟨"a", [⟨.tcp, 5001⟩], []⟩ := by
    rw [planned, next_portAllocated]
    exact firewallPlan_lent
  have row : job.type = State.openPortsType ∧
      job.payload = State.firewallPayload "a" (listText [⟨.tcp, 5001⟩]) := by
    cases found
    exact ⟨rfl, rfl⟩
  have opening : (hostPlane.planned portAllocated).Plans "a" State.openPortsType
      [⟨.tcp, 5001⟩] := by
    have half : ((hostPlane.planned portAllocated).plan "a").toOpen ≠ [] →
        (hostPlane.planned portAllocated).Plans "a" State.openPortsType
          ((hostPlane.planned portAllocated).plan "a").toOpen := .opening
    rw [plan] at half
    exact half (by decide)
  refine ⟨[registered], portAllocated, [], rfl, rfl, ⟨?_, job, ?_, .refl job⟩, ?_, row.2⟩
  · intro before was
    cases was
  · show (hostPlane.next portAllocated).state.jobs.get? "b|" = some job
    rw [next_portAllocated]
    exact found
  · rw [row.1]
    exact opening

theorem decodes_iff_allocated :
    emptyPlane.IsBare ∧ ∃ job,
      (emptyPlane.after [registered, portAllocated]).state.jobs.get? "b|" = some job ∧
      emptyPlane.RequestedFor [registered, portAllocated] "b|" job "a" [⟨.tcp, 5001⟩] ∧
      Job.Work.decode job.type job.payload = .ok (.firewall "a" [⟨.tcp, 5001⟩]) := by
  have bare : emptyPlane.IsBare := isBare_idle _
  have after : emptyPlane.after [registered, portAllocated] = lentPlane := next_portAllocated
  cases found : lentPlane.state.jobs.get? "b|" with
  | none => cases found
  | some job =>
      have stored : (emptyPlane.after [registered, portAllocated]).state.jobs.get? "b|" =
          some job := by
        rw [after]
        exact found
      have requested := requestedFor_portAllocated found
      exact ⟨bare, job, stored, requested,
        ((decodes_iff bare stored).2 "a" _ requested).mpr (by decide +kernel)⟩

/-!
# A port on a node without a name

Nothing keeps a port from being allocated on such a node.  The job for it goes to any agent,
and its success changes nothing.
-/

def namelessAllocated : Step :=
  { fresh := .strokes 'b', now := .epoch, observers := []
    operation := .allocatePort ⟨"", .tcp, "i1", "game", .explicit 5001⟩ "admin" }

def namelessTables : Port.Tables :=
  { Port.Tables.empty with
    allocations := Table.empty.insert "b" ⟨"b", "", .tcp, 5001, "i1", "game", .epoch⟩ }

def namelessState : State :=
  { hostPlane.state with ports := namelessTables }

def namelessPlane : Plane :=
  { hostPlane with
    store := hostPlane.store.apply .durable (namelessState.requestFirewallJob (.strokes 'b')
      State.openPortsType "" [⟨.tcp, 5001⟩] .epoch).2 }

theorem firewallPlan_nameless :
    namelessState.firewallPlan "" = ⟨"", [⟨.tcp, 5001⟩], []⟩ := by
  rw [State.firewallPlan_eq, Firewall.Plan.between]
  simp only [Port.RuleSet.rules_difference, Port.RuleSet.rules_intersection]
  decide +kernel

theorem next_namelessAllocated : hostPlane.next namelessAllocated = namelessPlane := by
  have allocated : hostPlane.state.ports.allocatePort
      ⟨"", .tcp, "i1", "game", .explicit 5001⟩ .epoch "b" =
        .ok (⟨"b", "", .tcp, 5001, "i1", "game", .epoch⟩, namelessTables) := rfl
  have reconciled : (namelessState.reconcileFirewalls (.strokes 'b') .epoch [""]).2 =
      (namelessState.requestFirewallJob (.strokes 'b') State.openPortsType "" [⟨.tcp, 5001⟩]
        .epoch).2 := by
    show (namelessState.reconcileFirewall (.strokes 'b') "" .epoch).2 = _
    rw [State.reconcileFirewall, firewallPlan_nameless]
    rfl
  refine Eq.trans (plane_changePorts (p := hostPlane) allocated (fun a => [a.nodeId])
    (fun _ => .none)) ?_
  exact congrArg (fun s => { hostPlane with store := hostPlane.store.apply .durable s }) reconciled

/-- The job is stored, it means nothing, and its success is taken in without a trace on any
firewall. -/
theorem not_decodes_nameless :
    emptyPlane.IsBare ∧ ∃ job,
      (emptyPlane.after [registered, namelessAllocated]).state.jobs.get? "b|" = some job ∧
      Job.Work.decode job.type job.payload = .error (.missing State.openPortsType "node_id") ∧
      (((emptyPlane.after ([registered, namelessAllocated] ++ portOpened)).state.jobs.get?
        "b|").map Job.status = some .succeeded) ∧
      (emptyPlane.after ([registered, namelessAllocated] ++ portOpened)).state.firewalls =
        .empty := by
  have after : emptyPlane.after [registered, namelessAllocated] = namelessPlane :=
    next_namelessAllocated
  rw [after_append, after]
  cases found : namelessPlane.state.jobs.get? "b|" with
  | none => cases found
  | some job =>
      refine ⟨isBare_idle _, job, rfl, ?_, by decide +kernel, ?_⟩
      · cases found
        decide +kernel
      · with_unfolding_all rfl

end Plane
end FleetControl
