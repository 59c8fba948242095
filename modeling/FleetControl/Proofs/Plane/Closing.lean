import FleetControl.Proofs.Firewall.Managed
import FleetControl.Proofs.Plane.Convergence
import FleetControl.Proofs.Plane.Provenance

/-!
# Ports that are closed

The plane closes ports that it has opened itself, and no others.  What it has opened is what
its jobs have reported: the managed rules of a node are those that the last successful job to
name them has opened.
-/

namespace FleetControl

open Firewall
open Port
open Time

theorem State.ManagedBy.apply {acts : String → List Act} {s s' : State}
    (h : State.ManagedBy acts s s') (store : Store) (change : Change) :
    State.ManagedBy acts s (store.apply change s').state := by
  rcases store.state_apply change s' with ⟨revision, same⟩
  rw [same]
  exact h

def Operation.isResult : Operation → Bool
  | .submitResult _ _ _ => true
  | _ => false

theorem Job.meant_of_act? {job : Job} {nodeId : String} {act : Act}
    (h : job.act? nodeId = some act) :
    ∃ rules, Work.decode job.type job.payload = .ok (.firewall nodeId rules) ∧
      act = job.actWith rules := by
  unfold act? at h
  split at h
  · rename_i node rules meant
    split at h
    · rename_i here
      rw [here] at meant
      exact ⟨rules, meant, (Option.some.inj h).symm⟩
    · cases h
  · cases h

theorem Job.act?_of_meant {job : Job} {nodeId : String} {rules : List Rule}
    (meant : Work.decode job.type job.payload = .ok (.firewall nodeId rules)) :
    job.act? nodeId = some (job.actWith rules) := by
  simp only [act?, meant, if_true]

namespace Plane

variable {p : Plane} {step : Step} {id : String} {job : Job}

def succeededBy (p : Plane) (step : Step) : Option Job :=
  match step.operation with
  | .submitResult _ _ report =>
      if Job.Status.reported? report.status = some .succeeded then p.takenBy step else none
  | _ => none

/-- The jobs whose success is taken in, in the order of the reports. -/
def succeeded (p : Plane) : List Step → List Job
  | [] => []
  | step :: rest => (p.succeededBy step).toList ++ (p.next step).succeeded rest

/-!
# What is managed after a run
-/

theorem Commits.managedBy {fresh : Fresh} {now : Instant} {operation : Operation}
    {change : Change} {s : State} (commits : p.Commits fresh now operation change s)
    (aside : operation.isResult = false) :
    State.ManagedBy (fun _ => []) p.state s := by
  cases spares : operation.sparesNetwork with
  | true =>
      exact State.managedBy_of_firewalls (congrArg Network.firewalls (commits.network spares))
  | false =>
      cases commits with
      | heartbeat taken => exact State.managedBy_takeHeartbeat taken
      | ports about ports nodes =>
          exact State.managedBy_of_firewalls (congrArg Network.firewalls
            (State.network_reconcileFirewalls { p.state with ports := ports } fresh now nodes))
      | submitResult submitted => cases aside
      | register | poll | submitLogs | createJob | cancelJob | expireStale
      | reconcileFirewall => cases spares

theorem Ends.managedBy {fresh : Fresh} {now : Instant} {operation : Operation} {q : Plane}
    (ends : p.Ends fresh now operation q)
    (aside : operation.isResult = false) :
    State.ManagedBy (fun _ => []) p.state q.state := by
  refine ends.state_ind (P := State.ManagedBy (fun _ => []) p.state)
    (State.managedBy_of_firewalls rfl) ?_
  exact fun change s commits => (commits.managedBy aside).apply p.store change

theorem managedBy_next (standard : p.registry = .standard) (step : Step) :
    State.ManagedBy (fun nodeId => ((p.succeededBy step).bind (Job.act? nodeId)).toList)
      p.state (p.next step).state := by
  rcases step with ⟨fresh, now, observers, operation⟩
  have ends := ends_run { p with observers := observers } fresh now operation
  cases operation with
  | submitResult agentId jobId report =>
      rcases p.takenBy_cases fresh now observers agentId jobId report with
        ⟨taken, state⟩ | ⟨reported, s, job, done, found, _, taken, state⟩
      · simp only [succeededBy, taken, ite_self, state]
        exact State.managedBy_of_firewalls rfl
      · rw [state]
        simp only [succeededBy, taken]
        split
        · rename_i succeeded
          exact (State.managedBy_of_success standard succeeded found done).apply p.store .durable
        · rename_i other
          exact (State.managedBy_of_other standard other done).apply p.store .durable
  | register | heartbeat | poll | submitLogs | createJob | jobDetail | cancelJob | expireStale
  | addPool | addRange | allocateBlocks | bindBlock | releaseBlock | allocatePort
  | releaseInstancePorts | reconcileFirewall => exact ends.managedBy rfl

theorem managedBy_after (standard : p.registry = .standard) (steps : List Step) :
    State.ManagedBy (fun nodeId => (p.succeeded steps).filterMap (Job.act? nodeId))
      p.state (p.after steps).state := by
  induction steps generalizing p with
  | nil => exact State.managedBy_of_firewalls rfl
  | cons step rest ih =>
      have acts : (fun nodeId => (p.succeeded (step :: rest)).filterMap (Job.act? nodeId)) =
          fun nodeId => ((p.succeededBy step).bind (Job.act? nodeId)).toList ++
            ((p.next step).succeeded rest).filterMap (Job.act? nodeId) := by
        funext nodeId
        rw [succeeded, List.filterMap_append]
        cases p.succeededBy step <;> rfl
      rw [acts]
      exact (managedBy_next standard step).trans (ih ((p.registry_next step).trans standard))

/-- Where nothing was managed before, a managed rule was opened by a job that has succeeded, and
no job that has succeeded since then names it. -/
theorem opened_of_managed {steps : List Step} {nodeId : String} {f : Firewall.Node} {r : Rule}
    (standard : p.registry = .standard) (bare : p.state.firewalls = .empty)
    (known : (p.after steps).state.firewalls.get? nodeId = some f) (managed : r ∈ f.managed) :
    ∃ before opening after rules, p.succeeded steps = before ++ opening :: after ∧
      opening.type = State.openPortsType ∧
      Job.Work.decode opening.type opening.payload = .ok (.firewall nodeId rules) ∧ r ∈ rules ∧
      ∀ later ∈ after, ∀ rules,
        Job.Work.decode later.type later.payload = .ok (.firewall nodeId rules) → r ∉ rules := by
  have here : r ∈ ((p.after steps).state.firewall nodeId).managed := by
    rw [State.firewall, known]
    exact managed
  have word : lastWord r ((p.succeeded steps).filterMap (Job.act? nodeId)) = some true := by
    rcases (managedBy_after standard steps nodeId r).mp here with word | ⟨_, earlier⟩
    · exact word
    · rw [State.firewall, bare] at earlier
      cases earlier
  rcases split_of_lastWord word with ⟨before, act, after, split, named, opens, silent⟩
  rcases List.filterMap_eq_append_iff.mp split with ⟨first, rest, parts, _, split'⟩
  rcases List.filterMap_eq_cons_iff.mp split' with ⟨idle, opening, last, parts', _, acts, others⟩
  rcases Job.meant_of_act? acts with ⟨rules, meant, rfl⟩
  refine ⟨first ++ idle, opening, last, rules, ?_, of_decide_eq_true opens, meant, named, ?_⟩
  · rw [parts, parts', List.append_assoc]
  · intro later mem others' meant'
    have act : later.actWith others' ∈ after := by
      rw [← others]
      exact List.mem_filterMap.mpr ⟨later, mem, Job.act?_of_meant meant'⟩
    exact silent _ act

/-- When the plane itself creates a job that closes ports on a node, none of these ports is
desired there, each was opened by a job for that node that has succeeded, and no job that has
succeeded since then names it. -/
theorem closes_only_opened {steps : List Step} (standard : p.registry = .standard)
    (bare : p.state.firewalls = .empty) (own : step.operation.isOrder = false)
    (appears : (p.after steps).Appears step id job) (closing : job.type = State.closePortsType) :
    ∃ nodeId rules, job.payload = State.firewallPayload nodeId (listText rules) ∧
      Job.Work.ruleList job.type (listText rules) = .ok rules ∧
      ∀ r ∈ rules, r ∉ ((p.after steps).next step).state.ports.desired nodeId ∧
        ∃ before opening after opened, p.succeeded steps = before ++ opening :: after ∧
          opening.type = State.openPortsType ∧
          Job.Work.decode opening.type opening.payload = .ok (.firewall nodeId opened) ∧
          r ∈ opened ∧
          ∀ later ∈ after, ∀ named,
            Job.Work.decode later.type later.payload = .ok (.firewall nodeId named) →
              r ∉ named := by
  have standard' : (p.after steps).registry = .standard := by
    rw [registry_after]
    exact standard
  rcases (appears.makes standard' own).closes closing with ⟨nodeId, _, payload⟩
  have opened := fun r (h : r ∈ (((p.after steps).planned step).plan nodeId).toClose) =>
    (Network.mem_toClose h).imp_left fun ⟨f, known, managed⟩ =>
      opened_of_managed standard bare known managed
  refine ⟨nodeId, _, payload, ?_, fun r h => ⟨(opened r h).2, (opened r h).1⟩⟩
  apply Job.Work.ruleList_listText
  intro r h
  rcases (opened r h).1 with ⟨_, opening, _, rules, _, _, meant, named, _⟩
  exact Job.Work.positive_of_decode meant r named

/-!
# A port that is closed again

The port that was opened on the node of the agent is released, so the job `c||` is to close it.
-/

def openedPlane : Plane :=
  lentPlane.after portOpened

def returnedState : State :=
  { openedPlane.state with ports := (openedPlane.state.ports.releaseInstance "i1" .epoch).2 }

theorem firewall_opened : openedPlane.state.firewall "a" =
    (Node.fresh "a").change [⟨.tcp, 5001⟩] [] .epoch := by
  with_unfolding_all rfl

theorem firewallPlan_returned :
    returnedState.firewallPlan "a" = ⟨"a", [], [⟨.tcp, 5001⟩]⟩ := by
  rw [State.firewallPlan_eq, show returnedState.firewall "a" = _ from firewall_opened,
    Plan.between]
  simp only [RuleSet.rules_difference, RuleSet.rules_intersection, Option.getD_some,
    Node.change, RuleSet.rules_eraseAll]
  decide +kernel

theorem state_portReleased : (openedPlane.next portReleased).state =
    (openedPlane.store.apply .durable (returnedState.requestFirewallJob (.strokes 'c')
      State.closePortsType "a" [⟨.tcp, 5001⟩] .epoch).2).state := by
  have nodes : (openedPlane.state.ports.releaseInstance "i1" .epoch).1.nodes.names = ["a"] := by
    decide +kernel
  have released : (openedPlane.next portReleased).state =
      (openedPlane.store.apply .durable (returnedState.reconcileFirewalls (.strokes 'c') .epoch
        (openedPlane.state.ports.releaseInstance "i1" .epoch).1.nodes.names).2).state := rfl
  have reconciled : (returnedState.reconcileFirewalls (.strokes 'c') .epoch ["a"]).2 =
      (returnedState.requestFirewallJob (.strokes 'c') State.closePortsType "a"
        [⟨.tcp, 5001⟩] .epoch).2 := by
    show (returnedState.reconcileFirewall (.strokes 'c') "a" .epoch).2 = _
    rw [State.reconcileFirewall, firewallPlan_returned]
    rfl
  rw [released, nodes, reconciled]

theorem row_portReleased :
    ((openedPlane.next portReleased).state.jobs.get? "c||").map
        (fun job => (job.type, job.payload)) =
      some (State.closePortsType, State.firewallPayload "a" (listText [⟨.tcp, 5001⟩])) := by
  rw [state_portReleased]
  decide +kernel

theorem closes_only_opened_released :
    emptyPlane.registry = .standard ∧ emptyPlane.state.firewalls = .empty ∧
      portReleased.operation.isOrder = false ∧ ∃ job,
        (emptyPlane.after (registered :: portAllocated :: portOpened)).Appears portReleased
          "c||" job ∧
        job.type = State.closePortsType ∧
        job.payload = State.firewallPayload "a" (listText [⟨.tcp, 5001⟩]) ∧
        ∃ opening rules,
          opening ∈ emptyPlane.succeeded (registered :: portAllocated :: portOpened) ∧
          opening.type = State.openPortsType ∧
          Job.Work.decode opening.type opening.payload = .ok (.firewall "a" rules) ∧
          ⟨.tcp, 5001⟩ ∈ rules := by
  have after : emptyPlane.after (registered :: portAllocated :: portOpened) = openedPlane :=
    congrArg (fun p : Plane => p.after portOpened) next_portAllocated
  rcases Option.map_eq_some_iff.mp row_portReleased with ⟨job, found, row⟩
  rcases Prod.mk.inj row with ⟨closing, asked⟩
  have missing : openedPlane.state.jobs.get? "c||" = none := by decide +kernel
  have appears : (emptyPlane.after (registered :: portAllocated :: portOpened)).Appears
      portReleased "c||" job := by
    rw [after]
    refine ⟨?_, job, found, .refl job⟩
    intro before was
    cases missing.symm.trans was
  refine ⟨rfl, rfl, rfl, job, appears, closing, asked, ?_⟩
  rcases closes_only_opened (p := emptyPlane) rfl rfl rfl appears closing with
    ⟨nodeId, rules, payload, read, opened⟩
  rw [asked] at payload
  have node : some "a" = some nodeId := by
    simpa [State.firewallPayload] using congrArg (·.get? "node_id") payload
  have ports : some (listText [⟨.tcp, 5001⟩]) = some (listText rules) := by
    simpa [State.firewallPayload] using congrArg (·.get? "ports") payload
  have same : rules = [⟨.tcp, 5001⟩] := by
    rw [← Option.some.inj ports, Job.Work.ruleList_listText (by decide)] at read
    exact (Except.ok.inj read).symm
  cases node
  rcases (opened ⟨.tcp, 5001⟩ (same ▸ List.mem_cons_self)).2 with
    ⟨before, opening, after, named, split, opens, meant, mem, _⟩
  refine ⟨opening, named, ?_, opens, meant, mem⟩
  rw [split]
  exact List.mem_append_right before List.mem_cons_self

end Plane
end FleetControl
