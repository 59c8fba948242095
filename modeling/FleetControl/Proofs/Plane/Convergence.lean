import FleetControl.Proofs.Plane.Settling

/-!
# Convergence of firewalls

Reconciling looks for jobs that ask for the same, and not for jobs that ask for the
opposite: such jobs stay queued or running.  So the plan of a node that has been reconciled
does not become empty in each and every case when all of its firewall jobs have succeeded.
It does in any order if no job was opposed to what is wished for.
-/

namespace FleetControl

open Firewall
open Time

namespace Plane

variable {p : Plane} {step : Step} {nodeId : String} {settling : List Step}

/-!
# Planes that can be reached
-/

/-- A plane with the handlers of all families that has no jobs, ports or firewalls yet. -/
structure IsBare (p : Plane) : Prop where
  standard : p.registry = .standard
  jobs : p.state.jobStore.IsEmpty
  lastSeq : p.state.lastSeq = 0
  ports : p.state.ports = .empty
  firewalls : p.state.firewalls = .empty

theorem isBare_idle (config : Config) : (idle config).IsBare :=
  ⟨rfl, ⟨rfl, rfl, rfl⟩, rfl, rfl, rfl⟩

def IsReached (p : Plane) : Prop :=
  ∃ start steps, IsBare start ∧ start.RunsFresh steps ∧ p = start.after steps

theorem IsReached.next (reached : p.IsReached) (names : step.fresh.NamesNewJobs p.state) :
    (p.next step).IsReached := by
  rcases reached with ⟨start, steps, bare, fresh, rfl⟩
  refine ⟨start, steps ++ [step], bare, runsFresh_append.mpr ⟨fresh, names, trivial⟩, ?_⟩
  rw [after_append, after_cons, after_nil]

theorem IsReached.standard (reached : p.IsReached) : p.registry = .standard := by
  rcases reached with ⟨start, steps, bare, _, rfl⟩
  rw [registry_after]
  exact bare.standard

theorem IsReached.staged (reached : p.IsReached) : p.state.jobStore.Staged := by
  rcases reached with ⟨start, steps, bare, fresh, rfl⟩
  exact staged_after bare.jobs.staged fresh

theorem IsReached.numbered (reached : p.IsReached) : p.state.jobStore.Numbered 0 := by
  rcases reached with ⟨start, steps, bare, fresh, rfl⟩
  rw [← bare.lastSeq]
  exact numbered_after bare.jobs fresh

theorem IsReached.network (reached : p.IsReached) : p.state.network.Sound := by
  rcases reached with ⟨start, steps, bare, _, rfl⟩
  refine network_sound_after ?_ (Network.sound_of_empty bare.ports bare.firewalls)
  rw [bare.standard]
  exact Effect.Registry.keepsToWork_standard

/-!
# Plans that are carried out
-/

/-- Once all that is asked for is settled, the plan is empty exactly when every last word is
as wished. -/
theorem isEmpty_after_iff (reached : p.IsReached) (fresh : p.RunsFresh settling)
    (named : nodeId ≠ "") (trimmed : Text.trim nodeId = nodeId)
    (requested : p.state.Requested nodeId (p.state.firewallPlan nodeId))
    (settles : p.Settles nodeId settling) :
    ((p.after settling).state.firewallPlan nodeId).isEmpty = true ↔
      EndsAsWished (p.state.ports.desired nodeId) (p.acts nodeId settling) := by
  have enacts := enacts_after reached.staged fresh reached.standard settles.only
  rw [State.firewallPlan_eq, enacts.ports]
  rw [State.firewallPlan_eq] at requested
  refine Plan.isEmpty_iff_endsAsWished (enacts.firewalls nodeId) ?_ ?_
  · intro r hr
    rcases requested.opening (List.ne_nil_of_mem hr) with ⟨id, job, found, asks⟩
    refine lastWord_ne_none_of_asks reached.staged fresh settles trimmed named (.inl rfl) ?_
      found asks r hr
    exact fun r h => Port.Tables.positive_of_mem_desired reached.network.ports
      (Plan.mem_toOpen.mp h).1
  · intro r hr
    rcases requested.closing (List.ne_nil_of_mem hr) with ⟨id, job, found, asks⟩
    refine lastWord_ne_none_of_asks reached.staged fresh settles trimmed named (.inr rfl) ?_
      found asks r hr
    exact fun r h => State.managed_firewall reached.network nodeId r (Plan.mem_toClose.mp h).1.2

/-- No job that is queued or running does to the node what is not wished for. -/
def Unopposed (p : Plane) (nodeId : String) : Prop :=
  ∀ job ∈ p.state.jobs.values, job.isPending = true → ∀ act, job.act? nodeId = some act →
    ∀ r ∈ act.rules, (act.opens = true ↔ r ∈ p.state.ports.desired nodeId)

theorem Unopposed.endsAsWished (unopposed : p.Unopposed nodeId) (reached : p.IsReached)
    (fresh : p.RunsFresh settling) (only : p.OnlySettles settling) :
    EndsAsWished (p.state.ports.desired nodeId) (p.acts nodeId settling) := by
  refine endsAsWished_of_forall fun act mem r hr => ?_
  rcases List.mem_filterMap.mp mem with ⟨reported, taken, meant⟩
  rcases pending_of_mem_taken reached.staged fresh reached.standard only taken with
    ⟨job, found, pending, same⟩
  rw [← Job.act?_congr same] at meant
  exact unopposed job (Table.mem_values_iff.mpr ⟨_, found⟩) pending act meant r hr

section Reconciled

variable (reached : p.IsReached) (names : step.fresh.NamesNewJobs p.state)
  (reconciled : nodeId ∈ p.reconciled step) (named : nodeId ≠ "")
  (trimmed : Text.trim nodeId = nodeId)
  (room : (p.next step).state.jobs.size < UInt64.size)
  (fresh : (p.next step).RunsFresh settling) (settles : (p.next step).Settles nodeId settling)
include reached names reconciled named trimmed room fresh settles

/-- When all firewall jobs of a node that has been reconciled have succeeded, its plan is
empty exactly when for every rule the last job that names it did what is wished for. -/
theorem isEmpty_settled_iff :
    (((p.next step).after settling).state.firewallPlan nodeId).isEmpty = true ↔
      EndsAsWished ((p.next step).state.ports.desired nodeId)
        ((p.next step).acts nodeId settling) := by
  have requested := requested_next reconciled names reached.numbered (by simpa using room)
  exact isEmpty_after_iff (reached.next names) fresh named trimmed requested settles

/-- Without opposition the plan becomes empty, whatever the order of the reports. -/
theorem isEmpty_settled_of_unopposed (unopposed : (p.next step).Unopposed nodeId) :
    (((p.next step).after settling).state.firewallPlan nodeId).isEmpty = true := by
  have requested := requested_next reconciled names reached.numbered (by simpa using room)
  have wished := unopposed.endsAsWished (reached.next names) fresh settles.only
  exact (isEmpty_after_iff (reached.next names) fresh named trimmed requested settles).mpr wished

end Reconciled

/-!
# A port that is allocated and released

An agent registers as `a`, an instance is given a port on its node, so the job `b|` is to
open it, and the agent opens it.  In one run the port is released before that.
-/

def registered : Step :=
  { fresh := .strokes 'a', now := .epoch, observers := []
    operation := .register ⟨"token", "node", [], .empty⟩ }

def portAllocated : Step :=
  { fresh := .strokes 'b', now := .epoch, observers := []
    operation := .allocatePort ⟨"a", .tcp, "i1", "game", .explicit 5001⟩ "admin" }

def portReleased : Step :=
  { fresh := .strokes 'c', now := .epoch, observers := []
    operation := .releaseInstancePorts "i1" "admin" }

def portOpened : List Step :=
  [{ fresh := .strokes 'd', now := .epoch, observers := [], operation := .poll "a" none },
   { fresh := .strokes 'e', now := .epoch, observers := []
     operation := .submitResult "a" "b|" ⟨"b|", "succeeded", none, .empty, none⟩ }]

def portRun : List Step :=
  registered :: portAllocated :: portReleased :: portOpened

def emptyPlane : Plane :=
  idle { Config.standard "" with bootstrapToken := "token" }

def hostPlane : Plane :=
  emptyPlane.next registered

def lentTables : Port.Tables :=
  { Port.Tables.empty with
    allocations := Table.empty.insert "b" ⟨"b", "a", .tcp, 5001, "i1", "game", .epoch⟩ }

def lentState : State :=
  { hostPlane.state with ports := lentTables }

def lentPlane : Plane :=
  { hostPlane with
    store := hostPlane.store.apply .durable (lentState.requestFirewallJob (.strokes 'b')
      State.openPortsType "a" [⟨.tcp, 5001⟩] .epoch).2 }

theorem firewallPlan_lent : lentState.firewallPlan "a" = ⟨"a", [⟨.tcp, 5001⟩], []⟩ := by
  rw [State.firewallPlan_eq, Plan.between]
  simp only [Port.RuleSet.rules_difference, Port.RuleSet.rules_intersection]
  decide +kernel

theorem next_portAllocated : hostPlane.next portAllocated = lentPlane := by
  have allocated : hostPlane.state.ports.allocatePort
      ⟨"a", .tcp, "i1", "game", .explicit 5001⟩ .epoch "b" =
        .ok (⟨"b", "a", .tcp, 5001, "i1", "game", .epoch⟩, lentTables) := rfl
  have reconciled : (lentState.reconcileFirewalls (.strokes 'b') .epoch ["a"]).2 =
      (lentState.requestFirewallJob (.strokes 'b') State.openPortsType "a" [⟨.tcp, 5001⟩]
        .epoch).2 := by
    show (lentState.reconcileFirewall (.strokes 'b') "a" .epoch).2 = _
    rw [State.reconcileFirewall, firewallPlan_lent]
    rfl
  refine Eq.trans (plane_changePorts (p := hostPlane) allocated (fun a => [a.nodeId])
    (fun _ => .none)) ?_
  exact congrArg (fun s => { hostPlane with store := hostPlane.store.apply .durable s }) reconciled

theorem runsFresh_portRun : emptyPlane.RunsFresh portRun :=
  runsFresh_of_letters (isBare_idle _).jobs ['a', 'b', 'c', 'd', 'e'] (by decide) rfl

theorem isReached_hostPlane : hostPlane.IsReached :=
  ⟨emptyPlane, [registered], isBare_idle _, ⟨runsFresh_portRun.1, trivial⟩, rfl⟩

theorem settles_allocated : lentPlane.Settles "a" portOpened where
  only := ⟨trivial, by unfold SettlesBy; decide +kernel, trivial⟩
  all := by decide +kernel

theorem settles_released : (lentPlane.next portReleased).Settles "a" portOpened where
  only := ⟨trivial, by unfold SettlesBy; decide +kernel, trivial⟩
  all := by decide +kernel

/-- If the port is not released before it is open, nothing is left to plan. -/
theorem isEmpty_settled_iff_allocated :
    hostPlane.IsReached ∧ portAllocated.fresh.NamesNewJobs hostPlane.state ∧
      "a" ∈ hostPlane.reconciled portAllocated ∧
      (hostPlane.next portAllocated).state.jobs.size < UInt64.size ∧
      (hostPlane.next portAllocated).RunsFresh portOpened ∧
      (hostPlane.next portAllocated).Settles "a" portOpened ∧
      (((hostPlane.next portAllocated).after portOpened).state.firewallPlan "a").isEmpty =
        true := by
  have runs : emptyPlane.RunsFresh (registered :: portAllocated :: portOpened) :=
    runsFresh_of_letters (isBare_idle _).jobs ['a', 'b', 'd', 'e'] (by decide) rfl
  rcases runs with ⟨_, names, fresh⟩
  have reconciled : "a" ∈ hostPlane.reconciled portAllocated := by decide +kernel
  have room : (hostPlane.next portAllocated).state.jobs.size < UInt64.size := by
    rw [next_portAllocated]
    decide +kernel
  have settles : (hostPlane.next portAllocated).Settles "a" portOpened :=
    next_portAllocated ▸ settles_allocated
  refine ⟨isReached_hostPlane, names, reconciled, room, fresh, settles, ?_⟩
  refine (isEmpty_settled_iff isReached_hostPlane names reconciled (by decide) (by decide +kernel)
    room fresh settles).mpr ?_
  rw [next_portAllocated]
  exact endsAsWished_of_forall (by decide +kernel)

/-- The release asks for nothing, because nothing is open yet.  Then the job that was there
before opens a port that nobody wishes for. -/
theorem not_isEmpty_settled_released :
    lentPlane.IsReached ∧ portReleased.fresh.NamesNewJobs lentPlane.state ∧
      "a" ∈ lentPlane.reconciled portReleased ∧
      (lentPlane.next portReleased).state.jobs.size < UInt64.size ∧
      (lentPlane.next portReleased).RunsFresh portOpened ∧
      (lentPlane.next portReleased).Settles "a" portOpened ∧
      ¬ (((lentPlane.next portReleased).after portOpened).state.firewallPlan "a").isEmpty =
        true := by
  rcases runsFresh_portRun with ⟨_, allocates, rest⟩
  have reached := isReached_hostPlane.next allocates
  change (hostPlane.next portAllocated).RunsFresh (portReleased :: portOpened) at rest
  rw [next_portAllocated] at reached rest
  rcases rest with ⟨names, fresh⟩
  have reconciled : "a" ∈ lentPlane.reconciled portReleased := by decide +kernel
  have room : (lentPlane.next portReleased).state.jobs.size < UInt64.size := by decide +kernel
  refine ⟨reached, names, reconciled, room, fresh, settles_released, ?_⟩
  have requested := requested_next reconciled names reached.numbered (by simpa using room)
  rw [isEmpty_after_iff (reached.next names) fresh (by decide) (by decide +kernel) requested
    settles_released]
  intro wished
  have word : lastWord ⟨.tcp, 5001⟩ ((lentPlane.next portReleased).acts "a" portOpened) =
      some true := by decide +kernel
  exact absurd ((wished _ _ word).mp rfl) (by decide +kernel)

end Plane
end FleetControl
