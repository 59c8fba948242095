import FleetControl.Proofs.Effect.Registry
import FleetControl.Proofs.Firewall.Acts
import FleetControl.Proofs.Firewall.Network
import FleetControl.Proofs.Job.Work
import FleetControl.Proofs.JobStore.Results

/-!
# Results of firewall jobs

The success of a firewall job is an act on the firewall of the node that its payload means.
It leaves the ports alone, and the firewalls of all other nodes.
-/

namespace FleetControl

open Firewall
open Refusal
open Time

namespace Job

def actWith (job : Job) (rules : List Port.Rule) : Act :=
  { opens := decide (job.type = State.openPortsType), rules := rules }

/-- What the success of a job does to the firewall of a node. -/
def act? (nodeId : String) (job : Job) : Option Act :=
  match Work.decode job.type job.payload with
  | .ok (.firewall node rules) => if node = nodeId then some (job.actWith rules) else none
  | _ => none

theorem act?_congr {a b : Job} (same : a.SameOrigin b) (nodeId : String) :
    a.act? nodeId = b.act? nodeId := by
  rcases same with ⟨_, type, payload, _⟩
  simp only [act?, actWith, type, payload]

end Job

namespace State

variable {s s' : State} {fresh : Fresh} {now : Instant} {agentId id : String}

/-- Nothing happens but acts on the firewalls, for each node its own. -/
structure Enacts (s : State) (acts : String → List Act) (s' : State) : Prop where
  ports : s'.ports = s.ports
  firewalls : ∀ nodeId, (s.firewall nodeId).Becomes (acts nodeId) (s'.firewall nodeId)
  /-- No job is new. -/
  jobs : ∀ id, s.jobs.get? id = none → s'.jobs.get? id = none

theorem firewall_congr (h : s'.network = s.network) (nodeId : String) :
    s'.firewall nodeId = s.firewall nodeId := by
  have firewalls : s'.firewalls = s.firewalls := congrArg Network.firewalls h
  rw [firewall, firewall, firewalls]

theorem enacts_nothing (network : s'.network = s.network)
    (jobs : ∀ id, s.jobs.get? id = none → s'.jobs.get? id = none) :
    s.Enacts (fun _ => []) s' where
  ports := congrArg Network.ports network
  firewalls := by
    intro nodeId
    rw [firewall_congr network]
    exact Node.becomes_nil _
  jobs := jobs

theorem Enacts.trans {s'' : State} {first second : String → List Act}
    (h : s.Enacts first s') (h' : s'.Enacts second s'') :
    s.Enacts (fun nodeId => first nodeId ++ second nodeId) s'' where
  ports := h'.ports.trans h.ports
  firewalls := fun nodeId => (h.firewalls nodeId).trans (h'.firewalls nodeId)
  jobs := fun id missing => h'.jobs id (h.jobs id missing)

/-!
# Events of firewall jobs
-/

theorem firewall_applyFirewallChange (s : State) (nodeId other : String)
    (opened closed : List Port.Rule) (now : Instant) :
    (s.applyFirewallChange nodeId opened closed now).firewall other =
      if other = nodeId then (s.firewall nodeId).change opened closed now
      else s.firewall other := by
  simp only [firewall, applyFirewallChange, Table.get?_insert]
  split <;> rfl

theorem eventsOf_of_firewall {job : Job} {result : Job.Result} {nodeId : String}
    {rules : List Port.Rule} (firewall : job.IsFirewall) (succeeded : result.status = .succeeded)
    (meant : Job.Work.decode job.type job.payload = .ok (.firewall nodeId rules)) :
    eventsOf .standard job result =
      [.firewallApplied nodeId (job.actWith rules).opened (job.actWith rules).closed] := by
  have routed := Effect.Registry.route_of_firewall firewall
  have events : eventsOf .standard job result =
      if job.type = closePortsType then [.firewallApplied nodeId [] rules]
      else [.firewallApplied nodeId rules []] := by
    simp only [eventsOf, meant, Effect.Registry.eventsFor, routed,
      Effect.Handler.firewallApplied, Effect.Input.succeeded, succeeded, decide_true, if_true]
    rfl
  rcases firewall with type | type <;> rw [events, Job.actWith, type] <;> rfl

theorem eventsOf_of_flaw {registry : Effect.Registry Effect.Handler} {job : Job}
    {result : Job.Result} {flaw : Job.Work.Flaw}
    (meant : Job.Work.decode job.type job.payload = .error flaw) :
    eventsOf registry job result = [] := by
  simp only [eventsOf, meant]

theorem enacts_applyEvents (s : State) (fresh : Fresh) (now : Instant) {job : Job}
    {result : Job.Result} (firewall : job.IsFirewall) (succeeded : result.status = .succeeded)
    (thresholds : Inventory.DiskThresholds) :
    s.Enacts (fun nodeId => (job.act? nodeId).toList)
      (s.applyEvents fresh thresholds now (eventsOf .standard job result)).2.2 := by
  cases meant : Job.Work.decode job.type job.payload with
  | error flaw =>
      simp only [eventsOf_of_flaw meant, Job.act?, meant]
      exact enacts_nothing rfl fun _ missing => missing
  | ok work =>
      have family := Job.Work.decode_of_isFirewall firewall
      rcases Job.Work.positive_of_ofFirewall (family.symm.trans meant) with ⟨node, rules, rfl, _⟩
      simp only [eventsOf_of_firewall firewall succeeded meant, Job.act?, meant]
      refine ⟨rfl, fun nodeId => ?_, fun _ missing => missing⟩
      show (s.firewall nodeId).Becomes _ ((s.applyFirewallChange node _ _ now).firewall nodeId)
      rw [firewall_applyFirewallChange]
      by_cases same : node = nodeId
      · subst same
        rw [if_pos rfl, if_pos rfl]
        exact Node.becomes_change _ _ now
      · rw [if_neg same, if_neg (fun h => same h.symm)]
        exact Node.becomes_nil _

/-!
# Taking the result in
-/

theorem running_of_submitResult {report : ResultReport} {policy : ReportPolicy}
    {reported : Reported}
    (h : s.submitResult fresh agentId id report policy now = .ok (reported, s')) :
    ∃ job, s.jobs.get? id = some job ∧ job.status = .running := by
  rcases submitResult_eq_ok h with ⟨token, _, _, _, _, htoken, _⟩
  rcases leaseToken_eq_ok htoken with ⟨job, found, running, _⟩
  exact ⟨job, found, running⟩

theorem enacts_submitResult {job : Job} {report : ResultReport} {policy : ReportPolicy}
    {reported : Reported} (staged : s.jobStore.Staged) (standard : policy.registry = .standard)
    (succeeded : Job.Status.reported? report.status = some .succeeded)
    (found : s.jobs.get? id = some job) (firewall : job.IsFirewall)
    (h : s.submitResult fresh agentId id report policy now = .ok (reported, s')) :
    s.Enacts (fun nodeId => (job.act? nodeId).toList) s' := by
  rcases submitResult_eq_ok h with ⟨token, _, finished, result, m, htoken, same, hfinish, rfl⟩
  cases succeeded.symm.trans same
  rcases leaseToken_eq_ok htoken with ⟨held, hheld, running, _, htoken⟩
  cases found.symm.trans hheld
  rcases (staged id).of_running found running with ⟨leased, log, before⟩
  have lock : job.lockToken = some token := htoken ▸ lockToken_of_leased leased
  rcases finishJob_eq_ok before lock hfinish with ⟨rfl, written, puts⟩
  have status : result.status = .succeeded := congrArg Job.Result.status written
  have finish : s.Enacts (fun _ => []) m := by
    refine enacts_nothing (network_finishJob hfinish) fun other missing => ?_
    have others : other ≠ id := by
      rintro rfl
      cases missing.symm.trans found
    exact (congrArg Dossier.job (puts.rewrites.others other others)).trans missing
  have family : (job.closed .succeeded now).IsFirewall := firewall
  have events := m.enacts_applyEvents fresh now family status policy.thresholds
  rw [standard]
  exact finish.trans events

end State
end FleetControl
