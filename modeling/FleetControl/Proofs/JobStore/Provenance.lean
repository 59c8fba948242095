import FleetControl.Proofs.Effect.Order
import FleetControl.Proofs.Firewall.Acts
import FleetControl.Proofs.Firewall.Soundness
import FleetControl.Proofs.JobStore.Rows

/-!
# Where jobs come from

A job is in the store because a producer has ordered it, because one half of the plan for a
node asked for it, or because the disk of an instance is to be scanned.  Nothing that happens
to a job later changes its type or its payload.
-/

namespace FleetControl

open Port
open Refusal
open Time

namespace Network

def plan (n : Network) (nodeId : String) : Firewall.Plan :=
  .between nodeId (n.ports.desired nodeId) (n.firewalls.get? nodeId)

/-- The rules of one half of the plan for a node, and the type of the jobs for it. -/
inductive Plans (n : Network) (nodeId : String) : String → List Rule → Prop
  | opening (some_ : (n.plan nodeId).toOpen ≠ []) :
      Plans n nodeId State.openPortsType (n.plan nodeId).toOpen
  | closing (some_ : (n.plan nodeId).toClose ≠ []) :
      Plans n nodeId State.closePortsType (n.plan nodeId).toClose

/-- Types and payloads of the jobs that the plane creates of its own accord. -/
inductive Makes (n : Network) : String → Payload → Prop
  | firewall {nodeId type : String} {rules : List Rule} (plans : n.Plans nodeId type rules) :
      Makes n type (State.firewallPayload nodeId (listText rules))
  | scan {instanceId : String} (nodeId : String)
      (trimmed : Text.trim instanceId = instanceId) (named : instanceId ≠ "") :
      Makes n State.diskScanType (State.diskScanPayload instanceId nodeId)

variable {n : Network} {nodeId type : String} {rules : List Rule}

theorem Plans.isFirewall (plans : n.Plans nodeId type rules) :
    type = State.openPortsType ∨ type = State.closePortsType := by
  cases plans with
  | opening some_ => exact Or.inl rfl
  | closing some_ => exact Or.inr rfl

theorem Plans.ne_diskScanType (plans : n.Plans nodeId type rules) :
    type ≠ State.diskScanType := by
  rcases plans.isFirewall with rfl | rfl <;> decide

theorem Plans.ne_nil (plans : n.Plans nodeId type rules) : rules ≠ [] := by
  cases plans with
  | opening some_ => exact some_
  | closing some_ => exact some_

theorem mem_toClose {r : Rule} (h : r ∈ (n.plan nodeId).toClose) :
    (∃ f, n.firewalls.get? nodeId = some f ∧ r ∈ f.managed) ∧ r ∉ n.ports.desired nodeId := by
  unfold plan at h
  cases known : n.firewalls.get? nodeId with
  | none =>
      rw [known] at h
      cases (Firewall.Plan.mem_toClose (f := .fresh nodeId).mp h).1.2
  | some f =>
      rw [known] at h
      rcases Firewall.Plan.mem_toClose.mp h with ⟨⟨_, managed⟩, undesired⟩
      exact ⟨⟨f, rfl, managed⟩, undesired⟩

theorem Plans.positive (plans : n.Plans nodeId type rules) (sound : n.Sound) :
    ∀ r ∈ rules, r.port ≠ 0 := by
  intro r named
  cases plans with
  | opening some_ =>
      have desired : r ∈ n.ports.desired nodeId :=
        (Port.RuleSet.mem_difference.mp named).1
      exact Tables.positive_of_mem_desired sound.ports desired
  | closing some_ =>
      rcases (mem_toClose named).1 with ⟨f, known, managed⟩
      exact sound.managed nodeId f known r managed

theorem Plans.decode (plans : n.Plans nodeId type rules) (sound : n.Sound) :
    Job.Work.decode type (State.firewallPayload nodeId (listText rules)) =
      if Text.trim nodeId = "" then .error (.missing type "node_id")
      else .ok (.firewall (Text.trim nodeId) rules) :=
  Job.Work.decode_firewallPayload plans.isFirewall plans.ne_nil (plans.positive sound)

end Network

theorem Job.Work.decode_diskScanPayload {instanceId : String} (nodeId : String)
    (trimmed : Text.trim instanceId = instanceId) (named : instanceId ≠ "") :
    ∃ work, decode State.diskScanType (State.diskScanPayload instanceId nodeId) = .ok work := by
  have found : (State.diskScanPayload instanceId nodeId).get? "instance_id" = some instanceId := by
    simp [State.diskScanPayload]
  refine ⟨.diskScan instanceId (nodeOption (State.diskScanPayload instanceId nodeId)), ?_⟩
  show (required _ _ _).map _ = _
  rw [required, optional_of_trimmed found trimmed named]
  rfl

/-- What the plane makes of its own accord is for a half of a plan, or has a meaning. -/
theorem Network.Makes.plans_or_meant {n : Network} {type : String} {payload : Payload}
    (makes : n.Makes type payload) :
    (∃ nodeId rules, n.Plans nodeId type rules ∧
      payload = State.firewallPayload nodeId (listText rules)) ∨
    ∃ work, Job.Work.decode type payload = .ok work := by
  cases makes with
  | firewall plans => exact Or.inl ⟨_, _, plans, rfl⟩
  | scan nodeId trimmed named =>
      exact Or.inr (Job.Work.decode_diskScanPayload nodeId trimmed named)

theorem Network.Makes.closes {n : Network} {type : String} {payload : Payload}
    (makes : n.Makes type payload) (closing : type = State.closePortsType) :
    ∃ nodeId, (n.plan nodeId).toClose ≠ [] ∧
      payload = State.firewallPayload nodeId (listText (n.plan nodeId).toClose) := by
  cases makes with
  | firewall plans =>
      cases plans with
      | opening some_ => exact absurd closing (by decide)
      | closing some_ => exact ⟨_, some_, rfl⟩
  | scan nodeId trimmed named => exact absurd closing (by decide)

namespace State

def Adds (made : String → Payload → Prop) (s s' : State) : Prop :=
  ∀ id job, s'.jobs.get? id = some job →
    (∃ before, s.jobs.get? id = some before ∧ before.SameOrigin job) ∨
      made job.type job.payload

variable {made : String → Payload → Prop} {s m s' : State} {fresh : Fresh} {now : Instant}

theorem adds_of_jobs (same : s'.jobs = s.jobs) : Adds made s s' := by
  intro id job found
  rw [same] at found
  exact Or.inl ⟨job, found, .refl job⟩

theorem Adds.trans (first : Adds made s m) (second : Adds made m s') : Adds made s s' := by
  intro id job found
  rcases second id job found with ⟨between, there, origin⟩ | new
  · rcases first id between there with ⟨before, was, origin'⟩ | new
    · exact Or.inl ⟨before, was, origin'.trans origin⟩
    · rw [← origin.2.1, ← origin.2.2.1]
      exact Or.inr new
  · exact Or.inr new

theorem Adds.imp {made' : String → Payload → Prop} (adds : Adds made s s')
    (weaken : ∀ {type payload}, made type payload → made' type payload) : Adds made' s s' :=
  fun id job found => (adds id job found).imp_right weaken

theorem adds_of_revises {allowed : String → Job → Job → Prop}
    (revises : ∀ id, Revises (allowed id) id s s') : Adds made s s' := by
  intro id job found
  rcases revises id with kept | ⟨before, after, was, turned, origin, _⟩
  · exact Or.inl ⟨job, (congrArg Dossier.job kept).symm.trans found, .refl job⟩
  · cases Option.some.inj (found.symm.trans turned)
    exact Or.inl ⟨before, was, origin⟩

theorem adds_of_turns {id : String} {before after : Job} (turns : Turns id s s' before after)
    (origin : before.SameOrigin after) : Adds made s s' := by
  have revises : ∀ i, Revises (fun _ _ => True) i s s' := turns.revises origin trivial
  exact adds_of_revises revises

theorem adds_insertJob (s : State) (fresh : Fresh) {type : String} {payload : Payload}
    (new : made type payload) (createdBy : Option String) (now : Instant) :
    Adds made s (s.insertJob fresh type payload createdBy now).2 := by
  intro id job found
  simp only [insertJob, Table.get?_insert] at found
  split at found
  · cases found
    exact Or.inr new
  · exact Or.inl ⟨job, found, .refl job⟩

/-!
# Queued and running jobs
-/

theorem adds_expireStale (s : State) (now : Instant) : Adds made s (s.expireStale now).2 :=
  adds_of_revises (s.revises_reclaimAll now (s.lapsedIds now))

theorem adds_pollForWork {agentId : String} {limit : Nat} {policy : DispatchPolicy}
    {observers : List Observer} {outcome : PollOutcome}
    (h : s.pollForWork fresh agentId limit policy observers now = .ok (outcome, s')) :
    Adds made s s' := by
  unfold pollForWork at h
  split at h
  · cases h
  · split at h
    · cases h
    · cases h
      exact (s.adds_expireStale now).trans (adds_of_revises (revises_leaseCandidates _ _ _))

theorem adds_submitLogs {agentId jobId : String} {report : LogReport} {policy : ReportPolicy}
    {expires : Instant} (h : s.submitLogs agentId jobId report policy now = .ok (expires, s')) :
    Adds made s s' := by
  rcases turns_submitLogs h with ⟨before, _, _, turns⟩
  exact adds_of_turns turns (.refl before)

theorem adds_cancelJob {jobId : String} {job : Job} (h : s.cancelJob jobId now = .ok (job, s')) :
    Adds made s s' := by
  rcases turns_cancelJob h with ⟨before, _, turns⟩
  exact adds_of_turns turns (.refl before)

theorem adds_createJob {order : Job.Order} {job : Job}
    (new : ∀ {type work}, jobType? order.type = some type →
      Job.Work.decode type order.payload = .ok work → made type order.payload)
    (h : s.createJob fresh order now = .ok (job, s')) : Adds made s s' := by
  unfold createJob at h
  split at h
  · cases h
  · rename_i type known
    split at h
    · cases h
    · rename_i work meant
      cases h
      exact s.adds_insertJob fresh (new known meant) order.createdBy now

/-!
# Plans
-/

theorem adds_requestFirewallJob (s : State) (fresh : Fresh) (nodeId : String) {type : String}
    {rules : List Rule}
    (new : rules ≠ [] → made type (firewallPayload nodeId (listText rules))) (now : Instant) :
    Adds made s (s.requestFirewallJob fresh type nodeId rules now).2 := by
  unfold requestFirewallJob
  split
  · exact adds_of_jobs rfl
  · rename_i some_
    dsimp only
    split
    · exact adds_of_jobs rfl
    · exact s.adds_insertJob fresh (new (by simpa using some_)) _ now

section Plans

variable (new : ∀ {nodeId type : String} {rules : List Rule}, s.network.Plans nodeId type rules →
  made type (firewallPayload nodeId (listText rules)))
include new

theorem adds_reconcileFirewall (fresh : Fresh) (nodeId : String) (now : Instant) :
    Adds made s (s.reconcileFirewall fresh nodeId now).2 := by
  have opening := s.adds_requestFirewallJob fresh nodeId
    (fun some_ => new (.opening (n := s.network) some_)) now
  have closing := adds_requestFirewallJob
    (s.requestFirewallJob fresh openPortsType nodeId (s.firewallPlan nodeId).toOpen now).2
    fresh nodeId (fun some_ => new (.closing (n := s.network) some_)) now
  exact opening.trans closing

theorem adds_reconcileFirewalls (fresh : Fresh) (now : Instant) (nodes : List String) :
    Adds made s (s.reconcileFirewalls fresh now nodes).2 := by
  induction nodes generalizing s with
  | nil => exact adds_of_jobs rfl
  | cons first rest ih =>
      refine (adds_reconcileFirewall new fresh first now).trans ?_
      refine ih (s := (s.reconcileFirewall fresh first now).2) ?_
      intro nodeId type rules plans
      rw [network_reconcileFirewall] at plans
      exact new plans

end Plans

/-- What is planned for in a step: the ports as they are after it, and the firewalls as they
were before. -/
def planned (s s' : State) : Network :=
  { ports := s'.ports, firewalls := s.firewalls }

theorem planned_of_network (same : m.network = s.network) (s' : State) :
    m.planned s' = s.planned s' := by
  rw [planned, planned, show m.firewalls = s.firewalls from congrArg Network.firewalls same]

/-- First the ports change, and then jobs are made for them. -/
theorem Adds.planned {ports : Tables} (adds : Adds (Network.mk ports s.firewalls).Makes s s')
    (same : s'.network = { s.network with ports := ports }) : Adds (s.planned s').Makes s s' := by
  have after : s'.ports = ports := congrArg Network.ports same
  rw [State.planned, after]
  exact adds

theorem adds_changePorts (s : State) (fresh : Fresh) (now : Instant) (ports : Tables)
    (nodes : List String) :
    Adds (s.planned ({ s with ports := ports }.reconcileFirewalls fresh now nodes).2).Makes s
      ({ s with ports := ports }.reconcileFirewalls fresh now nodes).2 := by
  have adds : Adds (Network.mk ports s.firewalls).Makes s
      ({ s with ports := ports }.reconcileFirewalls fresh now nodes).2 :=
    adds_reconcileFirewalls (s := { s with ports := ports }) (fun plans => .firewall plans)
      fresh now nodes
  exact Adds.planned adds
    (network_reconcileFirewalls { s with ports := ports } fresh now nodes)

/-!
# Events
-/

theorem adds_requestDiskScan {instanceId : String} {nodeId : Option String}
    {followUp : FollowUp} {n : Network} (trimmed : Text.trim instanceId = instanceId)
    (named : instanceId ≠ "")
    (h : s.requestDiskScan fresh instanceId nodeId now = .ok (followUp, s')) :
    Adds n.Makes s s' := by
  rcases requestDiskScan_eq_ok h with ⟨_, rfl⟩ | ⟨_, _, target, _, rfl⟩
  · exact adds_of_jobs rfl
  · exact s.adds_insertJob fresh (.scan target trimmed named) _ now

theorem network_of_plain {thresholds : Inventory.DiskThresholds} {event : Effect.Event}
    {followUp : FollowUp} (plain : event.isPlain = true)
    (h : s.applyEvent fresh thresholds now event = .ok (followUp, s')) :
    s'.network = s.network := by
  have same := congrArg network (besides_applyEvent h)
  cases event with
  | firewallApplied _ _ _ | portsReleased _ | diskScanRequested _ _ => cases plain
  | _ => exact same

theorem adds_applyEvents {events : List Effect.Event} (order : Effect.InOrder events)
    (s : State) (fresh : Fresh) (thresholds : Inventory.DiskThresholds) (now : Instant) :
    Adds (s.planned (s.applyEvents fresh thresholds now events).2.2).Makes s
      (s.applyEvents fresh thresholds now events).2.2 := by
  induction order generalizing s with
  | nil => exact adds_of_jobs rfl
  | firewall nodeId opened closed => exact adds_of_jobs rfl
  | release instanceId => exact s.adds_changePorts fresh now _ _
  | scan trimmed named _ ih =>
      unfold applyEvents
      split
      · rename_i followUp s1 applied
        have others := ih s1
        have same := congrArg network (besides_applyEvent applied)
        have kept : s1.network = s.network := same
        rw [planned_of_network kept] at others
        exact (adds_requestDiskScan trimmed named applied).trans others
      · exact ih s
  | plain plain _ ih =>
      unfold applyEvents
      split
      · rename_i followUp s1 applied
        have jobs : s1.jobs = s.jobs := congrArg JobStore.jobs (jobStore_of_plain plain applied)
        have others := ih s1
        rw [planned_of_network (network_of_plain plain applied)] at others
        exact (adds_of_jobs jobs).trans others
      · exact ih s

theorem adds_submitResult {agentId jobId : String} {report : ResultReport}
    {policy : ReportPolicy} {reported : Reported} (standard : policy.registry = .standard)
    (h : s.submitResult fresh agentId jobId report policy now = .ok (reported, s')) :
    Adds (s.planned s').Makes s s' := by
  rcases submitResult_eq_ok h with ⟨token, _, finished, result, m, lease, _, finish, rfl⟩
  rcases leaseToken_eq_ok lease with ⟨job, found, _⟩
  rcases turns_finishJob found finish with ⟨origin, _, turns⟩
  have events := adds_applyEvents (inOrder_eventsOf finished result) m fresh policy.thresholds now
  rw [planned_of_network (network_finishJob finish), ← standard] at events
  exact (adds_of_turns turns origin).trans events

end State
end FleetControl
