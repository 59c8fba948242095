import FleetControl.Proofs.Firewall.Results
import FleetControl.Proofs.JobStore.Provenance

/-!
# Managed rules

A rule becomes managed when a job that opens it succeeds, and is no longer managed when a job
that closes it does.  What nodes report about open ports, and all jobs that do not succeed,
have no say in it.
-/

namespace FleetControl

open Firewall
open Refusal
open Time

namespace Firewall

/-- The last word on a rule is that of an act after which no other names the rule. -/
theorem split_of_lastWord {r : Port.Rule} {opens : Bool} {acts : List Act}
    (word : lastWord r acts = some opens) :
    ∃ before act after, acts = before ++ act :: after ∧ r ∈ act.rules ∧ act.opens = opens ∧
      ∀ later ∈ after, r ∉ later.rules := by
  induction acts with
  | nil => cases word
  | cons act rest ih =>
      rw [lastWord, Option.or_eq_some_iff] at word
      rcases word with later | ⟨silent, here⟩
      · rcases ih later with ⟨before, last, after, split, named⟩
        exact ⟨act :: before, last, after, congrArg (act :: ·) split, named⟩
      · split at here
        · rename_i named
          exact ⟨[], act, rest, rfl, named, Option.some.inj here,
            lastWord_eq_none_iff.mp silent⟩
        · cases here

end Firewall

namespace Job

theorem isFirewall_of_act? {job : Job} {nodeId : String} {act : Act}
    (h : job.act? nodeId = some act) : job.IsFirewall := by
  unfold act? at h
  split at h
  · rename_i node rules meant
    exact (Work.ofFirewall_of_decode meant).1
  · cases h

end Job

namespace State

/-- On every node, acts of its own have decided what is managed. -/
def ManagedBy (acts : String → List Act) (s s' : State) : Prop :=
  ∀ nodeId r, r ∈ (s'.firewall nodeId).managed ↔
    lastWord r (acts nodeId) = some true ∨
      (lastWord r (acts nodeId) = none ∧ r ∈ (s.firewall nodeId).managed)

variable {s m s' : State} {fresh : Fresh} {now : Instant}

theorem managedBy_nothing (same : ∀ nodeId, (s'.firewall nodeId).managed =
    (s.firewall nodeId).managed) : ManagedBy (fun _ => []) s s' := by
  intro nodeId r
  rw [same]
  simp [lastWord]

theorem managedBy_of_firewalls (same : s'.firewalls = s.firewalls) :
    ManagedBy (fun _ => []) s s' := by
  apply managedBy_nothing
  intro nodeId
  rw [firewall, firewall, same]

theorem ManagedBy.trans {first second : String → List Act} (h : ManagedBy first s m)
    (h' : ManagedBy second m s') :
    ManagedBy (fun nodeId => first nodeId ++ second nodeId) s s' := by
  intro nodeId r
  rw [h' nodeId r, h nodeId r, lastWord_append]
  cases lastWord r (second nodeId) <;> simp

theorem Enacts.managedBy {acts : String → List Act} (enacts : s.Enacts acts s') :
    ManagedBy acts s s' :=
  fun nodeId => (enacts.firewalls nodeId).managed

/-!
# Events
-/

theorem succeeded_of_mem_eventsOf {job : Job} {result : Job.Result} {nodeId : String}
    {opened closed : List Port.Rule}
    (h : .firewallApplied nodeId opened closed ∈ eventsOf .standard job result) :
    job.IsFirewall ∧ result.status = .succeeded := by
  rcases mem_eventsOf h with ⟨i, handler, decoded, _, status, routed, mem⟩
  rcases Effect.Registry.keepsToWork_standard.route routed i nodeId opened closed mem with
    ⟨rules, meant, _⟩
  rw [meant] at decoded
  have firewall : job.IsFirewall := (Job.Work.ofFirewall_of_decode decoded).1
  refine ⟨firewall, ?_⟩
  cases (Effect.Registry.route_of_firewall firewall).symm.trans routed
  simp only [Effect.Handler.firewallApplied, meant] at mem
  split at mem
  · rename_i succeeded
    rw [← status]
    exact of_decide_eq_true succeeded
  · cases mem

theorem firewalls_applyEvent {thresholds : Inventory.DiskThresholds} {event : Effect.Event}
    {followUp : FollowUp}
    (aside : ∀ nodeId opened closed, event ≠ .firewallApplied nodeId opened closed)
    (h : s.applyEvent fresh thresholds now event = .ok (followUp, s')) :
    s'.firewalls = s.firewalls := by
  have same := congrArg firewalls (besides_applyEvent h)
  cases event with
  | firewallApplied nodeId opened closed => exact absurd rfl (aside nodeId opened closed)
  | _ => exact same

theorem firewalls_applyEvents {events : List Effect.Event}
    (aside : ∀ nodeId opened closed, .firewallApplied nodeId opened closed ∉ events)
    (s : State) (fresh : Fresh) (thresholds : Inventory.DiskThresholds) (now : Instant) :
    (s.applyEvents fresh thresholds now events).2.2.firewalls = s.firewalls := by
  refine keep_applyEvents (fun m => m.firewalls = s.firewalls) ?_ rfl
  intro event mem m m' followUp same applied
  refine (firewalls_applyEvent ?_ applied).trans same
  rintro nodeId opened closed rfl
  exact aside nodeId opened closed mem

/-!
# Results
-/

theorem managedBy_of_success {agentId id : String} {job : Job} {report : ResultReport}
    {policy : ReportPolicy} {reported : Reported} (standard : policy.registry = .standard)
    (succeeded : Job.Status.reported? report.status = some .succeeded)
    (found : s.jobs.get? id = some job)
    (h : s.submitResult fresh agentId id report policy now = .ok (reported, s')) :
    ManagedBy (fun nodeId => (job.act? nodeId).toList) s s' := by
  rcases submitResult_eq_ok h with ⟨_, _, finished, result, m, _, known, finish, rfl⟩
  cases succeeded.symm.trans known
  rcases turns_finishJob found finish with ⟨origin, _, _⟩
  have taken : ManagedBy (fun _ => []) s m :=
    managedBy_of_firewalls (congrArg Network.firewalls (network_finishJob finish))
  have acts : ManagedBy (fun nodeId => (finished.act? nodeId).toList) m
      (m.applyEvents fresh policy.thresholds now (eventsOf .standard finished result)).2.2 := by
    by_cases firewall : finished.IsFirewall
    · exact (m.enacts_applyEvents fresh now firewall (status_of_finishJob finish) _).managedBy
    · have silent : (fun nodeId => (finished.act? nodeId).toList) = fun _ => [] := by
        funext nodeId
        cases act : finished.act? nodeId with
        | none => rfl
        | some _ => exact absurd (Job.isFirewall_of_act? act) firewall
      rw [silent]
      exact managedBy_of_firewalls (firewalls_applyEvents
        (fun _ _ _ h => firewall (succeeded_of_mem_eventsOf h).1) m fresh _ now)
  simp only [Job.act?_congr origin]
  rw [standard]
  exact taken.trans acts

theorem managedBy_of_other {agentId id : String} {report : ResultReport}
    {policy : ReportPolicy} {reported : Reported} (standard : policy.registry = .standard)
    (other : Job.Status.reported? report.status ≠ some .succeeded)
    (h : s.submitResult fresh agentId id report policy now = .ok (reported, s')) :
    ManagedBy (fun _ => []) s s' := by
  rcases submitResult_eq_ok h with ⟨_, status, finished, result, m, _, known, finish, rfl⟩
  have taken := congrArg Network.firewalls (network_finishJob finish)
  have aside : ∀ nodeId opened closed,
      .firewallApplied nodeId opened closed ∉ eventsOf .standard finished result := by
    intro nodeId opened closed h
    have succeeded := (succeeded_of_mem_eventsOf h).2
    rw [status_of_finishJob finish] at succeeded
    exact other (succeeded ▸ known)
  rw [standard]
  exact managedBy_of_firewalls ((firewalls_applyEvents aside m fresh _ now).trans taken)

/-!
# Signs of life
-/

/-- What a node reports about its open ports does not make any of them managed. -/
theorem managedBy_takeHeartbeat {agentId : String} {beat : Heartbeat} {ip : Option String}
    {windows durable : Bool}
    (h : s.takeHeartbeat agentId beat ip windows now = .ok (durable, s')) :
    ManagedBy (fun _ => []) s s' := by
  rcases takeHeartbeat_eq_ok h with ⟨agent, status, openPorts, _, _, _, _, _, rfl⟩
  cases openPorts with
  | none => exact managedBy_of_firewalls rfl
  | some ports =>
      apply managedBy_nothing
      intro nodeId
      simp only [firewall, Table.get?_insert]
      split
      · rename_i here
        subst here
        rfl
      · rfl

end State
end FleetControl
