import FleetControl.Proofs.JobStore.Rows
import FleetControl.Proofs.Plane.Jobs
import FleetControl.Proofs.Plane.Roster

/-!
# What an agent may change

An agent asks for what is its own: it keeps its row up to date, it takes queued jobs, and it
reports on jobs that it holds.  Beyond that, only the sweep that comes with a poll and the
events that follow from the result of a job change anything.
-/

namespace FleetControl

open Refusal
open Time

inductive Caller where
  | newcomer
  | agent (agentId : String)
  | operator

def Operation.caller : Operation → Caller
  | .register _ => .newcomer
  | .heartbeat agentId _ _ => .agent agentId
  | .poll agentId _ => .agent agentId
  | .submitResult agentId _ _ => .agent agentId
  | .submitLogs agentId _ _ => .agent agentId
  | _ => .operator

theorem Operation.caller_of_isOnPorts {operation : Operation}
    (about : operation.isOnPorts = true) : operation.caller = .operator := by
  cases operation <;> first | rfl | cases about

theorem RosterMove.row {fresh : Fresh} {now : Instant} {operation : Operation} {a b : Roster}
    (move : RosterMove fresh now operation a b) (id : String) :
    b.agents.get? id = a.agents.get? id ∨
      (operation.caller = .newcomer ∧ id = fresh.agent) ∨ operation.caller = .agent id := by
  cases move with
  | keep =>
      exact Or.inl rfl
  | register agent =>
      by_cases here : id = fresh.agent
      · exact Or.inr (Or.inl ⟨rfl, here⟩)
      · exact Or.inl (by rw [Table.get?_insert, if_neg here])
  | @beat agentId =>
      by_cases here : id = agentId
      · exact Or.inr (Or.inr (by rw [here]; rfl))
      · exact Or.inl (by rw [Table.get?_insert, if_neg here])

/-- How a request of an agent may change the row of a job. -/
inductive Job.MayBecome (agentId : String) (now : Instant) (before after : Job) : Prop
  | held (holder : before.lockedBy = some agentId)
  | leased (queued : before.status = .queued) (holder : after.lockedBy = some agentId)
  | lapsed {expires : Instant} (running : before.status = .running)
      (lease : before.lockExpiresAt = some expires) (due : expires ≤ now)
      (failed : after.status = .failed)

/-- The job runs under a lease of another agent, and the lease is not over. -/
structure Job.IsHeldFrom (agentId : String) (now : Instant) (job : Job) : Prop where
  running : job.status = .running
  holder : ∃ other, other ≠ agentId ∧ job.lockedBy = some other
  lease : ∃ expires, job.lockExpiresAt = some expires ∧ now < expires

theorem Job.IsHeldFrom.not_mayBecome {agentId : String} {now : Instant} {job after : Job}
    (held : job.IsHeldFrom agentId now) : ¬ job.MayBecome agentId now after := by
  rcases held with ⟨running, ⟨other, apart, holder⟩, ⟨expires, lease, live⟩⟩
  intro change
  cases change with
  | held own =>
      exact apart (Option.some.inj (holder.symm.trans own))
  | leased queued _ =>
      rw [running] at queued
      cases queued
  | lapsed _ lease' due _ =>
      cases Option.some.inj (lease.symm.trans lease')
      exact absurd live (Instant.not_lt.mpr due)

namespace State

variable {s s' : State} {fresh : Fresh} {now : Instant} {agentId : String}

def beyond (s : State) (agentId : String) : State :=
  { s.surroundings with
    agents := s.agents.erase agentId
    firewalls := s.firewalls.erase agentId
    revision := 0 }

theorem beyond_of_surroundings (h : s'.surroundings = s.surroundings) :
    s'.beyond agentId = s.beyond agentId := by
  have same := congrArg (fun t : State => t.beyond agentId) h
  exact same

/-- The agent held a job and has finished it; from there the state came about by the events
that follow from the result of the job. -/
structure FollowsFrom (fresh : Fresh) (policy : ReportPolicy) (now : Instant)
    (agentId : String) (s s' : State) (jobId : String) (job finished : Job)
    (result : Job.Result) (m : State) : Prop where
  running : job.status = .running
  holder : job.lockedBy = some agentId
  origin : job.SameOrigin finished
  turns : Turns jobId s m job finished
  surroundings : m.surroundings = s.surroundings
  applied : s' = { (m.applyEvents fresh policy.thresholds now
    (eventsOf policy.registry finished result)).2.2 with revision := s'.revision }

/-- No more has changed than a request of the agent may change. -/
structure Confined (fresh : Fresh) (policy : ReportPolicy) (now : Instant)
    (agentId : String) (s s' : State) : Prop where
  agents : ∀ id, id ≠ agentId → s'.agents.get? id = s.agents.get? id
  beyond : s'.beyond agentId = s.beyond agentId ∨
    ∃ jobId job finished result m,
      s.FollowsFrom fresh policy now agentId s' jobId job finished result m
  jobs : s.jobStore.Named → ∀ id, (∀ n, id ≠ fresh.job n) →
    Revises (Job.MayBecome agentId now) id s s'

theorem Confined.committed {policy : ReportPolicy}
    (h : s.Confined fresh policy now agentId s') (revision : UInt64) :
    s.Confined fresh policy now agentId { s' with revision := revision } := by
  refine ⟨h.agents, ?_, h.jobs⟩
  rcases h.beyond with same | ⟨jobId, job, finished, result, m, follows⟩
  · exact Or.inl same
  · refine Or.inr ⟨jobId, job, finished, result, m, follows.running, follows.holder,
      follows.origin, follows.turns, follows.surroundings, ?_⟩
    rw [follows.applied]

theorem Confined.lease {policy : ReportPolicy} (h : s.Confined fresh policy now agentId s')
    (named : s.jobStore.Named) {id : String} (old : ∀ n, id ≠ fresh.job n) {job : Job}
    (found : s.jobs.get? id = some job) (held : job.IsHeldFrom agentId now) :
    s'.dossier id = s.dossier id := by
  rcases h.jobs named id old with kept | ⟨before, after, found', _, _, change⟩
  · exact kept
  · cases Option.some.inj (found.symm.trans found')
    exact absurd change held.not_mayBecome

theorem confined_of_surroundings {policy : ReportPolicy}
    (same : s'.surroundings = s.surroundings)
    (jobs : s.jobStore.Named → ∀ id, Revises (Job.MayBecome agentId now) id s s') :
    s.Confined fresh policy now agentId s' where
  agents id _ := congrArg (Table.get? · id) (agents_of_surroundings same)
  beyond := Or.inl (beyond_of_surroundings same)
  jobs named id _ := jobs named id

/-!
# Signs of life, and polls
-/

theorem confined_takeHeartbeat {policy : ReportPolicy} {beat : Heartbeat} {ip : Option String}
    {windowsEnabled durable : Bool}
    (h : s.takeHeartbeat agentId beat ip windowsEnabled now = .ok (durable, s')) :
    s.Confined fresh policy now agentId s' := by
  rcases takeHeartbeat_eq_ok h with ⟨agent, status, openPorts, _, _, _, _, _, rfl⟩
  refine ⟨?_, Or.inl ?_, fun _ _ _ => Or.inl rfl⟩
  · intro id apart
    rw [Table.get?_insert, if_neg apart]
  · cases openPorts with
    | none =>
        simp only [beyond, surroundings, Table.erase_insert]
    | some ports =>
        simp only [beyond, surroundings, Table.erase_insert]

theorem revises_expireStale (named : s.jobStore.Named) (id : String) :
    Revises (fun before after => before.hasLapsed now = true ∧ after.status = .failed) id s
      (s.expireStale now).2 := by
  apply (s.revises_reclaimAll now (s.lapsedIds now) id).imp
  intro before after found change
  rcases mem_lapsedIds named change.1 with ⟨job, found', lapsed⟩
  cases Option.some.inj (found.symm.trans found')
  exact ⟨lapsed, change.2⟩

theorem revises_pollForWork {limit : Nat} {policy : DispatchPolicy} {observers : List Observer}
    {outcome : PollOutcome}
    (h : s.pollForWork fresh agentId limit policy observers now = .ok (outcome, s'))
    (named : s.jobStore.Named) (id : String) : Revises (Job.MayBecome agentId now) id s s' := by
  unfold pollForWork at h
  split at h
  · cases h
  · split at h
    · cases h
    · cases h
      apply (revises_expireStale named id).trans (revises_leaseCandidates _ _ _ id)
      · intro before after change
        rcases hasLapsed_iff.mp change.1 with ⟨running, expires, lease, due⟩
        exact .lapsed running lease due change.2
      · intro before after change
        exact .leased change.1 change.2.2
      · -- what has failed is no longer queued
        intro before between after change change'
        rw [change.2] at change'
        cases change'.1

theorem confined_pollForWork {policy : ReportPolicy} {limit : Nat} {dispatch : DispatchPolicy}
    {observers : List Observer} {outcome : PollOutcome}
    (h : s.pollForWork fresh agentId limit dispatch observers now = .ok (outcome, s')) :
    s.Confined fresh policy now agentId s' :=
  confined_of_surroundings (surroundings_pollForWork h) (revises_pollForWork h)

/-!
# Reports
-/

theorem confined_submitLogs {policy : ReportPolicy} {jobId : String} {report : LogReport}
    {expires : Instant} (h : s.submitLogs agentId jobId report policy now = .ok (expires, s')) :
    s.Confined fresh policy now agentId s' := by
  apply confined_of_surroundings (surroundings_submitLogs h)
  intro _ id
  rcases turns_submitLogs h with ⟨before, _, holder, turns⟩
  exact turns.revises (.refl before) (.held holder) id

/-- A result ends one job of the agent, and its events create jobs at most. -/
theorem confined_submitResult {policy : ReportPolicy} {jobId : String} {report : ResultReport}
    {reported : Reported}
    (h : s.submitResult fresh agentId jobId report policy now = .ok (reported, s')) :
    s.Confined fresh policy now agentId s' := by
  have agents := congrArg Roster.agents (roster_submitResult h)
  rcases submitResult_eq_ok h with ⟨token, status, finished, result, m, lease, _, finish, rfl⟩
  rcases leaseToken_eq_ok lease with ⟨job, found, running, holder, _⟩
  rcases turns_finishJob found finish with ⟨origin, _, turns⟩
  refine ⟨fun id _ => congrArg (Table.get? · id) agents, Or.inr ⟨jobId, job, finished, result,
    m, running, holder, origin, turns, surroundings_finishJob finish, rfl⟩, ?_⟩
  intro _ id old
  have kept := (m.created_applyEvents fresh policy.thresholds now
    (eventsOf policy.registry finished result)).steps.dossier_of_not_named old
  exact (turns.revises origin (.held holder) id).kept kept

end State

namespace Plane

variable {p : Plane} {fresh : Fresh} {now : Instant} {operation : Operation}

theorem Commits.confined {agentId : String} {change : Change} {s : State}
    (commits : p.Commits fresh now operation change s) (own : operation.caller = .agent agentId) :
    p.state.Confined fresh p.reportPolicy now agentId s := by
  cases commits with
  | heartbeat taken =>
      cases own
      exact State.confined_takeHeartbeat taken
  | poll polled =>
      cases own
      exact State.confined_pollForWork polled
  | submitResult submitted =>
      cases own
      exact State.confined_submitResult submitted
  | submitLogs submitted =>
      cases own
      exact State.confined_submitLogs submitted
  | ports about ports nodes =>
      cases (Operation.caller_of_isOnPorts about).symm.trans own
  | register registered => cases own
  | createJob created => cases own
  | cancelJob cancelled => cases own
  | expireStale => cases own
  | reconcileFirewall nodeId => cases own

/-- Whatever an agent asks for, it stays within its bounds. -/
theorem Ends.confined {agentId : String} {q : Plane} (ends : p.Ends fresh now operation q)
    (own : operation.caller = .agent agentId) :
    p.state.Confined fresh p.reportPolicy now agentId q.state := by
  cases ends with
  | unchanged =>
      exact State.confined_of_surroundings rfl (fun _ _ => Or.inl rfl)
  | @committed change s commits =>
      rcases p.store.state_apply change s with ⟨revision, same⟩
      show p.state.Confined fresh p.reportPolicy now agentId (p.store.apply change s).state
      rw [same]
      exact (commits.confined own).committed revision

/-!
# Names of jobs

Every job stands under its own name, whatever is asked for.
-/

theorem Commits.named {change : Change} {s : State}
    (commits : p.Commits fresh now operation change s) (named : p.state.jobStore.Named) :
    s.jobStore.Named := by
  cases commits with
  | register registered =>
      rw [State.registerAgent_eq_ok registered]
      exact named
  | heartbeat taken =>
      rw [State.jobStore_of_takeHeartbeat taken]
      exact named
  | poll polled =>
      exact State.named_of_revises named (State.revises_pollForWork polled named)
  | submitResult submitted =>
      rcases State.submitResult_eq_ok submitted with
        ⟨_, _, finished, result, m, lease, _, finish, rfl⟩
      rcases State.leaseToken_eq_ok lease with ⟨job, found, _⟩
      rcases State.turns_finishJob found finish with ⟨origin, _, turns⟩
      apply (m.created_applyEvents fresh _ now _).steps.named
      exact turns.named origin named
  | submitLogs submitted =>
      rcases State.turns_submitLogs submitted with ⟨before, _, _, turns⟩
      exact turns.named (.refl before) named
  | createJob created => exact (State.created_createJob created).steps.named named
  | cancelJob cancelled =>
      rcases State.turns_cancelJob cancelled with ⟨before, _, turns⟩
      exact turns.named (.refl before) named
  | expireStale =>
      exact State.named_of_revises named (State.revises_expireStale named)
  | ports about ports nodes =>
      exact (State.created_reconcileFirewalls _ fresh now nodes).steps.named named
  | reconcileFirewall nodeId =>
      exact (p.state.created_reconcileFirewall fresh nodeId now).steps.named named

theorem Ends.named {q : Plane} (ends : p.Ends fresh now operation q)
    (named : p.state.jobStore.Named) : q.state.jobStore.Named := by
  refine ends.state_ind (P := fun s => s.jobStore.Named) named ?_
  intro change s commits
  rw [Store.jobStore_apply]
  exact commits.named named

/-!
# Rows of agents
-/

theorem Ends.agent_row {q : Plane} (ends : p.Ends fresh now operation q) (id : String) :
    q.state.agents.get? id = p.state.agents.get? id ∨
      (operation.caller = .newcomer ∧ id = fresh.agent) ∨ operation.caller = .agent id := by
  refine ends.state_ind (P := fun s => s.agents.get? id = p.state.agents.get? id ∨
    (operation.caller = .newcomer ∧ id = fresh.agent) ∨ operation.caller = .agent id)
    (Or.inl rfl) ?_
  intro change s commits
  rw [Store.agents_apply]
  exact commits.roster.row id

end Plane
end FleetControl
