import FleetControl.Proofs.JobStore.Running
import FleetControl.Proofs.Plane.Jobs
import FleetControl.Proofs.Plane.Roster
import FleetControl.Proofs.Plane.Transactions

/-!
# Concurrency ceilings

Every agent has a number of jobs that it runs at most, and of these only so many may be
updates.  From a plane on which no job runs, no run leads beyond these ceilings: a poll fills
the slots that its own sweep has left free, and no other operation starts a job.
-/

namespace FleetControl

open Refusal
open Time

namespace State

/-- No agent runs more jobs than it may, and none more updates than the limit allows. -/
structure WithinCeilings (updateLimit : Nat) (s : State) : Prop where
  jobs : ∀ id agent, s.agents.get? id = some agent →
    (s.runningFor id).length ≤ agent.jobConcurrency.toNat
  updates : ∀ id, s.runningUpdatesFor id ≤ updateLimit
  /-- An agent that is not on record runs nothing. -/
  others : ∀ id, s.agents.get? id = none → s.runningFor id = []

variable {s s' : State} {fresh : Fresh} {now : Instant} {updateLimit : Nat}

theorem runningFor_of_idle
    (idle : ∀ id job, s.jobs.get? id = some job → job.status ≠ .running) (id : String) :
    s.runningFor id = [] := by
  apply List.filter_eq_nil_iff.mpr
  intro job member
  rcases Table.mem_values_iff.mp member with ⟨key, found⟩
  rw [not_runsOn_of_status (idle key job found)]
  exact Bool.false_ne_true

theorem withinCeilings_of_idle
    (idle : ∀ id job, s.jobs.get? id = some job → job.status ≠ .running) :
    s.WithinCeilings updateLimit := by
  have none := runningFor_of_idle idle
  constructor
  · intro id agent _
    rw [none]
    exact Nat.zero_le _
  · intro id
    rw [runningUpdatesFor, none]
    exact Nat.zero_le _
  · intro id _
    exact none id

end State

/-!
# Agents keep their ceilings
-/

namespace RosterMove

variable {fresh : Fresh} {now : Instant} {operation : Operation} {a b : Roster}

theorem get?_eq_none (move : RosterMove fresh now operation a b) {id : String}
    (missing : b.agents.get? id = none) : a.agents.get? id = none := by
  cases move with
  | keep =>
      exact missing
  | register agent | beat found =>
      rw [Table.get?_insert] at missing
      split at missing
      · cases missing
      · exact missing

theorem jobConcurrency (move : RosterMove fresh now operation a b)
    (new : a.agents.get? fresh.agent = none) {id : String} {agent : Agent}
    (found : b.agents.get? id = some agent) :
    a.agents.get? id = none ∨ ∃ before, a.agents.get? id = some before ∧
      before.jobConcurrency = agent.jobConcurrency := by
  cases move with
  | keep =>
      exact Or.inr ⟨agent, found, rfl⟩
  | register registered =>
      rw [Table.get?_insert] at found
      split at found
      · rename_i here
        rw [here]
        exact Or.inl new
      · exact Or.inr ⟨agent, found, rfl⟩
  | @beat agentId beat ip roster before status known =>
      rw [Table.get?_insert] at found
      split at found
      · rename_i here
        cases found
        rw [here]
        exact Or.inr ⟨before, known, rfl⟩
      · exact Or.inr ⟨agent, found, rfl⟩

end RosterMove

namespace State.WithinCeilings

variable {s s' : State} {fresh : Fresh} {now : Instant} {operation : Operation}
  {updateLimit : Nat}

theorem of_startsNone (within : s.WithinCeilings updateLimit)
    (move : RosterMove fresh now operation s.roster s'.roster)
    (new : fresh.NamesNewAgent s) (calm : ∀ id, s.StartsNone id s') :
    s'.WithinCeilings updateLimit := by
  constructor
  · intro id agent found
    have fewer := (calm id).runningFor_le
    rcases move.jobConcurrency new found with missing | ⟨before, known, same⟩
    · rw [within.others id missing] at fewer
      exact Nat.le_trans fewer (Nat.zero_le _)
    · rw [← same]
      exact Nat.le_trans fewer (within.jobs id before known)
  · intro id
    exact Nat.le_trans (calm id).runningUpdatesFor_le (within.updates id)
  · intro id missing
    have fewer := (calm id).runningFor_le
    rw [within.others id (move.get?_eq_none missing)] at fewer
    exact List.eq_nil_of_length_eq_zero (Nat.le_zero.mp fewer)

/-- What a poll hands out fits into the slots that are free after its sweep. -/
theorem length_leased_le {agentId : String} {limit : Nat} {policy : DispatchPolicy}
    {observers : List Observer} {outcome : PollOutcome}
    (within : s.WithinCeilings updateLimit)
    (h : s.pollForWork fresh agentId limit policy observers now = .ok (outcome, s')) :
    ∃ agent, s.agents.get? agentId = some agent ∧ outcome.leased.length ≤ limit ∧
      outcome.leased.length + ((s.expireStale now).2.runningFor agentId).length ≤
        agent.jobConcurrency.toNat := by
  rcases pollForWork_dispatches h with ⟨agent, found, dispatches, _⟩
  have swept := (s.startsNone_expireStale now agentId).runningFor_le
  have before := within.jobs agentId agent found
  have slots := dispatches.length_le_slots
  have candidates := dispatches.length_le_candidates
  rw [List.length_take] at candidates
  refine ⟨agent, found, by omega, by omega⟩

theorem of_pollForWork {agentId : String} {limit : Nat} {policy : DispatchPolicy}
    {observers : List Observer} {outcome : PollOutcome}
    (within : s.WithinCeilings policy.updateJobLimit)
    (h : s.pollForWork fresh agentId limit policy observers now = .ok (outcome, s')) :
    s'.WithinCeilings policy.updateJobLimit := by
  have agents : s'.agents = s.agents := agents_of_surroundings (surroundings_pollForWork h)
  rcases within.length_leased_le h with ⟨agent, found, _, fits⟩
  rcases pollForWork_dispatches h with ⟨_, _, dispatches, others⟩
  have swept := s.startsNone_expireStale now agentId
  have jobs := dispatches.runningFor_le agentId
  have updates : s'.runningUpdatesFor agentId ≤ policy.updateJobLimit :=
    dispatches.runningUpdatesFor_le (Nat.le_refl _)
      (Nat.le_trans swept.runningUpdatesFor_le (within.updates agentId))
  constructor
  · intro id row known
    rw [agents] at known
    by_cases here : id = agentId
    · subst here
      cases found.symm.trans known
      omega
    · exact Nat.le_trans (others id here).runningFor_le (within.jobs id row known)
  · intro id
    by_cases here : id = agentId
    · rw [here]
      exact updates
    · exact Nat.le_trans (others id here).runningUpdatesFor_le (within.updates id)
  · intro id missing
    rw [agents] at missing
    have here : id ≠ agentId := by
      intro here
      rw [here, found] at missing
      cases missing
    have fewer := (others id here).runningFor_le
    rw [within.others id missing] at fewer
    exact List.eq_nil_of_length_eq_zero (Nat.le_zero.mp fewer)

end State.WithinCeilings

/-!
# Runs
-/

namespace Plane

variable {p : Plane} {fresh : Fresh} {now : Instant} {operation : Operation}

/-- Apart from polls, no operation starts a job. -/
theorem Commits.startsNone {change : Change} {s : State}
    (commits : p.Commits fresh now operation change s)
    (other : ∀ agentId limit, operation ≠ .poll agentId limit) (id : String) :
    p.state.StartsNone id s := by
  cases commits with
  | register registered =>
      rw [State.registerAgent_eq_ok registered]
      exact .refl id _
  | heartbeat taken =>
      exact State.startsNone_of_jobStore (State.jobStore_of_takeHeartbeat taken)
  | poll polled =>
      exact absurd rfl (other _ _)
  | submitResult submitted =>
      exact State.startsNone_submitResult submitted
  | submitLogs submitted =>
      exact State.startsNone_submitLogs submitted
  | createJob created =>
      exact State.startsNone_of_creation (State.created_createJob created).steps
  | cancelJob cancelled =>
      exact State.startsNone_cancelJob cancelled
  | expireStale =>
      exact p.state.startsNone_expireStale now id
  | ports about ports nodes =>
      exact State.startsNone_of_creation
        (State.created_reconcileFirewalls { p.state with ports := ports } fresh now nodes).steps
  | reconcileFirewall nodeId =>
      exact State.startsNone_of_creation (p.state.created_reconcileFirewall fresh nodeId now).steps

theorem Commits.withinCeilings {change : Change} {s : State}
    (commits : p.Commits fresh now operation change s)
    (within : p.state.WithinCeilings p.config.updateJobLimit)
    (new : fresh.NamesNewAgent p.state) : s.WithinCeilings p.config.updateJobLimit := by
  cases hoperation : operation with
  | poll agentId limit =>
      subst hoperation
      cases commits with
      | poll polled => exact within.of_pollForWork polled
      | ports about ports nodes => cases about
  | _ =>
      refine within.of_startsNone commits.roster new (commits.startsNone ?_)
      intro agentId limit same
      rw [hoperation] at same
      cases same

theorem withinCeilings_apply {updateLimit : Nat} {store : Store} {change : Change} {s : State}
    (within : s.WithinCeilings updateLimit) :
    (store.apply change s).state.WithinCeilings updateLimit := by
  rcases store.state_apply change s with ⟨revision, same⟩
  rw [same]
  exact ⟨within.jobs, within.updates, within.others⟩

theorem withinCeilings_next {step : Step}
    (within : p.state.WithinCeilings p.config.updateJobLimit)
    (new : step.fresh.NamesNewAgent p.state) :
    (p.next step).state.WithinCeilings p.config.updateJobLimit := by
  refine (ends_run { p with observers := step.observers } step.fresh step.now
    step.operation).state_ind (P := State.WithinCeilings p.config.updateJobLimit) within ?_
  intro change s commits
  exact withinCeilings_apply (commits.withinCeilings within new)

theorem withinCeilings_of_next {steps : List Step}
    (within : p.state.WithinCeilings p.config.updateJobLimit)
    (names : p.NamesNewAgents steps) :
    (p.after steps).state.WithinCeilings p.config.updateJobLimit := by
  induction steps generalizing p with
  | nil =>
      exact within
  | cons step rest ih =>
      rcases names with ⟨new, names⟩
      have next := withinCeilings_next within new
      rw [← p.config_next step] at next ⊢
      exact ih next names

theorem eq_ok_of_answer {α : Type} {result : Except Error (α × Change × State)}
    {tell : α → Notices} {a : α} (h : (p.transact result tell).answer = .ok a) :
    ∃ change s, result = .ok (a, change, s) := by
  cases result with
  | error e =>
      cases h
  | ok success =>
      rcases success with ⟨b, change, s⟩
      cases h
      exact ⟨change, s, rfl⟩

theorem pollForWork_of_answer {step : Step} {agentId : String} {limit : Option Nat}
    {reply : PollReply} (operation : step.operation = .poll agentId limit)
    (answer : (p.perform step).answer = .ok (.work reply)) :
    ∃ outcome s, p.state.pollForWork step.fresh agentId (p.config.clampPollLimit limit)
        p.config.dispatchPolicy step.observers step.now = .ok (outcome, s) ∧
      reply.jobs = outcome.leased.map Envelope.ofJob := by
  rw [perform, operation] at answer
  rcases map_eq_ok.mp answer with ⟨given, polled, same⟩
  cases same
  rcases map_eq_ok.mp polled with ⟨outcome, transacted, same⟩
  cases same
  rcases eq_ok_of_answer transacted with ⟨change, s, mapped⟩
  rcases map_eq_ok.mp mapped with ⟨⟨outcome, s⟩, result, same⟩
  cases same
  exact ⟨outcome, s, result, rfl⟩

/-- From a plane on which no job runs, no run leads beyond the ceilings, and every poll on the
way hands out no more jobs than its limit allows and than its sweep leaves room for. -/
theorem withinCeilings_after {steps : List Step}
    (idle : ∀ id job, p.state.jobs.get? id = some job → job.status ≠ .running)
    (names : p.NamesNewAgents steps) :
    (p.after steps).state.WithinCeilings p.config.updateJobLimit ∧
      ∀ first step rest, steps = first ++ step :: rest →
        ∀ agentId limit reply, step.operation = .poll agentId limit →
          ((p.after first).perform step).answer = .ok (.work reply) →
          reply.jobs.length ≤ p.config.clampPollLimit limit ∧
            p.config.clampPollLimit limit ≤ 50 ∧
            ∃ agent, (p.after first).state.agents.get? agentId = some agent ∧
              reply.jobs.length +
                (((p.after first).state.expireStale step.now).2.runningFor agentId).length ≤
                agent.jobConcurrency.toNat := by
  have start : p.state.WithinCeilings p.config.updateJobLimit :=
    State.withinCeilings_of_idle idle
  refine ⟨withinCeilings_of_next start names, ?_⟩
  intro first step rest split agentId limit reply operation answer
  rw [split] at names
  have before := withinCeilings_of_next start (namesNewAgents_append.mp names).1
  rcases pollForWork_of_answer operation answer with ⟨outcome, s, polled, jobs⟩
  rcases before.length_leased_le polled with ⟨agent, found, limited, fits⟩
  rw [jobs, List.length_map, ← p.config_after first]
  refine ⟨limited, ?_, agent, found, fits⟩
  unfold Config.clampPollLimit
  omega

def throttledPlane : Plane :=
  idle { Config.standard "" with bootstrapToken := "token", updateJobLimit := 1 }

def throttledRun : List Step :=
  [{ fresh := .strokes 'a', now := .epoch, observers := []
     operation := .register ⟨"token", "node", [], .empty⟩ },
   { fresh := .strokes 'b', now := .epoch, observers := []
     operation := .createJob ⟨"node.reboot", .empty, none⟩ "operator" },
   { fresh := .strokes 'c', now := .epoch, observers := [], operation := .poll "a" none },
   { fresh := .strokes 'd', now := .epoch, observers := []
     operation := .createJob ⟨"agent.update", .empty, none⟩ "operator" },
   { fresh := .strokes 'e', now := .epoch, observers := [], operation := .poll "a" none },
   { fresh := .strokes 'f', now := .epoch, observers := []
     operation := .createJob ⟨"sniper.update", .empty, none⟩ "operator" }]

def throttledPoll : Step :=
  { fresh := .strokes 'g', now := .epoch, observers := [], operation := .poll "a" none }

/-- Two slots are free, but one update runs already. -/
theorem withinCeilings_after_throttling :
    (∀ id job, throttledPlane.state.jobs.get? id = some job → job.status ≠ .running) ∧
      throttledPlane.NamesNewAgents (throttledRun ++ [throttledPoll]) ∧
      ((throttledPlane.after (throttledRun ++ [throttledPoll])).state.runningFor "a").map
        Job.type = ["node.reboot", "agent.update"] ∧
      ((throttledPlane.after throttledRun).perform throttledPoll).answer =
        .ok (.work { jobs := [], maxConcurrency := 4 }) ∧
      (throttledPlane.after (throttledRun ++ [throttledPoll])).state.WithinCeilings 1 ∧
      ∃ agent, (throttledPlane.after throttledRun).state.agents.get? "a" = some agent ∧
        (((throttledPlane.after throttledRun).state.expireStale throttledPoll.now).2.runningFor
          "a").length ≤ agent.jobConcurrency.toNat := by
  have idle : ∀ id job, throttledPlane.state.jobs.get? id = some job →
      job.status ≠ .running := by
    intro id job found
    cases found
  have names : throttledPlane.NamesNewAgents (throttledRun ++ [throttledPoll]) := by
    refine ⟨?_, ?_, ?_, ?_, ?_, ?_, ?_, trivial⟩ <;>
      exact Option.isNone_iff_eq_none.mp (by decide +kernel)
  have answer : ((throttledPlane.after throttledRun).perform throttledPoll).answer =
      .ok (.work { jobs := [], maxConcurrency := 4 }) := by
    with_unfolding_all rfl
  rcases withinCeilings_after idle names with ⟨within, polls⟩
  rcases polls throttledRun throttledPoll [] rfl "a" none _ rfl answer with
    ⟨_, _, agent, found, fits⟩
  exact ⟨idle, names, by decide +kernel, answer, within, agent, found, by simpa using fits⟩

end Plane
end FleetControl
