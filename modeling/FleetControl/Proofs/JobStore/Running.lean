import FleetControl.Proofs.JobStore.Rows

/-!
# The jobs that agents run

How many jobs an agent runs, and how many of them are updates.  Only a dispatch makes either
number grow: it counts the free slots and the updates along while it leases one job after the
other.
-/

namespace FleetControl

open Refusal
open Time

namespace State

variable {s m s' : State} {id agentId : String} {now : Instant} {job : Job}

/-!
# No job starts
-/

/-- What the agent runs afterwards it ran before, as a job of the same type. -/
def StartsNone (agentId : String) (s s' : State) : Prop :=
  ∀ id job, s'.jobs.get? id = some job → job.runsOn agentId = true →
    ∃ before, s.jobs.get? id = some before ∧ before.runsOn agentId = true ∧
      before.type = job.type

theorem StartsNone.refl (agentId : String) (s : State) : s.StartsNone agentId s :=
  fun _ job found runs => ⟨job, found, runs, rfl⟩

theorem StartsNone.trans (h : s.StartsNone agentId m) (h' : m.StartsNone agentId s') :
    s.StartsNone agentId s' := by
  intro id job found runs
  rcases h' id job found runs with ⟨middle, found, runs, type⟩
  rcases h id middle found runs with ⟨before, found, runs, type'⟩
  exact ⟨before, found, runs, type'.trans type⟩

theorem startsNone_of_dossiers
    (h : ∀ id, s'.dossier id = s.dossier id ∨
      ∀ job, s'.jobs.get? id = some job → job.runsOn agentId = false) :
    s.StartsNone agentId s' := by
  intro id job found runs
  rcases h id with kept | stopped
  · exact ⟨job, (congrArg Dossier.job kept).symm.trans found, runs, rfl⟩
  · rw [stopped job found] at runs
    cases runs

theorem startsNone_of_jobStore (h : s'.jobStore = s.jobStore) : s.StartsNone agentId s' :=
  startsNone_of_dossiers fun id => Or.inl (congrArg (fun b => JobStore.dossier b id) h)

theorem startsNone_of_creation {fresh : Fresh}
    (steps : JobStore.Steps fresh .creation s.jobStore s'.jobStore) :
    s.StartsNone agentId s' := by
  apply startsNone_of_dossiers
  intro id
  rcases steps.dossier_of_creation id with kept | ⟨new, ⟨_, queued, _⟩, _, put⟩
  · exact Or.inl kept
  · refine Or.inr ?_
    intro job found
    have same : some new = some job := (congrArg Dossier.job put).symm.trans found
    cases same
    simp [Job.runsOn, queued]

theorem Turns.startsNone_of_stops {before after : Job} (turns : Turns id s s' before after)
    (stops : after.runsOn agentId = false) : s.StartsNone agentId s' := by
  apply startsNone_of_dossiers
  intro k
  by_cases here : k = id
  · subst here
    refine Or.inr ?_
    intro job found
    rw [turns.turned] at found
    cases found
    exact stops
  · exact Or.inl (turns.rewrites.others k here)

theorem not_runsOn_of_status (idle : job.status ≠ .running) : job.runsOn agentId = false := by
  simp [Job.runsOn, idle]

/-!
# Operations that start no job
-/

theorem startsNone_expireStale (s : State) (now : Instant) (agentId : String) :
    s.StartsNone agentId (s.expireStale now).2 := by
  apply startsNone_of_dossiers
  intro id
  rcases s.revises_reclaimAll now (s.lapsedIds now) id with
    kept | ⟨_, after, _, put, _, _, failed⟩
  · exact Or.inl kept
  · refine Or.inr ?_
    intro job found
    have same : some after = some job := put.symm.trans found
    cases same
    apply not_runsOn_of_status
    rw [failed]
    decide

theorem startsNone_cancelJob {withdrawn : Job}
    (h : s.cancelJob id now = .ok (withdrawn, s')) : s.StartsNone agentId s' := by
  rcases turns_cancelJob h with ⟨before, _, turns⟩
  apply turns.startsNone_of_stops
  apply not_runsOn_of_status
  exact Job.Status.noConfusion

theorem startsNone_submitResult {fresh : Fresh} {holder : String} {report : ResultReport}
    {policy : ReportPolicy} {reported : Reported}
    (h : s.submitResult fresh holder id report policy now = .ok (reported, s')) :
    s.StartsNone agentId s' := by
  rcases submitResult_eq_ok h with ⟨_, status, _, result, m, token, known, finished, rfl⟩
  rcases leaseToken_eq_ok token with ⟨job, found, _⟩
  rcases turns_finishJob found finished with ⟨_, ended, turns⟩
  have stopped : s.StartsNone agentId m := by
    apply turns.startsNone_of_stops
    apply not_runsOn_of_status
    intro running
    have terminal := Job.Status.isTerminal_of_reported? known
    rw [← ended, running] at terminal
    cases terminal
  exact stopped.trans (startsNone_of_creation (created_applyEvents _ _ _ _ _).steps)

theorem startsNone_submitLogs {holder : String} {report : LogReport} {policy : ReportPolicy}
    {expires : Instant} (h : s.submitLogs holder id report policy now = .ok (expires, s')) :
    s.StartsNone agentId s' := by
  rcases turns_submitLogs h with ⟨before, _, _, turns⟩
  intro k job found runs
  by_cases here : k = id
  · subst here
    rw [turns.turned] at found
    cases found
    exact ⟨before, turns.found, runs, rfl⟩
  · have kept := turns.rewrites.others k here
    exact ⟨job, (congrArg Dossier.job kept).symm.trans found, runs, rfl⟩

/-!
# Counting
-/

theorem runningUpdatesFor_eq (s : State) (agentId : String) :
    s.runningUpdatesFor agentId =
      (s.jobs.values.filter
        (fun job => Job.isUpdate job.type && job.runsOn agentId)).length := by
  rw [runningUpdatesFor, runningFor, List.filter_filter]

theorem StartsNone.runningFor_le (h : s.StartsNone agentId s') :
    (s'.runningFor agentId).length ≤ (s.runningFor agentId).length := by
  apply Table.length_filter_values_le
  intro id job found runs
  rcases h id job found runs with ⟨before, found, runs, _⟩
  exact ⟨before, found, runs⟩

theorem StartsNone.runningUpdatesFor_le (h : s.StartsNone agentId s') :
    s'.runningUpdatesFor agentId ≤ s.runningUpdatesFor agentId := by
  rw [runningUpdatesFor_eq, runningUpdatesFor_eq]
  apply Table.length_filter_values_le
  intro id job found both
  rcases (Bool.and_eq_true _ _).mp both with ⟨update, runs⟩
  rcases h id job found runs with ⟨before, found, runs, type⟩
  refine ⟨before, found, ?_⟩
  rw [type, update, runs]
  rfl

theorem Turns.length_filter_le {before after : Job} (turns : Turns id s s' before after)
    (kind : Job → Bool) :
    (s'.jobs.values.filter kind).length ≤ (s.jobs.values.filter kind).length + 1 := by
  apply Table.length_filter_values_le_succ id
  intro k job here found is
  have kept := turns.rewrites.others k here
  exact ⟨job, (congrArg Dossier.job kept).symm.trans found, is⟩

theorem Turns.length_filter_le_of_not {before after : Job} (turns : Turns id s s' before after)
    {kind : Job → Bool} (other : kind after = false) :
    (s'.jobs.values.filter kind).length ≤ (s.jobs.values.filter kind).length := by
  apply Table.length_filter_values_le
  intro k job found is
  by_cases here : k = id
  · subst here
    rw [turns.turned] at found
    cases found
    rw [other] at is
    cases is
  · have kept := turns.rewrites.others k here
    exact ⟨job, (congrArg Dossier.job kept).symm.trans found, is⟩

/-!
# Dispatch

A dispatch is told how many slots are free and how many updates run.  It counts both along,
the slots down and the updates up.
-/

inductive Dispatches (updateLimit : Nat) :
    Nat → Nat → List String → State → List Job → State → Prop
  | stop {slots updates : Nat} {ids : List String} {s : State} :
      Dispatches updateLimit slots updates ids s [] s
  | skip {slots updates : Nat} {id : String} {ids : List String} {s s' : State}
      {leased : List Job} (rest : Dispatches updateLimit slots updates ids s leased s') :
      Dispatches updateLimit slots updates (id :: ids) s leased s'
  | lease {slots updates : Nat} {id : String} {ids : List String} {s m s' : State}
      {before job : Job} {more : List Job} (turns : Turns id s m before job)
      (allowed : Job.isUpdate job.type = true → updates < updateLimit)
      (rest : Dispatches updateLimit slots
        (if Job.isUpdate job.type then updates + 1 else updates) ids m more s') :
      Dispatches updateLimit (slots + 1) updates (id :: ids) s (job :: more) s'

theorem dispatches_leaseCandidates (s : State) (fresh : Fresh) (policy : DispatchPolicy)
    (observers : List Observer) (agentId : String) (agent : Agent) (now : Instant)
    (slots updates : Nat) (ids : List String) :
    Dispatches policy.updateJobLimit slots updates ids s
      (s.leaseCandidates fresh policy observers agentId agent now slots updates ids).1
      (s.leaseCandidates fresh policy observers agentId agent now slots updates ids).2 := by
  induction ids generalizing s slots updates with
  | nil =>
      exact .stop
  | cons id rest ih =>
      unfold leaseCandidates
      split
      · exact .stop
      · rename_i free
        split
        · exact .skip (ih s slots updates)
        · rename_i row found
          split
          · rename_i may
            split
            · exact .skip (ih s slots updates)
            · rename_i leased s1 lease
              rcases turns_leaseJob lease with ⟨before, _, given, turns⟩
              have same : before = row := Option.some.inj (turns.found.symm.trans found)
              have type : leased.type = row.type := by
                rw [given, ← same]
                rfl
              have slot : slots - 1 + 1 = slots := by omega
              have allowed : Job.isUpdate leased.type = true →
                  updates < policy.updateJobLimit := by
                intro update
                rw [type] at update
                simp only [mayLease, update, Bool.true_and, Bool.and_eq_true,
                  Bool.not_eq_true', decide_eq_false_iff_not] at may
                exact Nat.lt_of_not_le may.1.1.2
              rw [← slot, ← type]
              exact .lease turns allowed (ih s1 (slots - 1) _)
          · exact .skip (ih s slots updates)

namespace Dispatches

variable {updateLimit slots updates : Nat} {ids : List String} {leased : List Job}

theorem length_le_slots (h : Dispatches updateLimit slots updates ids s leased s') :
    leased.length ≤ slots := by
  induction h with
  | stop => exact Nat.zero_le _
  | skip rest ih => exact ih
  | lease turns allowed rest ih => exact Nat.succ_le_succ ih

theorem length_le_candidates (h : Dispatches updateLimit slots updates ids s leased s') :
    leased.length ≤ ids.length := by
  induction h with
  | stop => exact Nat.zero_le _
  | skip rest ih => exact Nat.le_succ_of_le ih
  | lease turns allowed rest ih => exact Nat.succ_le_succ ih

theorem runningFor_le (h : Dispatches updateLimit slots updates ids s leased s')
    (agentId : String) :
    (s'.runningFor agentId).length ≤ (s.runningFor agentId).length + leased.length := by
  induction h with
  | stop => exact Nat.le_refl _
  | skip rest ih => exact ih
  | @lease _ _ _ _ s m s' before job more turns allowed rest ih =>
      have one : (m.runningFor agentId).length ≤ (s.runningFor agentId).length + 1 :=
        turns.length_filter_le (fun job => job.runsOn agentId)
      simp only [List.length_cons]
      omega

/-- Each update that is leased is counted before the next one is looked at. -/
theorem runningUpdatesFor_le (h : Dispatches updateLimit slots updates ids s leased s')
    (counted : s.runningUpdatesFor agentId ≤ updates) (within : updates ≤ updateLimit) :
    s'.runningUpdatesFor agentId ≤ updateLimit := by
  induction h with
  | stop => exact Nat.le_trans counted within
  | skip rest ih => exact ih counted within
  | @lease _ updates _ _ s m s' before job more turns allowed rest ih =>
      by_cases update : Job.isUpdate job.type = true
      · have one : m.runningUpdatesFor agentId ≤ s.runningUpdatesFor agentId + 1 := by
          rw [runningUpdatesFor_eq, runningUpdatesFor_eq]
          exact turns.length_filter_le _
        have room := allowed update
        apply ih
        · rw [if_pos update]
          omega
        · rw [if_pos update]
          omega
      · have none : m.runningUpdatesFor agentId ≤ s.runningUpdatesFor agentId := by
          rw [runningUpdatesFor_eq, runningUpdatesFor_eq]
          apply turns.length_filter_le_of_not
          simp [update]
        apply ih
        · rw [if_neg update]
          exact Nat.le_trans none counted
        · rw [if_neg update]
          exact within

end Dispatches

theorem startsNone_leaseCandidates {other : String} (apart : other ≠ agentId) (s : State)
    (fresh : Fresh) (policy : DispatchPolicy) (observers : List Observer) (agent : Agent)
    (now : Instant) (slots updates : Nat) (ids : List String) :
    s.StartsNone other
      (s.leaseCandidates fresh policy observers agentId agent now slots updates ids).2 := by
  apply startsNone_of_dossiers
  intro id
  have changes : Revises _ id s
      (s.leaseCandidates fresh policy observers agentId agent now slots updates ids).2 :=
    revises_leaseCandidates slots updates ids id
  rcases changes with kept | ⟨_, after, _, put, _, _, _, holder⟩
  · exact Or.inl kept
  · refine Or.inr ?_
    intro job found
    have same : some after = some job := put.symm.trans found
    cases same
    simp [Job.runsOn, holder, Ne.symm apart]

/-- A poll reclaims what has lapsed, and then dispatches to the slots that are free. -/
theorem pollForWork_dispatches {fresh : Fresh} {limit : Nat} {policy : DispatchPolicy}
    {observers : List Observer} {outcome : PollOutcome}
    (h : s.pollForWork fresh agentId limit policy observers now = .ok (outcome, s')) :
    ∃ agent, s.agents.get? agentId = some agent ∧
      Dispatches policy.updateJobLimit
        (agent.jobConcurrency.toNat - ((s.expireStale now).2.runningFor agentId).length)
        ((s.expireStale now).2.runningUpdatesFor agentId)
        ((s.expireStale now).2.queuedIds.take limit) (s.expireStale now).2 outcome.leased s' ∧
      ∀ other, other ≠ agentId → s.StartsNone other s' := by
  unfold pollForWork at h
  split at h
  · cases h
  · rename_i agent found
    split at h
    · cases h
    · cases h
      refine ⟨agent, found, dispatches_leaseCandidates _ _ _ _ _ _ _ _ _ _, ?_⟩
      intro other apart
      exact (s.startsNone_expireStale now other).trans
        (startsNone_leaseCandidates apart _ _ _ _ _ _ _ _ _)

end State
end FleetControl
