import FleetControl.Proofs.JobStore.Ledger
import FleetControl.Proofs.JobStore.Rows

/-!
# What a dispatch selects

A dispatch walks once through the front of the queue and takes what it may.  What it may take
depends on the agent, on the policy and the observers, and on the updates that the agent runs
or has been given on the way.  It leases all that it takes: as the jobs of a queue are free,
no lease is ever refused.
-/

namespace FleetControl

open Refusal
open Time

theorem Dossier.Stage.isFree {id : String} {r : Dossier} {job : Job} (stage : r.Stage id)
    (hjob : r.job = some job) (status : job.status = .queued) : job.IsFree := by
  cases stage with
  | absent => cases hjob
  | queued _ _ free =>
      cases hjob
      exact free
  | running _ running _ _ =>
      cases hjob
      simp [running] at status
  | finished _ _ free _ _ _ =>
      cases hjob
      exact free
  | withdrawn _ _ free _ _ =>
      cases hjob
      exact free

namespace State

variable {s s' : State} {fresh : Fresh} {policy : DispatchPolicy} {observers : List Observer}
  {agentId : String} {agent : Agent} {now expires : Instant} {slots updates : Nat}

/-!
# The queue
-/

/-- These are the queued jobs, older jobs first, and of jobs of one instant the one that was
created first. -/
structure IsQueue (s : State) (queue : List Job) : Prop where
  jobs : queue.Perm (s.jobs.values.filter (fun job => job.status = .queued))
  ascending : queue.Pairwise (fun a b =>
    a.createdAt < b.createdAt ∨ (a.createdAt = b.createdAt ∧ a.seq ≤ b.seq))

def queue (s : State) : List Job :=
  (s.jobs.values.filter (fun job => job.status = .queued)).mergeSort queueOrder

theorem queuedIds_eq (s : State) : s.queuedIds = s.queue.map Job.id := rfl

theorem queueOrder_iff {a b : Job} :
    queueOrder a b = true ↔
      a.createdAt < b.createdAt ∨ (a.createdAt = b.createdAt ∧ a.seq ≤ b.seq) := by
  unfold queueOrder
  simp only [Bool.or_eq_true, Bool.and_eq_true, decide_eq_true_eq]

theorem queueOrder_trans (a b c : Job) (h : queueOrder a b = true) (h' : queueOrder b c = true) :
    queueOrder a c = true := by
  rw [queueOrder_iff] at h h' ⊢
  rcases h with before | ⟨same, seq⟩
  · rcases h' with before' | ⟨same', _⟩
    · exact Or.inl (Instant.lt_trans before before')
    · exact Or.inl (same' ▸ before)
  · rcases h' with before' | ⟨same', seq'⟩
    · exact Or.inl (same ▸ before')
    · exact Or.inr ⟨same.trans same', UInt64.le_trans seq seq'⟩

theorem queueOrder_total (a b : Job) : (queueOrder a b || queueOrder b a) = true := by
  rw [Bool.or_eq_true, queueOrder_iff, queueOrder_iff]
  rcases Instant.lt_trichotomy a.createdAt b.createdAt with before | same | behind
  · exact Or.inl (Or.inl before)
  · rcases UInt64.le_total a.seq b.seq with seq | seq
    · exact Or.inl (Or.inr ⟨same, seq⟩)
    · exact Or.inr (Or.inr ⟨same.symm, seq⟩)
  · exact Or.inr (Or.inl behind)

theorem isQueue_queue (s : State) : s.IsQueue s.queue where
  jobs := List.mergeSort_perm _ _
  ascending := (List.pairwise_mergeSort queueOrder_trans queueOrder_total _).imp
    queueOrder_iff.mp

namespace IsQueue

variable {queue : List Job}

theorem mem_iff (isQueue : s.IsQueue queue) (named : s.jobStore.Named) {job : Job} :
    job ∈ queue ↔ s.jobs.get? job.id = some job ∧ job.status = .queued := by
  rw [isQueue.jobs.mem_iff, List.mem_filter, decide_eq_true_iff]
  refine and_congr_left fun _ => Table.mem_values_iff.trans ⟨?_, fun found => ⟨job.id, found⟩⟩
  rintro ⟨key, found⟩
  rw [named key job found]
  exact found

theorem nodup (isQueue : s.IsQueue queue) (named : s.jobStore.Named) :
    (queue.map Job.id).Nodup := by
  have names : (s.jobs.values.filter (fun job => job.status = .queued)).map Job.id =
      s.jobs.keysWhere (fun job => job.status = .queued) :=
    Table.names_of_filter_values fun key row found _ => named key row found
  rw [(isQueue.jobs.map Job.id).nodup_iff, names]
  exact s.jobs.nodup_keysWhere _

/-- Jobs with numbers of their own stand in one order only. -/
theorem unique {other : List Job} (isQueue : s.IsQueue queue) (isOther : s.IsQueue other)
    (numbers : (queue.map Job.seq).Nodup) : other = queue := by
  have perm : other.Perm queue := isOther.jobs.trans isQueue.jobs.symm
  refine perm.eq_of_pairwise ?_ isOther.ascending isQueue.ascending
  intro a b a_mem b_mem before behind
  refine List.inj_on_of_nodup_map numbers (perm.mem_iff.mp a_mem) b_mem ?_
  rcases before with before | ⟨same, le⟩
  · rcases behind with behind | ⟨same, _⟩
    · exact absurd (Instant.lt_trans before behind) (Instant.lt_irrefl _)
    · exact absurd (same ▸ before) (Instant.lt_irrefl _)
  · rcases behind with behind | ⟨_, ge⟩
    · exact absurd (same ▸ behind) (Instant.lt_irrefl _)
    · exact UInt64.le_antisymm le ge

end IsQueue

/-!
# Selecting
-/

/-- The job may be dispatched to the agent, while it runs as many updates. -/
structure Admits (policy : DispatchPolicy) (observers : List Observer) (agentId : String)
    (agent : Agent) (updates : Nat) (job : Job) : Prop where
  target : ∀ target, job.payload.get? "agent_id" = some target →
    target = "" ∨ target = agentId
  throttle : Job.isUpdate job.type = true → updates < policy.updateJobLimit
  system : agent.isWindows = true → job.type ∈ policy.windowsJobTypes
  observers : ∀ allows ∈ observers, allows job agent = true

theorem mayLease_iff {job : Job} :
    mayLease policy observers agentId agent updates job = true ↔
      Admits policy observers agentId agent updates job := by
  have target : (∀ target ∈ job.targetAgent?, target = agentId) ↔
      ∀ target, job.payload.get? "agent_id" = some target → target = "" ∨ target = agentId := by
    unfold Job.targetAgent?
    cases job.payload.get? "agent_id" with
    | none => simp
    | some target => by_cases empty : target = "" <;> simp [empty, Option.filter]
  have throttle : (!(Job.isUpdate job.type && decide (policy.updateJobLimit ≤ updates))) = true ↔
      (Job.isUpdate job.type = true → updates < policy.updateJobLimit) := by
    cases Job.isUpdate job.type <;> simp
  have system : (!(agent.isWindows && !policy.windowsJobTypes.contains job.type)) = true ↔
      (agent.isWindows = true → job.type ∈ policy.windowsJobTypes) := by
    cases agent.isWindows <;> simp
  unfold mayLease
  rw [Bool.and_eq_true, Bool.and_eq_true, Bool.and_eq_true, throttle, system, List.all_eq_true]
  constructor
  · rintro ⟨⟨⟨named, throttle⟩, system⟩, observers⟩
    refine ⟨target.mp ?_, throttle, system, observers⟩
    intro name mem
    rw [mem] at named
    exact of_decide_eq_true named
  · intro admits
    refine ⟨⟨⟨?_, admits.throttle⟩, admits.system⟩, admits.observers⟩
    split
    · rename_i name named
      exact decide_eq_true (target.mpr admits.target name named)
    · rfl

instance (policy : DispatchPolicy) (observers : List Observer) (agentId : String)
    (agent : Agent) (updates : Nat) (job : Job) :
    Decidable (Admits policy observers agentId agent updates job) :=
  decidable_of_iff _ mayLease_iff

theorem admits_iff_of_calm {job : Job}
    (calm : ∀ allows ∈ observers, ∀ job agent, allows job agent = true) :
    Admits policy observers agentId agent updates job ↔
      Admits policy [] agentId agent updates job := by
  constructor
  · intro admits
    exact ⟨admits.target, admits.throttle, admits.system, by simp⟩
  · intro admits
    exact ⟨admits.target, admits.throttle, admits.system,
      fun allows mem => calm allows mem job agent⟩

def countUpdates (jobs : List Job) : Nat :=
  jobs.countP (fun job => Job.isUpdate job.type)

/-- Take the job if a slot is left for it, and if it may be dispatched next to the updates
that run and those that are taken. -/
def choose (policy : DispatchPolicy) (observers : List Observer) (agentId : String)
    (agent : Agent) (slots updates : Nat) (taken : List Job) (job : Job) : List Job :=
  if taken.length < slots ∧
      Admits policy observers agentId agent (updates + countUpdates taken) job then
    taken ++ [job]
  else taken

def selection (policy : DispatchPolicy) (observers : List Observer) (agentId : String)
    (agent : Agent) (slots updates : Nat) (candidates : List Job) : List Job :=
  candidates.foldl (choose policy observers agentId agent slots updates) []

section Choose

variable {taken rest : List Job} {job : Job}

theorem countUpdates_append :
    countUpdates (taken ++ [job]) =
      if Job.isUpdate job.type then countUpdates taken + 1 else countUpdates taken := by
  unfold countUpdates
  rw [List.countP_append, List.countP_singleton]
  split <;> rfl

theorem choose_of_full (full : slots ≤ taken.length) (candidates : List Job) :
    candidates.foldl (choose policy observers agentId agent slots updates) taken = taken := by
  induction candidates with
  | nil => rfl
  | cons job rest ih =>
      have passed : choose policy observers agentId agent slots updates taken job = taken :=
        if_neg fun both => Nat.not_lt.mpr full both.1
      rw [List.foldl_cons, passed, ih]

theorem isPrefix_foldl_choose (candidates taken : List Job) :
    taken <+: candidates.foldl (choose policy observers agentId agent slots updates) taken := by
  induction candidates generalizing taken with
  | nil => exact List.prefix_refl taken
  | cons job rest ih =>
      have step : taken <+: choose policy observers agentId agent slots updates taken job := by
        unfold choose
        split
        · exact List.prefix_append taken [job]
        · exact List.prefix_refl taken
      exact step.trans (ih _)

/-- Something is taken if there is a slot and a candidate that may be dispatched as things
stand. -/
theorem selection_ne_nil_iff {candidates : List Job} :
    selection policy observers agentId agent slots updates candidates ≠ [] ↔
      0 < slots ∧ ∃ job ∈ candidates, Admits policy observers agentId agent updates job := by
  unfold selection
  induction candidates with
  | nil => simp
  | cons job rest ih =>
      rw [List.foldl_cons]
      by_cases takes : 0 < slots ∧ Admits policy observers agentId agent updates job
      · have chosen : choose policy observers agentId agent slots updates [] job = [job] :=
          if_pos takes
        rw [chosen]
        refine iff_of_true ?_ ⟨takes.1, job, List.mem_cons_self, takes.2⟩
        intro none_
        have first : [job] <+:
            rest.foldl (choose policy observers agentId agent slots updates) [job] :=
          isPrefix_foldl_choose rest [job]
        rw [none_] at first
        cases List.prefix_nil.mp first
      · have passed : choose policy observers agentId agent slots updates [] job = [] :=
          if_neg takes
        rw [passed, ih]
        refine and_congr_right fun free => ?_
        have other : ¬ Admits policy observers agentId agent updates job :=
          fun admits => takes ⟨free, admits⟩
        simp [other]

end Choose

/-!
# The walk
-/

/-- The walk through candidates, given up as soon as a row is missing or a lease is
refused. -/
def leaseStrictly (s : State) (fresh : Fresh) (policy : DispatchPolicy)
    (observers : List Observer) (agentId : String) (agent : Agent) (now : Instant)
    (slots updates : Nat) : List String → Except Error (List Job × State)
  | [] => return ([], s)
  | jobId :: rest =>
      if slots = 0 then return ([], s)
      else do
        let job ← s.findJob jobId
        if mayLease policy observers agentId agent updates job then
          let (leased, s) ← s.leaseJob jobId agentId (fresh.token jobId)
            (1000 * policy.leaseSeconds) now
          let updates := if Job.isUpdate job.type then updates + 1 else updates
          let (more, s) ← s.leaseStrictly fresh policy observers agentId agent now
            (slots - 1) updates rest
          return (leased :: more, s)
        else s.leaseStrictly fresh policy observers agentId agent now slots updates rest

theorem leaseCandidates_of_leaseStrictly {ids : List String} {result : List Job × State}
    (h : s.leaseStrictly fresh policy observers agentId agent now slots updates ids =
      .ok result) :
    s.leaseCandidates fresh policy observers agentId agent now slots updates ids = result := by
  induction ids generalizing s slots updates result with
  | nil => exact pure_eq_ok.mp h
  | cons id rest ih =>
      unfold leaseStrictly at h
      unfold leaseCandidates
      by_cases full : slots = 0
      · rw [if_pos full] at h ⊢
        exact pure_eq_ok.mp h
      · rw [if_neg full] at h ⊢
        rcases bind_eq_ok.mp h with ⟨job, found, h⟩
        rw [findJob_eq_ok.mp found]
        dsimp only
        split at h
        · rename_i may
          rcases bind_eq_ok.mp h with ⟨⟨leased, m⟩, lease, h⟩
          rcases bind_eq_ok.mp h with ⟨⟨more, last⟩, walk, h⟩
          rw [if_pos may, lease]
          dsimp only
          rw [ih walk]
          exact pure_eq_ok.mp h
        · rename_i may
          rw [if_neg may]
          exact ih h

theorem leaseJob_of_queued (staged : s.jobStore.Staged) {id : String} {job : Job}
    (found : s.jobs.get? id = some job) (queued : job.status = .queued)
    (agentId token : String) (ttl : Int) (now : Instant) :
    ∃ m, s.leaseJob id agentId token ttl now =
      .ok (job.leased agentId token (now.addMillis ttl) now, m) := by
  have free : job.IsFree := (staged id).isFree found queued
  let locked : Job :=
    { job with lockedBy := some agentId, lockToken := some token
               lockExpiresAt := some (now.addMillis ttl) }
  have lock : s.lockJob id agentId token (now.addMillis ttl) = .ok (s.putJob id locked) := by
    unfold lockJob
    rw [findJob_eq_ok.mpr found]
    exact if_pos ⟨queued, by simp [Job.isLocked, free.1]⟩
  have foundLocked : (s.putJob id locked).findJob id = .ok locked := by
    rw [findJob_eq_ok, putJob, Table.get?_insert, if_pos rfl]
  have start : (s.putJob id locked).transition id .running now =
      .ok (.queued, (s.putJob id locked).putJob id
        (job.leased agentId token (now.addMillis ttl) now)) := by
    unfold transition
    rw [foundLocked]
    have can : locked.status.canBecome .running = true := by
      rw [show locked.status = .queued from queued]
      rfl
    rw [← queued]
    exact if_pos can
  have foundLeased : (((s.putJob id locked).putJob id
      (job.leased agentId token (now.addMillis ttl) now)).appendLog id
        ("started by agent " ++ agentId) (some 0) now).findJob id =
      .ok (job.leased agentId token (now.addMillis ttl) now) := by
    rw [findJob_eq_ok, appendLog, putJob, Table.get?_insert, if_pos rfl]
  exact ⟨_, bind_eq_ok.mpr ⟨_, lock, bind_eq_ok.mpr ⟨_, start,
    bind_eq_ok.mpr ⟨_, foundLeased, rfl⟩⟩⟩⟩

/-- Queued candidates of different names are walked through without a refusal, and what is
leased is what is taken from them. -/
theorem leaseStrictly_selection (staged : s.jobStore.Staged) {candidates : List Job}
    (queued : ∀ job ∈ candidates, s.jobs.get? job.id = some job ∧ job.status = .queued)
    (nodup : (candidates.map Job.id).Nodup) (fresh : Fresh) (policy : DispatchPolicy)
    (observers : List Observer) (agentId : String) (agent : Agent) (now : Instant)
    (slots updates : Nat) (taken : List Job) :
    ∃ more m, s.leaseStrictly fresh policy observers agentId agent now (slots - taken.length)
        (updates + countUpdates taken) (candidates.map Job.id) =
        .ok (more.map (fun job => job.leased agentId (fresh.token job.id)
          (now.addMillis (1000 * policy.leaseSeconds)) now), m) ∧
      candidates.foldl (choose policy observers agentId agent slots updates) taken =
        taken ++ more := by
  -- the jobs that are taken stand for the slots and the updates that the walk has used up
  induction candidates generalizing s taken with
  | nil => exact ⟨[], s, rfl, (List.append_nil taken).symm⟩
  | cons job rest ih =>
      rcases queued job List.mem_cons_self with ⟨found, waiting⟩
      rcases List.nodup_cons.mp nodup with ⟨own, others⟩
      have later : ∀ other ∈ rest, s.jobs.get? other.id = some other ∧
          other.status = .queued :=
        fun other mem => queued other (List.mem_cons_of_mem _ mem)
      rw [List.map_cons]
      unfold leaseStrictly
      by_cases full : slots ≤ taken.length
      · rw [if_pos (Nat.sub_eq_zero_of_le full), choose_of_full full]
        exact ⟨[], s, rfl, (List.append_nil taken).symm⟩
      · have room : taken.length < slots := Nat.not_le.mp full
        rw [if_neg (Nat.sub_ne_zero_of_lt room), findJob_eq_ok.mpr found, List.foldl_cons]
        by_cases admits : Admits policy observers agentId agent (updates + countUpdates taken) job
        · rcases leaseJob_of_queued staged found waiting agentId (fresh.token job.id)
            (1000 * policy.leaseSeconds) now with ⟨m, lease⟩
          have marks := marks_leaseJob staged lease
          have kept : ∀ other ∈ rest, m.jobs.get? other.id = some other ∧
              other.status = .queued := by
            intro other mem
            have apart : other.id ∉ [job.id] := by
              rw [List.mem_singleton]
              exact fun same => own (same ▸ List.mem_map_of_mem mem)
            exact ⟨(congrArg Dossier.job (marks.kept other.id apart)).trans (later other mem).1,
              (later other mem).2⟩
          rcases ih (marks.staged staged) kept others (taken ++ [job]) with
            ⟨more, last, walk, extends_⟩
          have chosen : choose policy observers agentId agent slots updates taken job =
              taken ++ [job] := if_pos ⟨room, admits⟩
          have count : updates + countUpdates (taken ++ [job]) =
              if Job.isUpdate job.type then updates + countUpdates taken + 1
              else updates + countUpdates taken := by
            rw [countUpdates_append]
            split <;> rfl
          rw [List.length_append, List.length_singleton, Nat.sub_add_eq, count] at walk
          refine ⟨job :: more, last, ?_, ?_⟩
          · refine bind_eq_ok.mpr ⟨job, rfl, ?_⟩
            rw [if_pos (mayLease_iff.mpr admits)]
            exact bind_eq_ok.mpr ⟨_, lease, bind_eq_ok.mpr ⟨_, walk, rfl⟩⟩
          · rw [chosen, extends_, List.append_assoc, List.singleton_append]
        · rcases ih staged later others taken with ⟨more, last, walk, extends_⟩
          have passed : choose policy observers agentId agent slots updates taken job = taken :=
            if_neg fun both => admits both.2
          refine ⟨more, last, ?_, ?_⟩
          · refine bind_eq_ok.mpr ⟨job, rfl, ?_⟩
            rw [if_neg (mt mayLease_iff.mp admits)]
            exact walk
          · rw [passed, extends_]

/-!
# Dispatches and polls
-/

/-- A dispatch leases just what it selects from the front of the queue, with no refusal on the
way, and nothing on record about another job changes. -/
structure LeasesSelection (s : State) (fresh : Fresh) (policy : DispatchPolicy)
    (observers : List Observer) (agentId : String) (agent : Agent) (now expires : Instant)
    (slots updates limit : Nat) (leased : List Job) (s' : State) : Prop where
  selected : ∃ queue, s.IsQueue queue ∧
    leased = (selection policy observers agentId agent slots updates (queue.take limit)).map
      (fun job => job.leased agentId (fresh.token job.id) expires now)
  unrefused : s.leaseStrictly fresh policy observers agentId agent now slots updates
    (s.queuedIds.take limit) = .ok (leased, s')
  running : ∀ job ∈ leased, s'.jobs.get? job.id = some job ∧ job.status = .running ∧
    job.lockedBy = some agentId ∧ job.lockExpiresAt = some expires
  kept : ∀ id, id ∉ leased.map Job.id → s'.dossier id = s.dossier id

theorem leasesSelection_leaseCandidates (staged : s.jobStore.Staged) (fresh : Fresh)
    (observers : List Observer) (agentId : String) (agent : Agent)
    (ends : now.addSeconds? policy.leaseSeconds = some expires) (slots updates limit : Nat) :
    s.LeasesSelection fresh policy observers agentId agent now expires slots updates limit
      (s.leaseCandidates fresh policy observers agentId agent now slots updates
        (s.queuedIds.take limit)).1
      (s.leaseCandidates fresh policy observers agentId agent now slots updates
        (s.queuedIds.take limit)).2 := by
  have isQueue := s.isQueue_queue
  have waiting : ∀ job ∈ s.queue.take limit,
      s.jobs.get? job.id = some job ∧ job.status = .queued :=
    fun job mem => (isQueue.mem_iff staged.named).mp (List.mem_of_mem_take mem)
  have apart : ((s.queue.take limit).map Job.id).Nodup :=
    (isQueue.nodup staged.named).sublist ((List.take_sublist _ _).map Job.id)
  rcases leaseStrictly_selection staged waiting apart fresh policy observers agentId agent now
    slots updates [] with ⟨chosen, m, walk, selected⟩
  rw [List.map_take, ← queuedIds_eq, Instant.addMillis_of_eq_some ends] at walk
  have walked : s.leaseCandidates fresh policy observers agentId agent now slots updates
      (s.queuedIds.take limit) = _ := leaseCandidates_of_leaseStrictly walk
  have handed : HandsOut s _ (s.leaseCandidates fresh policy observers agentId agent now slots
      updates (s.queuedIds.take limit)).1 := handsOut_leaseCandidates staged
  have kept : ∀ id, id ∉ (s.leaseCandidates fresh policy observers agentId agent now slots
      updates (s.queuedIds.take limit)).1.map Job.id →
      (s.leaseCandidates fresh policy observers agentId agent now slots updates
        (s.queuedIds.take limit)).2.dossier id = s.dossier id :=
    (marks_leaseCandidates staged).kept
  rw [walked] at handed kept ⊢
  refine ⟨⟨s.queue, isQueue, ?_⟩, walk, ?_, kept⟩
  · exact congrArg (List.map _) selected.symm
  · intro job mem
    rcases List.mem_map.mp mem with ⟨before, _, rfl⟩
    exact ⟨(handed.running _ mem).1, rfl, rfl, rfl⟩

def held (s : State) (agentId : String) : List Job :=
  s.jobs.values.filter (fun job => job.status = .running ∧ job.lockedBy = some agentId)

theorem runningFor_eq_held (s : State) (agentId : String) :
    s.runningFor agentId = s.held agentId :=
  List.filter_congr fun job _ => by simp [Job.runsOn, Bool.decide_and]

theorem runningUpdatesFor_eq_countUpdates (s : State) (agentId : String) :
    s.runningUpdatesFor agentId = countUpdates (s.held agentId) := by
  rw [runningUpdatesFor, runningFor_eq_held, countUpdates, List.countP_eq_length_filter]

/-- The jobs that the agent may be given on top of those that it runs. -/
def freeSlots (s : State) (agentId : String) (agent : Agent) : Nat :=
  agent.jobConcurrency.toNat - (s.held agentId).length

theorem pollForWork_leasesSelection (staged : s.jobStore.Staged)
    (known : s.agents.get? agentId = some agent)
    (able : agent.isWindows = true → policy.windowsEnabled = true)
    (ends : now.addSeconds? policy.leaseSeconds = some expires) (limit : Nat) :
    ∃ outcome s', s.pollForWork fresh agentId limit policy observers now = .ok (outcome, s') ∧
      outcome.expired = (s.expireStale now).1 ∧
      (s.expireStale now).2.LeasesSelection fresh policy observers agentId agent now expires
        ((s.expireStale now).2.freeSlots agentId agent)
        (countUpdates ((s.expireStale now).2.held agentId)) limit outcome.leased s' ∧
      ∀ id, id ∉ outcome.expired.map Job.id → id ∉ outcome.leased.map Job.id →
        s'.dossier id = s.dossier id := by
  have sweep := marks_expireStale staged now
  have leases := leasesSelection_leaseCandidates (sweep.staged staged) fresh observers agentId
    agent ends ((s.expireStale now).2.freeSlots agentId agent)
    (countUpdates ((s.expireStale now).2.held agentId)) limit
  have enabled : ¬ (agent.isWindows ∧ !policy.windowsEnabled) := by
    rintro ⟨windows, disabled⟩
    simp [able windows] at disabled
  refine ⟨{ leased := _, expired := (s.expireStale now).1
            maxConcurrency := agent.jobConcurrency }, _, ?_, rfl, leases, ?_⟩
  · unfold pollForWork
    rw [known]
    dsimp only
    rw [if_neg enabled, runningFor_eq_held, runningUpdatesFor_eq_countUpdates]
    rfl
  · intro id calm waits
    exact (leases.kept id waits).trans (sweep.kept id calm)

end State
end FleetControl
