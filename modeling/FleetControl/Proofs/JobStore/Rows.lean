import FleetControl.Proofs.JobStore.Results

/-!
# The rows of jobs in any state

What becomes of the row of a job, whatever else is on record about the job.  The rows of a job
store need not be in one of their stages here, as they need not be when a store is loaded from
a file.
-/

namespace FleetControl

open Refusal
open Time

namespace State

/-- The row of one job becomes another, and no other dossier changes. -/
structure Turns (id : String) (s s' : State) (before after : Job) : Prop where
  rewrites : s.jobStore.Rewrites id s'.jobStore
  found : s.jobs.get? id = some before
  turned : s'.jobs.get? id = some after

/-- Nothing that is on record about a job changes, or its row becomes, in a way that is
allowed, another row of the same job. -/
def Revises (allowed : Job → Job → Prop) (id : String) (s s' : State) : Prop :=
  s'.dossier id = s.dossier id ∨
    ∃ before after, s.jobs.get? id = some before ∧ s'.jobs.get? id = some after ∧
      before.SameOrigin after ∧ allowed before after

variable {s m s' : State} {id : String} {now : Instant} {job : Job}

theorem Revises.imp {allowed allowed' : Job → Job → Prop} (h : Revises allowed id s s')
    (weaken : ∀ before after, s.jobs.get? id = some before → allowed before after →
      allowed' before after) : Revises allowed' id s s' := by
  rcases h with kept | ⟨before, after, found, turned, origin, allow⟩
  · exact Or.inl kept
  · exact Or.inr ⟨before, after, found, turned, origin, weaken before after found allow⟩

theorem Revises.kept {allowed : Job → Job → Prop} (h : Revises allowed id s m)
    (kept : s'.dossier id = m.dossier id) : Revises allowed id s s' := by
  rcases h with same | ⟨before, after, found, turned, allow⟩
  · exact Or.inl (kept.trans same)
  · exact Or.inr ⟨before, after, found, (congrArg Dossier.job kept).trans turned, allow⟩

theorem Revises.trans {first second both : Job → Job → Prop} (h : Revises first id s m)
    (h' : Revises second id m s') (left : ∀ a b, first a b → both a b)
    (right : ∀ a b, second a b → both a b)
    (through : ∀ a b c, first a b → second b c → both a c) : Revises both id s s' := by
  rcases h with kept | ⟨before, between, found, turned, origin, allow⟩
  · rcases h' with kept' | ⟨before, after, found, turned, origin, allow⟩
    · exact Or.inl (kept'.trans kept)
    · exact Or.inr ⟨before, after, (congrArg Dossier.job kept).symm.trans found, turned, origin,
        right _ _ allow⟩
  · rcases h' with kept' | ⟨before', after, found', turned', origin', allow'⟩
    · exact Or.inr ⟨before, between, found, (congrArg Dossier.job kept').trans turned, origin,
        left _ _ allow⟩
    · cases Option.some.inj (turned.symm.trans found')
      exact Or.inr ⟨before, after, found, turned', origin.trans origin',
        through _ _ _ allow allow'⟩

theorem named_of_revises {allowed : Job → Job → Prop} (named : s.jobStore.Named)
    (revises : ∀ id, Revises allowed id s s') : s'.jobStore.Named := by
  intro id job found
  rcases revises id with kept | ⟨before, after, was, turned, origin, _⟩
  · exact named id job ((congrArg Dossier.job kept).symm.trans found)
  · rw [Option.some.inj (found.symm.trans turned), ← origin.1]
    exact named id before was

theorem Turns.revises {before after : Job} {allowed : Job → Job → Prop}
    (turns : Turns id s s' before after) (origin : before.SameOrigin after)
    (allow : allowed before after) (k : String) : Revises allowed k s s' := by
  by_cases here : k = id
  · subst here
    exact Or.inr ⟨before, after, turns.found, turns.turned, origin, allow⟩
  · exact Or.inl (turns.rewrites.others k here)

theorem Turns.named {before after : Job} (turns : Turns id s s' before after)
    (origin : before.SameOrigin after) (named : s.jobStore.Named) : s'.jobStore.Named := by
  have revises : ∀ k, Revises (fun _ _ => True) k s s' := turns.revises origin trivial
  exact named_of_revises named revises

theorem Turns.trans {a b c : Job} (h : Turns id s m a b) (h' : Turns id m s' b c) :
    Turns id s s' a c :=
  ⟨h.rewrites.trans h'.rewrites, h.found, h'.turned⟩

theorem dossier_of_found (found : s.jobs.get? id = some job) :
    s.dossier id = ⟨some job, s.results.get? id, s.logs.get? id⟩ := by
  simp [dossier, JobStore.dossier, jobStore, found]

theorem turns_of_puts {after : Job} {result : Option Job.Result}
    {log : Option (List Job.LogLine)} (found : s.jobs.get? id = some job)
    (puts : Puts id s s' ⟨some after, result, log⟩) : Turns id s s' job after :=
  ⟨puts.rewrites, found, congrArg Dossier.job puts.dossier⟩

/-!
# Writing to one job
-/

theorem turns_appendLog (found : s.jobs.get? id = some job) (message : String)
    (progress : Option UInt8) (now : Instant) :
    Turns id s (s.appendLog id message progress now) job job :=
  turns_of_puts found (puts_appendLog (dossier_of_found found) message progress now)

theorem turns_appendLogs (found : s.jobs.get? id = some job) (messages : List String)
    (now : Instant) : Turns id s (s.appendLogs id messages now) job job := by
  induction messages generalizing s with
  | nil =>
      exact ⟨.refl id s.jobStore, found, found⟩
  | cons message rest ih =>
      have head := turns_appendLog found message none now
      exact head.trans (ih head.turned)

theorem turns_recordResult {status : Job.Status} {output : Members} {completedAt : Instant}
    {written : Job.Result} (found : s.jobs.get? id = some job)
    (h : s.recordResult id status output completedAt = .ok (written, s')) :
    Turns id s s' job job :=
  turns_of_puts found (recordResult_eq_ok (dossier_of_found found) h).2

theorem turns_transition {next previous : Job.Status} (found : s.jobs.get? id = some job)
    (h : s.transition id next now = .ok (previous, s')) :
    Turns id s s' job { job with status := next, updatedAt := now } :=
  turns_of_puts found (transition_eq_ok (dossier_of_found found) h)

theorem turns_unlockJob {token : String} {held : Bool} (found : s.jobs.get? id = some job)
    (h : s.unlockJob id token = .ok (held, s')) :
    ∃ after, job.SameOrigin after ∧ after.status = job.status ∧ Turns id s s' job after := by
  unfold unlockJob at h
  rcases bind_eq_ok.mp h with ⟨row, hrow, h⟩
  cases eq_of_findJob (dossier_of_found found) hrow
  split at h
  · cases pure_eq_ok.mp h
    exact ⟨job.release, .refl job, rfl,
      turns_of_puts found (puts_putJob (dossier_of_found found) job.release)⟩
  · cases pure_eq_ok.mp h
    exact ⟨job, .refl job, rfl, .refl id s.jobStore, found, found⟩

/-!
# Operations on one job
-/

theorem turns_leaseJob {agentId token : String} {ttl : Int} {leased : Job}
    (h : s.leaseJob id agentId token ttl now = .ok (leased, s')) :
    ∃ before, before.status = .queued ∧
      leased = before.leased agentId token (now.addMillis ttl) now ∧
      Turns id s s' before leased := by
  unfold leaseJob at h
  rcases bind_eq_ok.mp h with ⟨s1, hlock, h⟩
  rcases bind_eq_ok.mp h with ⟨⟨status, s2⟩, hmove, h⟩
  rcases bind_eq_ok.mp h with ⟨row, hrow, h⟩
  cases pure_eq_ok.mp h
  rcases lockJob_eq_ok hlock with ⟨before, found, queued, locked⟩
  have lock := turns_of_puts found (locked (dossier_of_found found))
  have move := lock.trans (turns_transition lock.turned hmove)
  have note := turns_appendLog move.turned ("started by agent " ++ agentId) (some 0) now
  cases eq_of_findJob (dossier_of_found note.turned) hrow
  exact ⟨before, queued, rfl, move.trans note⟩

theorem turns_cancelJob {withdrawn : Job} (h : s.cancelJob id now = .ok (withdrawn, s')) :
    ∃ before, before.status = .queued ∧ Turns id s s' before (before.withdrawn now) := by
  unfold cancelJob at h
  rcases bind_eq_ok.mp h with ⟨before, hbefore, h⟩
  split at h
  · exact absurd h throw_ne_ok
  · split at h
    · exact absurd h throw_ne_ok
    · rename_i queued
      rcases bind_eq_ok.mp h with ⟨⟨status, s1⟩, hmove, h⟩
      rcases bind_eq_ok.mp h with ⟨row, _, h⟩
      cases pure_eq_ok.mp h
      have move := turns_transition (findJob_eq_ok.mp hbefore) hmove
      exact ⟨before, Decidable.of_not_not queued,
        move.trans (turns_appendLog move.turned withdrawalText none now)⟩

theorem reclaim_of_missing (missing : s.jobs.get? id = none) : (s.reclaim id now).2 = s := by
  unfold reclaim
  rw [missing]

theorem turns_reclaim (found : s.jobs.get? id = some job) :
    Turns id s (s.reclaim id now).2 job (job.closed .failed now) := by
  unfold reclaim
  simp only [found]
  have close := turns_of_puts found (puts_putJob (dossier_of_found found) (job.closed .failed now))
  have note := close.trans (turns_appendLog close.turned
    ("lease held by agent " ++ job.lockedBy.getD "" ++ " expired; job failed") none now)
  split
  · rename_i recorded
    exact note.trans (turns_recordResult note.turned recorded)
  · exact note

theorem turns_finishJob {token : String} {status : Job.Status} {report : ResultReport}
    {cap : Nat} {finished : Job} {result : Job.Result} (found : s.jobs.get? id = some job)
    (h : s.finishJob id token status report cap now = .ok (finished, result, s')) :
    job.SameOrigin finished ∧ finished.status = status ∧ Turns id s s' job finished := by
  unfold finishJob at h
  rcases bind_eq_ok.mp h with ⟨⟨written, s2⟩, hresult, h⟩
  rcases bind_eq_ok.mp h with ⟨⟨previous, s3⟩, hmove, h⟩
  rcases bind_eq_ok.mp h with ⟨⟨released, s4⟩, hunlock, h⟩
  rcases bind_eq_ok.mp h with ⟨row, hrow, h⟩
  cases pure_eq_ok.mp h
  have output := turns_appendLogs found (Report.outputLines report.output cap) now
  have record := output.trans (turns_recordResult output.turned hresult)
  have move := record.trans (turns_transition record.turned hmove)
  rcases turns_unlockJob move.turned hunlock with ⟨after, origin, kept, unlock⟩
  have unlocked := move.trans unlock
  have note := turns_appendLog unlocked.turned ("finished: " ++ status.word) (some 100) now
  cases eq_of_findJob (dossier_of_found note.turned) hrow
  exact ⟨origin, kept, unlocked.trans note⟩

theorem status_of_finishJob {id token : String} {status : Job.Status} {report : ResultReport}
    {cap : Nat} {finished : Job} {result : Job.Result}
    (h : s.finishJob id token status report cap now = .ok (finished, result, s')) :
    result.status = status := by
  unfold finishJob at h
  rcases bind_eq_ok.mp h with ⟨⟨written, s2⟩, record, h⟩
  rcases bind_eq_ok.mp h with ⟨_, _, h⟩
  rcases bind_eq_ok.mp h with ⟨_, _, h⟩
  rcases bind_eq_ok.mp h with ⟨_, _, h⟩
  cases pure_eq_ok.mp h
  unfold recordResult at record
  split at record
  · cases record
  · cases record
    rfl

theorem turns_submitLogs {agentId : String} {report : LogReport} {policy : ReportPolicy}
    {expires : Instant} (h : s.submitLogs agentId id report policy now = .ok (expires, s')) :
    ∃ before, before.status = .running ∧ before.lockedBy = some agentId ∧
      Turns id s s' before (before.extended expires now) := by
  unfold submitLogs at h
  rcases bind_eq_ok.mp h with ⟨_, _, h⟩
  rcases bind_eq_ok.mp h with ⟨token, htoken, h⟩
  rcases bind_eq_ok.mp h with ⟨_, _, h⟩
  rcases bind_eq_ok.mp h with ⟨⟨extended, s1⟩, hextend, h⟩
  cases pure_eq_ok.mp h
  rcases leaseToken_eq_ok htoken with ⟨before, found, running, holder, _⟩
  rcases extendLock_eq_ok (dossier_of_found found) hextend with ⟨_, _, _, puts⟩
  have extend := turns_of_puts found puts
  refine ⟨before, running, holder, ?_⟩
  cases Report.headLine? report with
  | none =>
      exact extend.trans (turns_appendLogs extend.turned _ now)
  | some head =>
      rcases head with ⟨message, progress⟩
      have note := extend.trans (turns_appendLog extend.turned message progress now)
      exact note.trans (turns_appendLogs note.turned _ now)

/-!
# Operations on many jobs
-/

/-- A job that is reclaimed fails, and stays failed when it is reclaimed once more. -/
theorem revises_reclaimAll (s : State) (now : Instant) (ids : List String) (id : String) :
    Revises (fun _ after => id ∈ ids ∧ after.status = .failed) id s
      (s.reclaimAll now ids).2 := by
  induction ids generalizing s with
  | nil =>
      exact Or.inl rfl
  | cons first rest ih =>
      have later : (s.reclaimAll now (first :: rest)).2 =
          ((s.reclaim first now).2.reclaimAll now rest).2 := rfl
      rw [later]
      cases found : s.jobs.get? first with
      | none =>
          rw [reclaim_of_missing found]
          exact (ih s).imp fun _ _ _ failed => ⟨List.mem_cons_of_mem _ failed.1, failed.2⟩
      | some job =>
          have head : Turns first s (s.reclaim first now).2 job (job.closed .failed now) :=
            turns_reclaim found
          have origin : job.SameOrigin (job.closed .failed now) := .refl job
          by_cases here : id = first
          · subst here
            refine Or.inr ⟨job, ?_⟩
            rcases ih (s.reclaim id now).2 with
              kept | ⟨_, after, was, turned, origin', _, failed⟩
            · exact ⟨job.closed .failed now, found,
                (congrArg Dossier.job kept).trans head.turned, origin, List.mem_cons_self, rfl⟩
            · cases Option.some.inj (head.turned.symm.trans was)
              exact ⟨after, found, turned, origin.trans origin', List.mem_cons_self, failed⟩
          · have others := head.rewrites.others id here
            rcases ih (s.reclaim first now).2 with
              kept | ⟨before, after, was, turned, origin', member, failed⟩
            · exact Or.inl (kept.trans others)
            · exact Or.inr ⟨before, after, (congrArg Dossier.job others).symm.trans was, turned,
                origin', List.mem_cons_of_mem _ member, failed⟩

section Dispatch

variable {fresh : Fresh} {policy : DispatchPolicy} {observers : List Observer}
  {agentId : String} {agent : Agent}

theorem revises_leaseCandidates (slots updates : Nat) (ids : List String) (id : String) :
    Revises (fun before after => before.status = .queued ∧ after.status = .running ∧
        after.lockedBy = some agentId) id s
      (s.leaseCandidates fresh policy observers agentId agent now slots updates ids).2 := by
  induction ids generalizing s slots updates with
  | nil =>
      exact Or.inl rfl
  | cons first rest ih =>
      unfold leaseCandidates
      split
      · exact Or.inl rfl
      · split
        · exact ih slots updates
        · split
          · split
            · exact ih slots updates
            · rename_i leased s1 lease
              rcases turns_leaseJob lease with ⟨before, queued, given, head⟩
              have origin : before.SameOrigin leased := by
                rw [given]
                exact .refl before
              have running : leased.status = .running := by
                rw [given]
                rfl
              have holder : leased.lockedBy = some agentId := by
                rw [given]
                rfl
              dsimp only
              generalize (if Job.isUpdate _ then updates + 1 else updates) = count
              have tail := ih (s := s1) (slots - 1) count
              by_cases here : id = first
              · subst here
                refine Or.inr ⟨before, leased, head.found, ?_, origin, queued, running, holder⟩
                rcases tail with kept | ⟨again, _, found, _, _, waiting, _⟩
                · exact (congrArg Dossier.job kept).trans head.turned
                · -- what has just been leased is no longer queued
                  cases Option.some.inj (head.turned.symm.trans found)
                  rw [running] at waiting
                  cases waiting
              · have others := head.rewrites.others id here
                rcases tail with kept | ⟨waiting, after, found, turned⟩
                · exact Or.inl (kept.trans others)
                · exact Or.inr ⟨waiting, after, (congrArg Dossier.job others).symm.trans found,
                    turned⟩
          · exact ih slots updates

end Dispatch

end State

theorem JobStore.Steps.named {fresh : Fresh} {a b : JobStore} (steps : Steps fresh .creation a b)
    (named : a.Named) : b.Named := by
  intro id job found
  rcases steps.dossier_of_creation id with kept | ⟨created, _, name, put⟩
  · exact named id job ((congrArg Dossier.job kept).symm.trans found)
  · cases Option.some.inj (found.symm.trans (congrArg Dossier.job put))
    exact name

end FleetControl
