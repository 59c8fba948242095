import FleetControl.Proofs.JobStore.Change
import FleetControl.Proofs.Refusal
import FleetControl.Proofs.Time.Order
import FleetControl.State.Reports

/-!
# Writing to one job

What each of the operations on one job does to its dossier, when it is not refused.
None of them touches another dossier.
-/

namespace FleetControl

open Refusal
open Time

namespace Dossier

/-!
# Dossiers by status
-/

theorem Stage.of_queued {id : String} {r : Dossier} {job : Job} (stage : r.Stage id)
    (hjob : r.job = some job) (status : job.status = .queued) : r = ⟨some job, none, none⟩ := by
  cases stage with
  | absent => cases hjob
  | queued _ _ _ =>
      cases hjob
      rfl
  | running _ running _ _ =>
      cases hjob
      simp [running] at status
  | finished _ terminal _ _ _ _ =>
      cases hjob
      simp [status, Job.Status.isTerminal] at terminal
  | withdrawn _ withdrawn _ _ _ =>
      cases hjob
      simp [withdrawn] at status

theorem Stage.of_running {id : String} {r : Dossier} {job : Job} (stage : r.Stage id)
    (hjob : r.job = some job) (status : job.status = .running) :
    job.IsLeased ∧ ∃ log, r = ⟨some job, none, some log⟩ := by
  cases stage with
  | absent => cases hjob
  | queued _ queued _ =>
      cases hjob
      simp [queued] at status
  | running _ _ leased _ =>
      cases hjob
      exact ⟨leased, _, rfl⟩
  | finished _ terminal _ _ _ _ =>
      cases hjob
      simp [status, Job.Status.isTerminal] at terminal
  | withdrawn _ withdrawn _ _ _ =>
      cases hjob
      simp [withdrawn] at status

theorem Stage.name {id : String} {r : Dossier} {job : Job} (stage : r.Stage id)
    (hjob : r.job = some job) : job.id = id := by
  cases stage <;> cases hjob <;> assumption

end Dossier

namespace JobStore

def Named (b : JobStore) : Prop :=
  ∀ id job, b.jobs.get? id = some job → job.id = id

theorem Staged.named {b : JobStore} (staged : b.Staged) : b.Named :=
  fun id _ h => (staged id).name h

end JobStore

namespace State

abbrev dossier (s : State) (id : String) : Dossier :=
  s.jobStore.dossier id

/-- One dossier becomes another, and nothing else changes in the job store. -/
structure Puts (id : String) (s s' : State) (r : Dossier) : Prop where
  rewrites : s.jobStore.Rewrites id s'.jobStore
  dossier : s'.dossier id = r

theorem Puts.trans {id : String} {s m s' : State} {r r' : Dossier} (h : Puts id s m r)
    (h' : Puts id m s' r') : Puts id s s' r' :=
  ⟨h.rewrites.trans h'.rewrites, h'.dossier⟩

theorem Puts.step {id : String} {s s' : State} {r r' : Dossier} {cause : Cause}
    (fresh : Fresh) (before : s.dossier id = r) (puts : Puts id s s' r')
    (move : Dossier.Move id cause r r') :
    JobStore.Step fresh cause s.jobStore s'.jobStore := by
  refine .move puts.rewrites ?_
  show Dossier.Move id cause (s.dossier id) (s'.dossier id)
  rw [before, puts.dossier]
  exact move

/-!
# Rows, results and lines
-/

variable {s s' : State} {id : String}

theorem find_eq_ok {α : Type} {rows : Table α} {kind : RowKind} {row : α} :
    find rows kind id = .ok row ↔ rows.get? id = some row := by
  unfold find
  cases rows.get? id with
  | none => simp
  | some row => simp

theorem findJob_eq_ok {job : Job} : s.findJob id = .ok job ↔ s.jobs.get? id = some job :=
  find_eq_ok

theorem eq_of_findJob {job found : Job} {result : Option Job.Result}
    {log : Option (List Job.LogLine)} (before : s.dossier id = ⟨some job, result, log⟩)
    (h : s.findJob id = .ok found) : found = job := by
  have hget : s.jobs.get? id = some job := congrArg Dossier.job before
  rw [findJob_eq_ok, hget] at h
  exact (Option.some.inj h).symm

theorem puts_putJob {job : Job} {result : Option Job.Result}
    {log : Option (List Job.LogLine)} (before : s.dossier id = ⟨some job, result, log⟩)
    (after : Job) : Puts id s (s.putJob id after) ⟨some after, result, log⟩ := by
  have hjob : s.jobs.get? id = some job := congrArg Dossier.job before
  constructor
  · constructor
    · intro k hk
      simp [JobStore.dossier, jobStore, putJob, hk]
    · exact Table.size_insert_of_get?_eq_some hjob
    · rfl
  · have hresult : s.results.get? id = result := congrArg Dossier.result before
    have hlog : s.logs.get? id = log := congrArg Dossier.log before
    simp [dossier, JobStore.dossier, jobStore, putJob, hresult, hlog]

theorem puts_insertResult {job : Option Job} {result : Option Job.Result}
    {log : Option (List Job.LogLine)} (before : s.dossier id = ⟨job, result, log⟩)
    (after : Job.Result) :
    Puts id s { s with results := s.results.insert id after } ⟨job, some after, log⟩ := by
  constructor
  · constructor
    · intro k hk
      simp [JobStore.dossier, jobStore, hk]
    · rfl
    · rfl
  · have hjob : s.jobs.get? id = job := congrArg Dossier.job before
    have hlog : s.logs.get? id = log := congrArg Dossier.log before
    simp [dossier, JobStore.dossier, jobStore, hjob, hlog]

def logLine (id message : String) (progress : Option UInt8) (now : Instant) : Job.LogLine :=
  { jobId := id, message := message
    progress := progress.map (fun p => min p 100), createdAt := now }

theorem puts_appendLog {job : Option Job} {result : Option Job.Result}
    {log : Option (List Job.LogLine)} (before : s.dossier id = ⟨job, result, log⟩)
    (message : String) (progress : Option UInt8) (now : Instant) :
    Puts id s (s.appendLog id message progress now)
      ⟨job, result, some (log.getD [] ++ [logLine id message progress now])⟩ := by
  constructor
  · constructor
    · intro k hk
      simp [JobStore.dossier, jobStore, appendLog, hk]
    · rfl
    · rfl
  · have hjob : s.jobs.get? id = job := congrArg Dossier.job before
    have hresult : s.results.get? id = result := congrArg Dossier.result before
    have hlog : s.logs.get? id = log := congrArg Dossier.log before
    simp [dossier, JobStore.dossier, jobStore, appendLog, logLines, logLine, hjob, hresult,
      hlog]

theorem puts_appendLogs {job : Option Job} {result : Option Job.Result}
    {log : List Job.LogLine} (before : s.dossier id = ⟨job, result, some log⟩)
    (messages : List String) (now : Instant) :
    Puts id s (s.appendLogs id messages now)
      ⟨job, result,
        some (log ++ messages.map (fun message => logLine id message none now))⟩ := by
  induction messages generalizing s log with
  | nil =>
      rw [List.map_nil, List.append_nil]
      exact ⟨.refl id _, before⟩
  | cons message rest ih =>
      have head := puts_appendLog before message none now
      have tail := ih head.dossier
      rw [Option.getD_some, List.append_assoc] at tail
      exact head.trans tail

theorem recordResult_eq_ok {status : Job.Status} {output : Members} {completedAt : Instant}
    {written : Job.Result} {job : Option Job} {result : Option Job.Result}
    {log : Option (List Job.LogLine)} (before : s.dossier id = ⟨job, result, log⟩)
    (h : s.recordResult id status output completedAt = .ok (written, s')) :
    written = { jobId := id, status := status, output := output, completedAt := completedAt } ∧
      Puts id s s' ⟨job, some written, log⟩ := by
  unfold recordResult at h
  split at h
  · cases h
  · cases h
    exact ⟨rfl, puts_insertResult before _⟩

theorem recordResult_of_dossier {job : Option Job} {log : Option (List Job.LogLine)}
    (before : s.dossier id = ⟨job, none, log⟩) (status : Job.Status) (output : Members)
    (completedAt : Instant) :
    ∃ written s', s.recordResult id status output completedAt = .ok (written, s') := by
  have hresult : s.results.get? id = none := congrArg Dossier.result before
  simp [recordResult, Table.contains, hresult]

/-!
# Moving a row along
-/

theorem transition_eq_ok {next previous : Job.Status} {now : Instant} {job : Job}
    {result : Option Job.Result} {log : Option (List Job.LogLine)}
    (before : s.dossier id = ⟨some job, result, log⟩)
    (h : s.transition id next now = .ok (previous, s')) :
    Puts id s s' ⟨some { job with status := next, updatedAt := now }, result, log⟩ := by
  unfold transition at h
  rcases bind_eq_ok.mp h with ⟨found, hfound, h⟩
  cases eq_of_findJob before hfound
  split at h
  · cases pure_eq_ok.mp h
    exact puts_putJob before _
  · exact absurd h throw_ne_ok

theorem lockJob_eq_ok {agentId token : String} {expires : Instant}
    (h : s.lockJob id agentId token expires = .ok s') :
    ∃ job, s.jobs.get? id = some job ∧ job.status = .queued ∧
      ∀ {result log}, s.dossier id = ⟨some job, result, log⟩ →
        Puts id s s'
          ⟨some { job with lockedBy := some agentId, lockToken := some token
                           lockExpiresAt := some expires }, result, log⟩ := by
  unfold lockJob at h
  rcases bind_eq_ok.mp h with ⟨job, hjob, h⟩
  split at h
  · rename_i available
    cases pure_eq_ok.mp h
    exact ⟨job, findJob_eq_ok.mp hjob, available.1, fun before => puts_putJob before _⟩
  · exact absurd h throw_ne_ok

theorem unlockJob_eq_ok {token : String} {released : Bool} {job : Job}
    {result : Option Job.Result} {log : Option (List Job.LogLine)}
    (before : s.dossier id = ⟨some job, result, log⟩) (held : job.lockToken = some token)
    (h : s.unlockJob id token = .ok (released, s')) :
    Puts id s s' ⟨some job.release, result, log⟩ := by
  unfold unlockJob at h
  rcases bind_eq_ok.mp h with ⟨found, hfound, h⟩
  cases eq_of_findJob before hfound
  rw [if_pos held] at h
  cases pure_eq_ok.mp h
  exact puts_putJob before _

theorem extendLock_eq_ok {expiry extended now : Instant} {job : Job}
    {result : Option Job.Result} {log : Option (List Job.LogLine)}
    (before : s.dossier id = ⟨some job, result, log⟩)
    (h : s.extendLock id expiry now = .ok (extended, s')) :
    ∃ expires, job.lockExpiresAt = some expires ∧ expires ≤ extended ∧
      Puts id s s' ⟨some (job.extended extended now), result, log⟩ := by
  unfold extendLock at h
  rcases bind_eq_ok.mp h with ⟨found, hfound, h⟩
  cases eq_of_findJob before hfound
  split at h
  · split at h
    · rename_i expires hexpires
      split at h
      · cases pure_eq_ok.mp h
        exact ⟨expires, hexpires, Instant.le_later expires expiry, puts_putJob before _⟩
      · exact absurd h throw_ne_ok
    · exact absurd h throw_ne_ok
  · exact absurd h throw_ne_ok

/-!
# Steps on one job
-/

variable {agentId token : String} {now : Instant}

/-- A job that is leased was queued, and it is handed out as it stands afterwards. -/
theorem leaseJob_eq_ok {ttl : Int} {job : Job} (staged : s.jobStore.Staged)
    (h : s.leaseJob id agentId token ttl now = .ok (job, s')) :
    ∃ before line, before.status = .queued ∧ line.jobId = id ∧
      s.dossier id = ⟨some before, none, none⟩ ∧
      job = before.leased agentId token (now.addMillis ttl) now ∧
      Puts id s s' ⟨some job, none, some [line]⟩ := by
  unfold leaseJob at h
  rcases bind_eq_ok.mp h with ⟨s1, hlock, h⟩
  rcases bind_eq_ok.mp h with ⟨⟨status, s2⟩, hmove, h⟩
  rcases bind_eq_ok.mp h with ⟨found, hfound, h⟩
  cases pure_eq_ok.mp h
  rcases lockJob_eq_ok hlock with ⟨before, hget, queued, locked⟩
  have hbefore : s.dossier id = ⟨some before, none, none⟩ :=
    (staged id).of_queued hget queued
  have lock := locked hbefore
  have move := transition_eq_ok lock.dossier hmove
  have note := puts_appendLog move.dossier ("started by agent " ++ agentId) (some 0) now
  cases eq_of_findJob note.dossier hfound
  exact ⟨before, _, queued, rfl, hbefore, rfl, (lock.trans move).trans note⟩

theorem step_of_leaseJob (fresh : Fresh) {ttl : Int} {job : Job}
    (staged : s.jobStore.Staged)
    (h : s.leaseJob id agentId token ttl now = .ok (job, s')) :
    JobStore.Step fresh (.lease agentId) s.jobStore s'.jobStore := by
  rcases leaseJob_eq_ok staged h with ⟨before, line, queued, own, hbefore, hjob, puts⟩
  rw [hjob] at puts
  exact puts.step fresh hbefore (.lease queued own)

theorem step_of_cancelJob (fresh : Fresh) {job : Job} (staged : s.jobStore.Staged)
    (h : s.cancelJob id now = .ok (job, s')) :
    JobStore.Step fresh (.withdrawal id) s.jobStore s'.jobStore := by
  unfold cancelJob at h
  rcases bind_eq_ok.mp h with ⟨before, hjob, h⟩
  split at h
  · exact absurd h throw_ne_ok
  · split at h
    · exact absurd h throw_ne_ok
    · rename_i hqueued
      have queued : before.status = .queued := Decidable.of_not_not hqueued
      rcases bind_eq_ok.mp h with ⟨⟨status, s1⟩, hmove, h⟩
      rcases bind_eq_ok.mp h with ⟨found, _, h⟩
      cases pure_eq_ok.mp h
      have hbefore : s.dossier id = ⟨some before, none, none⟩ :=
        (staged id).of_queued (findJob_eq_ok.mp hjob) queued
      have move := transition_eq_ok hbefore hmove
      have note := puts_appendLog move.dossier withdrawalText none now
      exact (move.trans note).step fresh hbefore (.withdraw queued rfl rfl)

theorem hasLapsed_iff {job : Job} :
    job.hasLapsed now = true ↔
      job.status = .running ∧ ∃ expires, job.lockExpiresAt = some expires ∧
        expires ≤ now := by
  unfold Job.hasLapsed
  cases job.lockExpiresAt with
  | none => simp
  | some expires => simp

/-- What is left of a running job whose lease has lapsed: it has failed, and the agent that held
it is named in its result and at the end of its log. -/
inductive Reclaimed (id : String) (now : Instant) : Dossier → Dossier → Prop
  | lapsed {job : Job} {log : List Job.LogLine} {agentId : String} {expires : Instant}
      (status : job.status = .running) (holder : job.lockedBy = some agentId)
      (lease : job.lockExpiresAt = some expires) (lapsed : expires ≤ now) :
      Reclaimed id now ⟨some job, none, some log⟩
        { job := some (job.closed .failed now)
          result := some
            { jobId := id, status := .failed, completedAt := now
              output := .ofList [("reason", .text "lease_expired"), ("agent_id", .text agentId)] }
          log := some (log ++ [logLine id
            ("lease held by agent " ++ agentId ++ " expired; job failed") none now]) }

theorem Reclaimed.move {a b : Dossier} (reclaimed : Reclaimed id now a b) :
    Dossier.Move id (.lapse now) a b := by
  cases reclaimed with
  | lapsed status holder lease lapsed => exact .lapse status lease lapsed rfl rfl rfl

theorem Reclaimed.closes {a b : Dossier} {job : Job} (reclaimed : Reclaimed id now a b)
    (before : a.job = some job) : b.job = some (job.closed .failed now) := by
  cases reclaimed
  cases before
  rfl

theorem puts_reclaim {job : Job} (staged : s.jobStore.Staged)
    (hget : s.jobs.get? id = some job) (lapsed : job.hasLapsed now = true) :
    ∃ r, Puts id s (s.reclaim id now).2 r ∧ Reclaimed id now (s.dossier id) r := by
  rcases hasLapsed_iff.mp lapsed with ⟨running, expires, hexpires, hle⟩
  rcases (staged id).of_running hget running with ⟨leased, log, hdossier⟩
  rcases Option.isSome_iff_exists.mp leased.1 with ⟨agentId, holder⟩
  have hbefore : s.dossier id = ⟨some job, none, some log⟩ := hdossier
  unfold reclaim
  simp only [hget, holder, Option.getD_some]
  have close := puts_putJob hbefore (job.closed .failed now)
  have note := puts_appendLog close.dossier
    ("lease held by agent " ++ agentId ++ " expired; job failed") none now
  split
  · rename_i written s1 hresult
    rcases recordResult_eq_ok note.dossier hresult with ⟨rfl, result⟩
    refine ⟨_, (close.trans note).trans result, ?_⟩
    rw [hbefore]
    exact .lapsed running holder hexpires hle
  · rename_i e hresult
    rcases recordResult_of_dossier note.dossier .failed (lapseOutput agentId) now with
      ⟨_, _, hok⟩
    cases hok.symm.trans hresult

/-!
# Steps of reports
-/

theorem leaseToken_eq_ok (h : s.leaseToken agentId id = .ok token) :
    ∃ job, s.jobs.get? id = some job ∧ job.status = .running ∧
      job.lockedBy = some agentId ∧ token = job.lockToken.getD "" := by
  unfold leaseToken at h
  rcases bind_eq_ok.mp h with ⟨job, hjob, h⟩
  split at h
  · exact absurd h throw_ne_ok
  · rename_i running
    split at h
    · exact absurd h throw_ne_ok
    · rename_i holder
      exact ⟨job, findJob_eq_ok.mp hjob, Decidable.of_not_not running,
        Decidable.of_not_not holder, (pure_eq_ok.mp h).symm⟩

theorem leaseToken_of_held {job : Job} (found : s.jobs.get? id = some job)
    (running : job.status = .running) (holder : job.lockedBy = some agentId) :
    s.leaseToken agentId id = .ok (job.lockToken.getD "") := by
  unfold leaseToken
  rw [findJob_eq_ok.mpr found]
  show (if job.status ≠ .running then _ else if job.lockedBy ≠ some agentId then _ else _) = _
  rw [if_neg (not_not.mpr running), if_neg (not_not.mpr holder)]
  rfl

theorem checkJobId_eq_ok {inBody : String} : checkJobId inBody id = .ok () ↔ inBody = id := by
  simp [checkJobId]

theorem lockToken_of_leased {job : Job} (leased : job.IsLeased) :
    job.lockToken = some (job.lockToken.getD "") := by
  rcases Option.isSome_iff_exists.mp leased.2.1 with ⟨token, held⟩
  rw [held]
  rfl

theorem checkToken_of_right {job : Job} {echoed : Option String} (leased : job.IsLeased)
    (right : echoed = none ∨ echoed = job.lockToken) :
    checkToken id (job.lockToken.getD "") echoed = .ok () := by
  rcases right with rfl | rfl
  · rfl
  · rw [lockToken_of_leased leased]
    exact if_pos rfl

theorem checkToken_of_wrong {job : Job} {echoed : Option String} (leased : job.IsLeased)
    (given : echoed.isSome) (wrong : echoed ≠ job.lockToken) :
    checkToken id (job.lockToken.getD "") echoed = .error (.tokenMismatch id) := by
  rcases Option.isSome_iff_exists.mp given with ⟨token, rfl⟩
  refine if_neg fun same => wrong ?_
  rw [same, ← lockToken_of_leased leased]

def finishLines (id : String) (status : Job.Status) (report : ResultReport) (cap : Nat)
    (now : Instant) : List Job.LogLine :=
  (Report.outputLines report.output cap).map (fun message => logLine id message none now) ++
    [logLine id ("finished: " ++ status.word) (some 100) now]

theorem jobId_of_mem_finishLines {status : Job.Status} {report : ResultReport} {cap : Nat}
    {line : Job.LogLine} (h : line ∈ finishLines id status report cap now) : line.jobId = id := by
  rcases List.mem_append.mp h with output | last
  · rcases List.mem_map.mp output with ⟨message, _, rfl⟩
    rfl
  · rw [List.mem_singleton.mp last]
    rfl

theorem finishJob_eq_ok {status : Job.Status} {report : ResultReport} {cap : Nat}
    {job finished : Job} {result : Job.Result} {log : List Job.LogLine}
    (before : s.dossier id = ⟨some job, none, some log⟩) (held : job.lockToken = some token)
    (h : s.finishJob id token status report cap now = .ok (finished, result, s')) :
    finished = job.closed status now ∧
      result = { jobId := id, status := status, output := report.output
                 completedAt := report.completedAt.getD now } ∧
      Puts id s s' ⟨some finished, some result,
        some (log ++ finishLines id status report cap now)⟩ := by
  unfold finishJob at h
  rcases bind_eq_ok.mp h with ⟨⟨written, s2⟩, hresult, h⟩
  rcases bind_eq_ok.mp h with ⟨⟨previous, s3⟩, hmove, h⟩
  rcases bind_eq_ok.mp h with ⟨⟨released, s4⟩, hunlock, h⟩
  rcases bind_eq_ok.mp h with ⟨found, hfound, h⟩
  cases pure_eq_ok.mp h
  have output := puts_appendLogs before (Report.outputLines report.output cap) now
  rcases recordResult_eq_ok output.dossier hresult with ⟨rfl, dossier⟩
  have move := transition_eq_ok dossier.dossier hmove
  have unlock := unlockJob_eq_ok move.dossier held hunlock
  have note := puts_appendLog unlock.dossier ("finished: " ++ status.word) (some 100) now
  rw [Option.getD_some, List.append_assoc] at note
  cases eq_of_findJob note.dossier hfound
  exact ⟨rfl, rfl, (((output.trans dossier).trans move).trans unlock).trans note⟩

theorem step_of_submitLogs (fresh : Fresh) {report : LogReport} {policy : ReportPolicy}
    {expires : Instant} (staged : s.jobStore.Staged)
    (h : s.submitLogs agentId id report policy now = .ok (expires, s')) :
    JobStore.Step fresh (.progress agentId id) s.jobStore s'.jobStore := by
  unfold submitLogs at h
  rcases bind_eq_ok.mp h with ⟨_, _, h⟩
  rcases bind_eq_ok.mp h with ⟨token, htoken, h⟩
  rcases bind_eq_ok.mp h with ⟨_, _, h⟩
  rcases bind_eq_ok.mp h with ⟨⟨extended, s1⟩, hextend, h⟩
  cases pure_eq_ok.mp h
  rcases leaseToken_eq_ok htoken with ⟨job, hget, running, holder, _⟩
  rcases (staged id).of_running hget running with ⟨_, log, hbefore⟩
  rcases extendLock_eq_ok hbefore hextend with ⟨before, hlease, later, extend⟩
  have own : ∀ line ∈ (Report.logLines report policy.maxLogLines).map
      (fun message => logLine id message none now), line.jobId = id := by
    intro line hline
    rcases List.mem_map.mp hline with ⟨message, _, rfl⟩
    rfl
  cases hhead : Report.headLine? report with
  | none =>
      have lines := puts_appendLogs extend.dossier
        (Report.logLines report policy.maxLogLines) now
      exact (extend.trans lines).step fresh hbefore (.progress running holder hlease later own)
  | some head =>
      rcases head with ⟨message, progress⟩
      have note := puts_appendLog extend.dossier message progress now
      have lines := puts_appendLogs note.dossier (Report.logLines report policy.maxLogLines) now
      rw [Option.getD_some, List.append_assoc] at lines
      refine ((extend.trans note).trans lines).step fresh hbefore
        (.progress running holder hlease later ?_)
      intro line hline
      rcases List.mem_append.mp hline with hline | hline
      · rw [List.mem_singleton.mp hline]
        rfl
      · exact own line hline

end State
end FleetControl
