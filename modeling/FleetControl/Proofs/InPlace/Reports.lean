import FleetControl.Proofs.InPlace.Events
import FleetControl.Proofs.InPlace.Jobs
import FleetControl.State.Reports

/-!
# Reports in place

The result of a job is taken in with many writes, most of which could be refused by
themselves: a second result, a status out of order, a job that is gone.  When they are made,
the checks before the first of them have ruled all of that out.
-/

namespace FleetControl
namespace InPlace

open Refusal
open Time

def finishJob (jobId token : String) (status : Job.Status) (report : ResultReport)
    (maxLogLines : Nat) (now : Instant) : InPlace State (Job × Job.Result) := do
  appendLogs jobId now (Report.outputLines report.output maxLogLines)
  let result ← recordResult jobId status report.output (report.completedAt.getD now)
  let _ ← transition jobId status now
  let _ ← unlockJob jobId token
  appendLog jobId ("finished: " ++ status.word) (some 100) now
  let job ← findJob jobId
  return (job, result)

def submitResult (fresh : Fresh) (agentId jobId : String) (report : ResultReport)
    (policy : ReportPolicy) (now : Instant) : InPlace State Reported := do
  let token ← look (fun s => s.leaseToken agentId jobId)
  look (fun _ => State.checkJobId report.jobId jobId)
  match Job.Status.reported? report.status with
  | none => throw (.unknownResultStatus report.status)
  | some status => do
      look (fun _ => State.checkToken jobId token report.lockToken)
      check (fun s => s.results.contains jobId) (.alreadyHasResult jobId)
      check (fun _ => !Job.Status.running.canBecome status) (.illegalTransition .running status)
      let (job, result) ← finishJob jobId token status report policy.maxLogLines now
      let (followUp, skipped) ← applyEvents fresh policy.thresholds now
        (State.eventsOf policy.registry job result)
      return { job := job, result := result, followUp := followUp, skipped := skipped }

def submitLogs (agentId jobId : String) (report : LogReport) (policy : ReportPolicy)
    (now : Instant) : InPlace State Instant := do
  look (fun _ => State.checkJobId report.jobId jobId)
  let token ← look (fun s => s.leaseToken agentId jobId)
  look (fun _ => State.checkToken jobId token report.lockToken)
  let expires ← extendLock jobId (now.addSeconds policy.leaseSeconds) now
  match Report.headLine? report with
  | some (message, progress) => appendLog jobId message progress now
  | none => pure ()
  appendLogs jobId now (Report.logLines report policy.maxLogLines)
  return expires

/-!
# Lapsed leases
-/

/-- A result that is there already stays, and the job is failed all the same. -/
def reclaim (jobId : String) (now : Instant) : InPlace State (Option Job) := do
  match ← look (fun s => .ok (s.jobs.get? jobId)) with
  | none => return none
  | some job => do
      let holder := job.lockedBy.getD ""
      let failed := { job.release with status := .failed, updatedAt := now }
      write (fun s => s.putJob jobId failed)
      appendLog jobId ("lease held by agent " ++ holder ++ " expired; job failed") none now
      let _ ← attempt (recordResult jobId .failed (State.lapseOutput holder) now)
      return some failed

def reclaimAll (now : Instant) : List String → InPlace State (List Job)
  | [] => return []
  | jobId :: rest => do
      let job ← reclaim jobId now
      let jobs ← reclaimAll now rest
      return job.toList ++ jobs

def expireStale (now : Instant) : InPlace State (List Job) := do
  let ids ← look (fun s => .ok (s.lapsedIds now))
  reclaimAll now ids

theorem on_appendLogs (jobId : String) (now : Instant) (messages : List String) (s : State) :
    on (appendLogs jobId now messages) s = (.ok (), s.appendLogs jobId messages now) := by
  induction messages generalizing s with
  | nil => rfl
  | cons message rest ih =>
      rw [appendLogs, on_bind, appendLog, on_write]
      exact ih _

theorem on_reclaim (jobId : String) (now : Instant) (s : State) :
    on (reclaim jobId now) s = (.ok (s.reclaim jobId now).1, (s.reclaim jobId now).2) := by
  rw [reclaim, on_bind, on_look, State.reclaim]
  cases s.jobs.get? jobId with
  | none => rfl
  | some job =>
      dsimp only
      rw [on_bind, on_write]
      dsimp only
      rw [on_bind, appendLog, on_write]
      dsimp only
      rw [on_bind, (settles_recordResult jobId .failed _ now).on_attempt]
      cases State.recordResult _ jobId .failed (State.lapseOutput (job.lockedBy.getD "")) now with
      | error e => rfl
      | ok r => rfl

theorem on_reclaimAll (now : Instant) (ids : List String) (s : State) :
    on (reclaimAll now ids) s = (.ok (s.reclaimAll now ids).1, (s.reclaimAll now ids).2) := by
  induction ids generalizing s with
  | nil => rfl
  | cons jobId rest ih =>
      rw [reclaimAll, on_bind, on_reclaim]
      dsimp only
      rw [on_bind, ih]
      rfl

theorem on_expireStale (now : Instant) (s : State) :
    on (expireStale now) s = (.ok (s.expireStale now).1, (s.expireStale now).2) :=
  on_reclaimAll now (s.lapsedIds now) s

/-!
# Results
-/

variable {s s' : State} {jobId : String}

theorem jobs_appendLogs (s : State) (jobId : String) (messages : List String) (now : Instant) :
    (s.appendLogs jobId messages now).jobs = s.jobs ∧
      (s.appendLogs jobId messages now).results = s.results := by
  induction messages generalizing s with
  | nil => exact ⟨rfl, rfl⟩
  | cons message rest ih => exact ih (s.appendLog jobId message none now)

theorem running_canBecome_iff (status : Job.Status) :
    Job.Status.running.canBecome status = status.isTerminal := by
  cases status <;> rfl

theorem unlockJob_of_found (token : String) {job : Job} (found : s.findJob jobId = .ok job) :
    ∃ held after, s.unlockJob jobId token = .ok (held, after) ∧
      ∃ job, after.findJob jobId = .ok job := by
  unfold State.unlockJob
  rw [found]
  by_cases held : job.lockToken = some token
  · exact ⟨true, s.putJob jobId job.release, if_pos held, _, findJob_putJob _ _ _⟩
  · exact ⟨false, s, if_neg held, job, found⟩

theorem finishJob_of_running (token : String) {status : Job.Status} {job : Job}
    (report : ResultReport) (cap : Nat) (now : Instant) (found : s.findJob jobId = .ok job)
    (running : job.status = .running) (open_ : ¬ s.results.contains jobId = true)
    (terminal : status.isTerminal = true) :
    ∃ finished result s', s.finishJob jobId token status report cap now =
        .ok (finished, result, s') ∧
      on (finishJob jobId token status report cap now) s = (.ok (finished, result), s') := by
  rcases jobs_appendLogs s jobId (Report.outputLines report.output cap) now with ⟨jobs, results⟩
  generalize noted : s.appendLogs jobId (Report.outputLines report.output cap) now = s1
    at jobs results
  have recorded : ∃ result s2, s1.recordResult jobId status report.output
      (report.completedAt.getD now) = .ok (result, s2) ∧ s2.jobs = s1.jobs := by
    refine ⟨_, _, if_neg ?_, rfl⟩
    rw [results]
    exact open_
  rcases recorded with ⟨result, s2, recorded, jobs2⟩
  have found2 : s2.findJob jobId = .ok job := by
    rw [State.findJob_eq_ok, jobs2, jobs]
    exact State.findJob_eq_ok.mp found
  have moved := transition_of_canBecome status now found2
    (by rw [running, running_canBecome_iff, terminal])
  rcases findJob_of_transition moved with ⟨job3, found3⟩
  rcases unlockJob_of_found token found3 with ⟨held, s4, unlocked, job4, found4⟩
  have found5 : (s4.appendLog jobId ("finished: " ++ status.word) (some 100) now).findJob jobId =
      .ok job4 := found4
  refine ⟨job4, result, s4.appendLog jobId ("finished: " ++ status.word) (some 100) now, ?_, ?_⟩
  · unfold State.finishJob
    rw [noted]
    exact bind_eq_ok.mpr ⟨_, recorded, bind_eq_ok.mpr ⟨_, moved, bind_eq_ok.mpr ⟨_, unlocked,
      bind_eq_ok.mpr ⟨_, found5, rfl⟩⟩⟩⟩
  · rw [finishJob, on_bind, on_appendLogs, noted]
    dsimp only
    rw [on_bind_of_ok ((settles_recordResult _ _ _ _).on_of_ok recorded),
      on_bind_of_ok ((settles_transition _ _ _).on_of_ok moved),
      on_bind_of_ok ((settles_unlockJob _ _).on_of_ok unlocked), on_bind, appendLog, on_write]
    dsimp only
    rw [on_bind, findJob, on_look, found5]
    rfl

theorem settles_submitResult (fresh : Fresh) (agentId jobId : String) (report : ResultReport)
    (policy : ReportPolicy) (now : Instant) :
    Settles (submitResult fresh agentId jobId report policy now)
      (fun s => s.submitResult fresh agentId jobId report policy now) := by
  intro s
  refine on_look_bind fun token lease => on_look_bind fun _ _ => ?_
  rcases State.leaseToken_eq_ok lease with ⟨job, found, running, -⟩
  cases reported : Job.Status.reported? report.status with
  | none => rfl
  | some status =>
      have terminal := Job.Status.isTerminal_of_reported? reported
      refine on_look_bind fun _ _ => ?_
      refine on_check_bind fun open_ => ?_
      rcases finishJob_of_running token report policy.maxLogLines now
        (State.findJob_eq_ok.mpr found) running open_ terminal with
        ⟨finished, result, s', done, inPlace⟩
      rw [on_check_of_not (by simp [running_canBecome_iff, terminal]), on_bind_of_ok inPlace,
        done, on_bind, on_applyEvents]
      rfl

theorem settles_submitLogs (agentId jobId : String) (report : LogReport)
    (policy : ReportPolicy) (now : Instant) :
    Settles (submitLogs agentId jobId report policy now)
      (fun s => s.submitLogs agentId jobId report policy now) := by
  refine settles_look fun _ => settles_look fun token => settles_look fun _ => ?_
  intro s
  have extend := settles_extendLock jobId (now.addSeconds policy.leaseSeconds) now
  dsimp only
  cases extended : s.extendLock jobId (now.addSeconds policy.leaseSeconds) now with
  | error e => exact on_bind_of_error (extend.on_of_error extended)
  | ok r =>
      rw [on_bind_of_ok (extend.on_of_ok extended)]
      cases head : Report.headLine? report with
      | none =>
          dsimp only
          rw [on_bind, on_appendLogs]
          rfl
      | some line =>
          dsimp only
          rw [on_bind, appendLog, on_write]
          dsimp only
          rw [on_bind, on_appendLogs]
          rfl

end InPlace
end FleetControl
