import FleetControl.Proofs.InPlace.Basic
import FleetControl.Proofs.JobStore.Writes

/-!
# Jobs in place

The operations on one job, write by write.  Those of one write do their checks before it.
Leasing and cancelling a job check again between their writes, and there is nothing left
that these checks could find.
-/

namespace FleetControl
namespace InPlace

open Refusal
open Time

def findJob (jobId : String) : InPlace State Job :=
  look (fun s => s.findJob jobId)

def appendLog (jobId message : String) (progress : Option UInt8) (now : Instant) :
    InPlace State Unit :=
  write (fun s => s.appendLog jobId message progress now)

def appendLogs (jobId : String) (now : Instant) : List String → InPlace State Unit
  | [] => pure ()
  | message :: rest => do
      appendLog jobId message none now
      appendLogs jobId now rest

def createJob (fresh : Fresh) (order : Job.Order) (now : Instant) : InPlace State Job :=
  match State.jobType? order.type with
  | none => throw (.badJobType order.type)
  | some type =>
      match Job.Work.decode type order.payload with
      | .error flaw => throw (.badPayload flaw)
      | .ok _ => take (fun s => s.insertJob fresh type order.payload order.createdBy now)

def transition (jobId : String) (next : Job.Status) (now : Instant) :
    InPlace State Job.Status := do
  let job ← findJob jobId
  if job.status.canBecome next then do
    write (fun s => s.putJob jobId { job with status := next, updatedAt := now })
    return job.status
  else throw (.illegalTransition job.status next)

def lockJob (jobId agentId token : String) (expires : Instant) : InPlace State Unit := do
  let job ← findJob jobId
  if job.status = .queued ∧ !job.isLocked then do
    write (fun s => s.putJob jobId
      { job with lockedBy := some agentId, lockToken := some token
                 lockExpiresAt := some expires })
    return ()
  else throw (.notLeasable jobId)

def unlockJob (jobId token : String) : InPlace State Bool := do
  let job ← findJob jobId
  if job.lockToken = some token then do
    write (fun s => s.putJob jobId job.release)
    return true
  else return false

def extendLock (jobId : String) (expiry now : Instant) : InPlace State Instant := do
  let job ← findJob jobId
  if job.status = .running then
    match job.lockExpiresAt with
    | some expires =>
        if now < expires then do
          write (fun s => s.putJob jobId
            { job with lockExpiresAt := some (expires.later expiry), updatedAt := now })
          return expires.later expiry
        else throw (.leaseExpired jobId)
    | none => throw (.leaseExpired jobId)
  else throw (.notRunning jobId job.status)

def moveAndNote (jobId : String) (next : Job.Status) (message : String)
    (progress : Option UInt8) (now : Instant) : InPlace State Job := do
  let _ ← transition jobId next now
  appendLog jobId message progress now
  findJob jobId

def leaseJob (jobId agentId token : String) (ttlMillis : Int) (now : Instant) :
    InPlace State Job := do
  lockJob jobId agentId token (now.addMillis ttlMillis)
  moveAndNote jobId .running ("started by agent " ++ agentId) (some 0) now

def cancelJob (jobId : String) (now : Instant) : InPlace State Job := do
  let job ← findJob jobId
  if job.status = .running then throw (.alreadyRunning jobId)
  else if job.status ≠ .queued then throw (.illegalTransition job.status .cancelled)
  else moveAndNote jobId .cancelled "cancelled before dispatch" none now

def recordResult (jobId : String) (status : Job.Status) (output : Members)
    (completedAt : Instant) : InPlace State Job.Result := do
  check (fun s => s.results.contains jobId) (.alreadyHasResult jobId)
  let result : Job.Result :=
    { jobId := jobId, status := status, output := output, completedAt := completedAt }
  write (fun s => { s with results := s.results.insert jobId result })
  return result

/-!
# Checks before the write
-/

theorem settles_createJob (fresh : Fresh) (order : Job.Order) (now : Instant) :
    Settles (createJob fresh order now) (fun s => s.createJob fresh order now) := by
  unfold createJob State.createJob
  cases State.jobType? order.type with
  | none => exact settles_throw _
  | some type =>
      dsimp only
      cases Job.Work.decode type order.payload with
      | error flaw => exact settles_throw _
      | ok work => exact settles_take _

theorem settles_transition (jobId : String) (next : Job.Status) (now : Instant) :
    Settles (transition jobId next now) (fun s => s.transition jobId next now) :=
  settles_look fun _ => settles_ite (fun _ => settles_write _ _) (fun _ => settles_throw _)

theorem settles_lockJob (jobId agentId token : String) (expires : Instant) :
    Settles (lockJob jobId agentId token expires)
      (fun s => (s.lockJob jobId agentId token expires).map (fun s' => ((), s'))) := by
  intro s
  unfold lockJob findJob State.lockJob
  rw [on_bind, on_look]
  dsimp only
  cases s.findJob jobId with
  | error e => rfl
  | ok job =>
      show on (if _ then _ else _) s = settle (Except.map _ (if _ then _ else _)) s
      by_cases free : job.status = .queued ∧ !job.isLocked
      · rw [if_pos free, if_pos free]
        rfl
      · rw [if_neg free, if_neg free]
        rfl

theorem settles_unlockJob (jobId token : String) :
    Settles (unlockJob jobId token) (fun s => s.unlockJob jobId token) :=
  settles_look fun _ => settles_ite (fun _ => settles_write _ _) (fun _ => settles_pure _)

theorem settles_extendLock (jobId : String) (expiry now : Instant) :
    Settles (extendLock jobId expiry now) (fun s => s.extendLock jobId expiry now) := by
  refine settles_look fun job => settles_ite (fun _ => ?_) (fun _ => settles_throw _)
  cases job.lockExpiresAt with
  | none => exact settles_throw _
  | some expires =>
      exact settles_ite (fun _ => settles_write _ _) (fun _ => settles_throw _)

theorem settles_recordResult (jobId : String) (status : Job.Status) (output : Members)
    (completedAt : Instant) :
    Settles (recordResult jobId status output completedAt)
      (fun s => s.recordResult jobId status output completedAt) :=
  settles_check (settles_write _ _)

/-!
# Checks between writes
-/

variable {s s' : State} {jobId : String}

theorem findJob_putJob (s : State) (jobId : String) (job : Job) :
    (s.putJob jobId job).findJob jobId = .ok job := by
  rw [State.findJob_eq_ok, State.putJob, Table.get?_insert, if_pos rfl]

theorem transition_of_canBecome {job : Job} (next : Job.Status) (now : Instant)
    (found : s.findJob jobId = .ok job) (can : job.status.canBecome next = true) :
    s.transition jobId next now =
      .ok (job.status, s.putJob jobId { job with status := next, updatedAt := now }) := by
  unfold State.transition
  rw [found]
  exact if_pos can

theorem findJob_of_transition {next before : Job.Status} {now : Instant}
    (h : s.transition jobId next now = .ok (before, s')) :
    ∃ job, s'.findJob jobId = .ok job := by
  unfold State.transition at h
  rcases bind_eq_ok.mp h with ⟨job, _, h⟩
  split at h
  · cases pure_eq_ok.mp h
    exact ⟨_, findJob_putJob _ _ _⟩
  · exact absurd h throw_ne_ok

theorem lockJob_available {agentId token : String} {expires : Instant}
    (h : s.lockJob jobId agentId token expires = .ok s') :
    ∃ job, s'.findJob jobId = .ok job ∧ job.status = .queued := by
  unfold State.lockJob at h
  rcases bind_eq_ok.mp h with ⟨job, _, h⟩
  split at h
  · rename_i free
    cases pure_eq_ok.mp h
    exact ⟨_, findJob_putJob _ _ _, free.1⟩
  · exact absurd h throw_ne_ok

def moved (jobId : String) (next : Job.Status) (message : String) (progress : Option UInt8)
    (now : Instant) (s : State) : Except Error (Job × State) := do
  let (_, s) ← s.transition jobId next now
  let s := s.appendLog jobId message progress now
  let job ← s.findJob jobId
  return (job, s)

/-- Once a job has moved, nothing can go wrong. -/
theorem moved_of_transition {next before : Job.Status} {now : Instant} (message : String)
    (progress : Option UInt8)
    (h : s.transition jobId next now = .ok (before, s')) :
    ∃ job, (s'.appendLog jobId message progress now).findJob jobId = .ok job ∧
      moved jobId next message progress now s =
        .ok (job, s'.appendLog jobId message progress now) := by
  rcases findJob_of_transition h with ⟨job, found⟩
  refine ⟨job, found, ?_⟩
  unfold moved
  rw [h]
  show (s'.appendLog jobId message progress now).findJob jobId >>= _ = _
  rw [show (s'.appendLog jobId message progress now).findJob jobId = .ok job from found]
  rfl

theorem settles_moveAndNote (jobId : String) (next : Job.Status) (message : String)
    (progress : Option UInt8) (now : Instant) :
    Settles (moveAndNote jobId next message progress now)
      (moved jobId next message progress now) := by
  intro s
  have move := settles_transition jobId next now
  cases transitioned : s.transition jobId next now with
  | error e =>
      have refused : moved jobId next message progress now s = .error e := by
        rw [moved, transitioned]
        rfl
      rw [refused]
      exact on_bind_of_error (move.on_of_error transitioned)
  | ok r =>
      rcases moved_of_transition message progress transitioned with
        ⟨job, found, done⟩
      rw [done, moveAndNote, on_bind_of_ok (move.on_of_ok transitioned), on_bind, appendLog,
        on_write, findJob]
      exact congrArg (fun r => (r, _)) found

theorem settles_leaseJob (jobId agentId token : String) (ttlMillis : Int) (now : Instant) :
    Settles (leaseJob jobId agentId token ttlMillis now)
      (fun s => s.leaseJob jobId agentId token ttlMillis now) := by
  intro s
  have lock := settles_lockJob jobId agentId token (now.addMillis ttlMillis)
  have same : s.leaseJob jobId agentId token ttlMillis now =
      s.lockJob jobId agentId token (now.addMillis ttlMillis) >>=
        moved jobId .running ("started by agent " ++ agentId) (some 0) now := rfl
  dsimp only
  rw [same, leaseJob]
  cases locked : s.lockJob jobId agentId token (now.addMillis ttlMillis) with
  | error e => exact on_bind_of_error (lock.on_of_error (congrArg (Except.map _) locked))
  | ok s1 =>
      rcases lockJob_available locked with ⟨job, found, queued⟩
      have started := transition_of_canBecome .running now found (by rw [queued]; rfl)
      rcases moved_of_transition _ _ started with ⟨after, _, done⟩
      rw [on_bind_of_ok (lock.on_of_ok (congrArg (Except.map _) locked))]
      refine ((settles_moveAndNote _ _ _ _ _).on_of_ok done).trans ?_
      show _ = settle (moved jobId .running _ _ now s1) s
      rw [done]
      rfl

theorem settles_cancelJob (jobId : String) (now : Instant) :
    Settles (cancelJob jobId now) (fun s => s.cancelJob jobId now) :=
  settles_look fun _ => settles_ite (fun _ => settles_throw _) fun _ =>
    settles_ite (fun _ => settles_throw _) (fun _ => settles_moveAndNote _ _ _ _ _)

end InPlace
end FleetControl
