import FleetControl.State.Basic

/-!
# Jobs in the state

Creating jobs, leasing them to agents, moving them along their lifecycle, and
keeping their logs and results.
-/

namespace FleetControl
namespace State

open Time

/-!
# Creating
-/

/-- Enqueue a job whose payload is known to have a meaning. -/
def insertJob (s : State) (fresh : Fresh) (type : String) (payload : Payload)
    (createdBy : Option String) (now : Instant) : Job × State :=
  let seq := s.lastSeq + 1
  let job : Job :=
    { id := fresh.job seq
      type := type
      payload := payload
      status := .queued
      lockedBy := none
      lockToken := none
      lockExpiresAt := none
      createdAt := now
      updatedAt := now
      seq := seq
      createdBy := createdBy }
  (job, { s with lastSeq := seq, jobs := s.jobs.insert job.id job })

/-- The type of a job without blanks around it, if it is a type. -/
def jobType? (type : String) : Option String :=
  let trimmed := Text.trim type
  if trimmed.isEmpty || trimmed.toList.any Text.isBlank then none else some trimmed

def createJob (s : State) (fresh : Fresh) (order : Job.Order) (now : Instant) :
    Except Error (Job × State) :=
  match jobType? order.type with
  | none => .error (.badJobType order.type)
  | some type =>
      match Job.Work.decode type order.payload with
      | .error flaw => .error (.badPayload flaw)
      | .ok _ => .ok (s.insertJob fresh type order.payload order.createdBy now)

/-!
# One job
-/

def findJob (s : State) (jobId : String) : Except Error Job :=
  find s.jobs .job jobId

def putJob (s : State) (jobId : String) (job : Job) : State :=
  { s with jobs := s.jobs.insert jobId job }

def logLines (s : State) (jobId : String) : List Job.LogLine :=
  (s.logs.get? jobId).getD []

def appendLog (s : State) (jobId message : String) (progress : Option UInt8)
    (now : Instant) : State :=
  let line : Job.LogLine :=
    { jobId := jobId
      message := message
      progress := progress.map (fun p => min p 100)
      createdAt := now }
  { s with logs := s.logs.insert jobId (s.logLines jobId ++ [line]) }

def appendLogs (s : State) (jobId : String) (messages : List String) (now : Instant) : State :=
  messages.foldl (fun s message => s.appendLog jobId message none now) s

/-- Move a job along its lifecycle; the result is the status before. -/
def transition (s : State) (jobId : String) (next : Job.Status) (now : Instant) :
    Except Error (Job.Status × State) := do
  let job ← s.findJob jobId
  if job.status.canBecome next then
    return (job.status, s.putJob jobId { job with status := next, updatedAt := now })
  else throw (.illegalTransition job.status next)

/-!
# The lease
-/

/-- Lock a queued job that nobody holds. -/
def lockJob (s : State) (jobId agentId token : String) (expires : Instant) :
    Except Error State := do
  let job ← s.findJob jobId
  if job.status = .queued ∧ !job.isLocked then
    return s.putJob jobId
      { job with lockedBy := some agentId, lockToken := some token
                 lockExpiresAt := some expires }
  else throw (.notLeasable jobId)

/-- Give a lock back if it is held under this token; tells whether it was. -/
def unlockJob (s : State) (jobId token : String) : Except Error (Bool × State) := do
  let job ← s.findJob jobId
  if job.lockToken = some token then return (true, s.putJob jobId job.release)
  else return (false, s)

/-- Push the end of a lease forward, as long as it has not come. -/
def extendLock (s : State) (jobId : String) (expiry now : Instant) :
    Except Error (Instant × State) := do
  let job ← s.findJob jobId
  if job.status = .running then
    match job.lockExpiresAt with
    | some expires =>
        if now < expires then
          let extended := expires.later expiry
          return (extended,
            s.putJob jobId { job with lockExpiresAt := some extended, updatedAt := now })
        else throw (.leaseExpired jobId)
    | none => throw (.leaseExpired jobId)
  else throw (.notRunning jobId job.status)

/-- Lock a job, start it, and note the start in its log. -/
def leaseJob (s : State) (jobId agentId token : String) (ttlMillis : Int) (now : Instant) :
    Except Error (Job × State) := do
  let s ← s.lockJob jobId agentId token (now.addMillis ttlMillis)
  let (_, s) ← s.transition jobId .running now
  let s := s.appendLog jobId ("started by agent " ++ agentId) (some 0) now
  let job ← s.findJob jobId
  return (job, s)

/-- Withdraw a job that is still queued. -/
def cancelJob (s : State) (jobId : String) (now : Instant) : Except Error (Job × State) := do
  let job ← s.findJob jobId
  if job.status = .running then throw (.alreadyRunning jobId)
  else if job.status ≠ .queued then throw (.illegalTransition job.status .cancelled)
  else
    let (_, s) ← s.transition jobId .cancelled now
    let s := s.appendLog jobId "cancelled before dispatch" none now
    let job ← s.findJob jobId
    return (job, s)

/-- Write the one result that a job ever gets. -/
def recordResult (s : State) (jobId : String) (status : Job.Status) (output : Members)
    (completedAt : Instant) : Except Error (Job.Result × State) :=
  if s.results.contains jobId then .error (.alreadyHasResult jobId)
  else
    let result : Job.Result :=
      { jobId := jobId, status := status, output := output, completedAt := completedAt }
    .ok (result, { s with results := s.results.insert jobId result })

/-!
# Lapsed leases
-/

def lapseOutput (holder : String) : Members :=
  (Table.empty.insert "reason" (.text "lease_expired")).insert "agent_id" (.text holder)

/-- Fail a running job whose lease has lapsed, and leave a trace of it. -/
def reclaim (s : State) (jobId : String) (now : Instant) : Option Job × State :=
  match s.jobs.get? jobId with
  | none => (none, s)
  | some job =>
      let holder := job.lockedBy.getD ""
      let failed := { job.release with status := .failed, updatedAt := now }
      let s := (s.putJob jobId failed).appendLog jobId
        ("lease held by agent " ++ holder ++ " expired; job failed") none now
      match s.recordResult jobId .failed (lapseOutput holder) now with
      | .ok (_, s) => (some failed, s)
      | .error _ => (some failed, s)

def reclaimAll (s : State) (now : Instant) : List String → List Job × State
  | [] => ([], s)
  | jobId :: rest =>
      let (job, s) := s.reclaim jobId now
      let (jobs, s) := s.reclaimAll now rest
      (job.toList ++ jobs, s)

def lapsedIds (s : State) (now : Instant) : List String :=
  (s.jobs.values.filter (fun job => job.hasLapsed now)).map Job.id

/-- Reclaim every running job whose lease has lapsed. -/
def expireStale (s : State) (now : Instant) : List Job × State :=
  s.reclaimAll now (s.lapsedIds now)

/-!
# Views of the queue
-/

def runningFor (s : State) (agentId : String) : List Job :=
  s.jobs.values.filter (fun job => job.runsOn agentId)

def runningUpdatesFor (s : State) (agentId : String) : Nat :=
  ((s.runningFor agentId).filter (fun job => Job.isUpdate job.type)).length

/-- Older jobs come first; of jobs of one instant the one created first. -/
def queueOrder (a b : Job) : Bool :=
  decide (a.createdAt < b.createdAt) ||
    (decide (a.createdAt = b.createdAt) && decide (a.seq ≤ b.seq))

def queuedIds (s : State) : List String :=
  ((s.jobs.values.filter (fun job => job.status = .queued)).mergeSort queueOrder).map Job.id

/-- A queued or running job of this type has this value in a payload field. -/
def hasPending (s : State) (type key value : String) : Bool :=
  s.jobs.values.any (fun job =>
    job.isPending && job.type = type && job.payload.get? key = some value)

end State
end FleetControl
