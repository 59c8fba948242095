import FleetControl.Effect.Registry
import FleetControl.State.Effects

/-!
# Reports of agents

An agent that holds a job reports progress, which keeps its lease alive, and at
last the result.  Text in a report becomes log lines, of which the last ones are
kept.
-/

namespace FleetControl

open Time

/-- The result of a job as an agent reports it. -/
structure ResultReport where
  jobId : String
  status : String
  completedAt : Option Instant
  output : Members
  lockToken : Option String

/-- The progress of a job as an agent reports it. -/
structure LogReport where
  jobId : String
  progress : Option Int
  message : Option String
  stdout : Option String
  stderr : Option String
  /-- A text, or a list of texts. -/
  logs : Option Value
  lockToken : Option String

structure ReportPolicy where
  registry : Effect.Registry Effect.Handler
  thresholds : Inventory.DiskThresholds
  maxLogLines : Nat
  leaseSeconds : Int

structure Reported where
  job : Job
  result : Job.Result
  followUp : FollowUp
  /-- Events that could not be applied. -/
  skipped : Nat

/-!
# Log lines
-/

namespace Report

open Text

def lastOf (cap : Nat) (lines : List String) : List String :=
  lines.drop (lines.length - cap)

/-- The trimmed lines of texts that are not blank, at most the last `cap`. -/
def collectLines (texts : List String) (cap : Nat) : List String :=
  lastOf cap (((texts.flatMap (fun s => (lineChars s.toList).map trimChars)).filter
    (fun line => !line.isEmpty)).map String.ofList)

def itemText? : Json → Option String
  | .text s => some s
  | .object fields =>
      match fields.lookup "message" with
      | some (.text s) => some s
      | _ => none
  | _ => none

/-- The text of a value: a text itself, or the texts and messages in a list, one in
a line. -/
def valueText? (value : Value) : Option String :=
  match value.document with
  | .text s => some s
  | .array items => some (joined "\n" (items.filterMap itemText?))
  | _ => none

def outputLines (output : Members) (cap : Nat) : List String :=
  collectLines
    (["stdout", "stderr", "logs", "log"].filterMap (fun key =>
      (output.get? key).bind valueText?)) cap

def logLines (report : LogReport) (cap : Nat) : List String :=
  collectLines
    (report.stdout.toList ++ report.stderr.toList ++
      (report.logs.bind valueText?).toList) cap

/-- Progress in percent, from 0 to 100. -/
def percent (progress : Int) : UInt8 :=
  UInt8.ofNat (min progress 100).toNat

/-- The line for message and progress of a report, if it has either. -/
def headLine? (report : LogReport) : Option (String × Option UInt8) :=
  let progress := report.progress.map percent
  match (report.message.map trim).filter (fun m => !m.isEmpty), progress with
  | some message, _ => some (message, progress)
  | none, some p => some ("progress " ++ Error.natText p.toNat ++ "%", some p)
  | none, none => none

end Report

namespace State

/-!
# The lease of a report
-/

/-- The token under which an agent holds a running job. -/
def leaseToken (s : State) (agentId jobId : String) : Except Error String := do
  let job ← s.findJob jobId
  if job.status ≠ .running then throw (.notRunning jobId job.status)
  else if job.lockedBy ≠ some agentId then throw (.notLeasedTo jobId agentId)
  else return job.lockToken.getD ""

/-- A report need not carry the token; if it does, the token must be the live one. -/
def checkToken (jobId token : String) (echoed : Option String) : Except Error Unit :=
  match echoed with
  | some other => if other = token then .ok () else .error (.tokenMismatch jobId)
  | none => .ok ()

def checkJobId (inBody inPath : String) : Except Error Unit :=
  if inBody = inPath then .ok () else .error (.jobIdMismatch inBody inPath)

/-!
# Results
-/

/-- Write the result of a job, end the job and release its lease. -/
def finishJob (s : State) (jobId token : String) (status : Job.Status)
    (report : ResultReport) (maxLogLines : Nat) (now : Instant) :
    Except Error (Job × Job.Result × State) := do
  let s := s.appendLogs jobId (Report.outputLines report.output maxLogLines) now
  let (result, s) ← s.recordResult jobId status report.output (report.completedAt.getD now)
  let (_, s) ← s.transition jobId status now
  let (_, s) ← s.unlockJob jobId token
  let s := s.appendLog jobId ("finished: " ++ status.word) (some 100) now
  let job ← s.findJob jobId
  return (job, result, s)

/-- The events that follow from a finished job, if its payload has a meaning. -/
def eventsOf (registry : Effect.Registry Effect.Handler) (job : Job) (result : Job.Result) :
    List Effect.Event :=
  match Job.Work.decode job.type job.payload with
  | .ok work =>
      registry.eventsFor
        { type := job.type, work := work, status := result.status
          output := result.output, completedAt := result.completedAt }
  | .error _ => []

def submitResult (s : State) (fresh : Fresh) (agentId jobId : String)
    (report : ResultReport) (policy : ReportPolicy) (now : Instant) :
    Except Error (Reported × State) := do
  let token ← s.leaseToken agentId jobId
  checkJobId report.jobId jobId
  match Job.Status.reported? report.status with
  | none => throw (.unknownResultStatus report.status)
  | some status =>
      checkToken jobId token report.lockToken
      if s.results.contains jobId then throw (.alreadyHasResult jobId)
      let (job, result, s) ← s.finishJob jobId token status report policy.maxLogLines now
      let (followUp, skipped, s) :=
        s.applyEvents fresh policy.thresholds now (eventsOf policy.registry job result)
      return ({ job := job, result := result, followUp := followUp, skipped := skipped }, s)

/-!
# Progress
-/

/-- Note a progress report and keep the lease alive; the result is its new end. -/
def submitLogs (s : State) (agentId jobId : String) (report : LogReport)
    (policy : ReportPolicy) (now : Instant) : Except Error (Instant × State) := do
  checkJobId report.jobId jobId
  let token ← s.leaseToken agentId jobId
  checkToken jobId token report.lockToken
  let (expires, s) ← s.extendLock jobId (now.addSeconds policy.leaseSeconds) now
  let s :=
    match Report.headLine? report with
    | some (message, progress) => s.appendLog jobId message progress now
    | none => s
  return (expires, s.appendLogs jobId (Report.logLines report policy.maxLogLines) now)

end State
end FleetControl
