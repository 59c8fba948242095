import FleetControl.Job.Status
import FleetControl.Job.Work
import FleetControl.Json.Basic
import FleetControl.Time.Instant

/-!
# Jobs

The rows that are kept about a job: the job itself, its one result, and the lines
of its log.  While a job runs it is leased: an agent holds it under a token until
an instant.
-/

namespace FleetControl

open Time

structure Job where
  id : String
  type : String
  payload : Payload
  status : Job.Status
  lockedBy : Option String
  lockToken : Option String
  lockExpiresAt : Option Instant
  createdAt : Instant
  updatedAt : Instant
  /-- Counts up with every job created; breaks ties between equal instants. -/
  seq : UInt64
  createdBy : Option String

namespace Job

structure Result where
  jobId : String
  status : Status
  output : Members
  completedAt : Instant

structure LogLine where
  jobId : String
  message : String
  progress : Option UInt8
  createdAt : Instant

/-- A request to enqueue work. -/
structure Order where
  type : String
  payload : Payload
  createdBy : Option String

def isLocked (job : Job) : Bool :=
  job.lockedBy.isSome

/-- The three lease fields are all clear, or all set on a running job. -/
def lockIsSound (job : Job) : Bool :=
  let allSet := job.lockedBy.isSome && job.lockToken.isSome && job.lockExpiresAt.isSome
  let allClear := job.lockedBy.isNone && job.lockToken.isNone && job.lockExpiresAt.isNone
  allClear || (allSet && job.status = .running)

/-- The agent the job is meant for, if for one only. -/
def targetAgent? (job : Job) : Option String :=
  (job.payload.get? "agent_id").filter (fun s => !s.isEmpty)

def nodeId? (job : Job) : Option String :=
  (job.payload.get? "node_id").or (job.payload.get? "agent_id")

def isPending (job : Job) : Bool :=
  job.status.isPending

/-- The agent runs the job. -/
def runsOn (job : Job) (agentId : String) : Bool :=
  job.status = .running && job.lockedBy = some agentId

/-- The job runs and its lease has lapsed. -/
def hasLapsed (job : Job) (now : Instant) : Bool :=
  match job.lockExpiresAt with
  | some expires => job.status = .running && expires ≤ now
  | none => false

def release (job : Job) : Job :=
  { job with lockedBy := none, lockToken := none, lockExpiresAt := none }

end Job
end FleetControl
