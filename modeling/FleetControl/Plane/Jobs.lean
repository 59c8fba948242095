import FleetControl.Plane.Basic

/-!
# What producers ask of the plane

Jobs are created, looked at and cancelled by producers.  The sweep reclaims the jobs
whose lease has lapsed; it runs from time to time and at the start of every poll.
-/

namespace FleetControl

open Time

/-- A job with all that is on record about it. -/
structure JobDetail where
  job : Job
  result : Option Job.Result
  logs : List Job.LogLine

namespace Plane

/-- An order that names nobody is made by the actor. -/
def createJob (p : Plane) (fresh : Fresh) (order : Job.Order) (actor : String)
    (now : Instant) : Outcome Job :=
  let order := { order with createdBy := order.createdBy.or (some actor) }
  p.transactDurably (p.state.createJob fresh order now)
    (fun job => .ofAudit [jobEvent "job.created" actor now job])

def jobDetail (p : Plane) (jobId : String) : Outcome JobDetail :=
  match p.state.findJob jobId with
  | .error e => p.refuse e
  | .ok job =>
      { answer := .ok
          { job := job, result := p.state.results.get? jobId, logs := p.state.logLines jobId }
        notices := .none
        plane := p }

def cancelJob (p : Plane) (jobId actor : String) (now : Instant) : Outcome Job :=
  p.transactDurably (p.state.cancelJob jobId now)
    (fun _ => .ofAudit [.plain "job.cancelled" actor jobId now])

/-- The sweep. -/
def expireStale (p : Plane) (now : Instant) : Outcome (List Job) :=
  let (expired, s) := p.state.expireStale now
  p.transact (.ok (expired, .durableIf (!expired.isEmpty), s))
    (fun jobs => .ofAudit (jobs.map (jobEvent "job.expired" system now)))

end Plane
end FleetControl
