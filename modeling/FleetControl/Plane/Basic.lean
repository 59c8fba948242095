import FleetControl.Config.Basic
import FleetControl.Effect.Registry
import FleetControl.Notice
import FleetControl.Signature.Guard
import FleetControl.State.Reports
import FleetControl.Store.Basic

/-!
# The control plane

The plane runs each operation as one transaction on its store.  What it tells others
goes out after the commit, so a refused operation tells nothing.
-/

namespace FleetControl

open Time

/-- A finished job, as it is shown to the observers. -/
structure Finished where
  job : Job
  result : Job.Result

/-- All that an operation tells others, each kind in its order. -/
structure Notices where
  audit : List AuditEvent
  notifications : List Notification
  finished : List Finished

namespace Notices

def none : Notices :=
  { audit := [], notifications := [], finished := [] }

def ofAudit (events : List AuditEvent) : Notices :=
  { none with audit := events }

def append (a b : Notices) : Notices :=
  { audit := a.audit ++ b.audit
    notifications := a.notifications ++ b.notifications
    finished := a.finished ++ b.finished }

instance : Append Notices :=
  ⟨append⟩

end Notices

structure Plane where
  config : Config
  registry : Effect.Registry Effect.Handler
  observers : List Observer
  store : Store
  guard : Signature.Guard

/-- What an operation comes to: its answer, what it tells others, and the plane
afterwards. -/
structure Outcome (α : Type) where
  answer : Except Error α
  notices : Notices
  plane : Plane

namespace Outcome

def map {α β : Type} (f : α → β) (o : Outcome α) : Outcome β :=
  { answer := o.answer.map f, notices := o.notices, plane := o.plane }

end Outcome

namespace Plane

/-- The actor of what the plane does of its own accord. -/
def system : String := "system"

def state (p : Plane) : State :=
  p.store.state

def reportPolicy (p : Plane) : ReportPolicy :=
  { registry := p.registry
    thresholds := p.config.thresholds
    maxLogLines := p.config.maxLogLines
    leaseSeconds := p.config.leaseSeconds }

/-!
# Transactions
-/

def refuse {α : Type} (p : Plane) (e : Error) : Outcome α :=
  { answer := .error e, notices := .none, plane := p }

/-- Commit a new state, or leave everything as it is. -/
def transact {α : Type} (p : Plane) (result : Except Error (α × Change × State))
    (tell : α → Notices) : Outcome α :=
  match result with
  | .error e => p.refuse e
  | .ok (a, change, s) =>
      { answer := .ok a, notices := tell a, plane := { p with store := p.store.apply change s } }

/-- A transaction whose every success is saved. -/
def transactDurably {α : Type} (p : Plane) (result : Except Error (α × State))
    (tell : α → Notices) : Outcome α :=
  p.transact (result.map (fun (a, s) => (a, .durable, s))) tell

/-!
# What is told
-/

/-- An audit event about a job, with the type of the job. -/
def jobEvent (action actor : String) (now : Instant) (job : Job) : AuditEvent :=
  (AuditEvent.plain action actor job.id now).noting "type" job.type

def releaseEvents (actor : String) (now : Instant) (blocks : List String) : List AuditEvent :=
  blocks.map (fun block => .plain "port.block.released" actor block now)

def createdJobs (now : Instant) (jobs : List Job) : Notices :=
  .ofAudit (jobs.map (jobEvent "job.created" system now))

def tellFollowUp (now : Instant) (followUp : FollowUp) : Notices :=
  { createdJobs now followUp.createdJobs ++
      .ofAudit (followUp.released.flatMap (fun r => releaseEvents system now r.blocks)) with
    notifications := followUp.notifications }

end Plane
end FleetControl
