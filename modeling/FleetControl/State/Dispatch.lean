import FleetControl.State.Jobs

/-!
# Dispatch

An agent that polls is leased queued jobs in the order of the queue, as long as it
has free slots.  A job is passed over when it is meant for another agent, when the
agent runs as many updates as it may, when its system may not run such jobs, or
when an observer holds it back.
-/

namespace FleetControl

open Time

structure DispatchPolicy where
  leaseSeconds : Int
  updateJobLimit : Nat
  windowsEnabled : Bool
  windowsJobTypes : List String

/-- Whether a job may be leased to an agent now. -/
abbrev Observer := Job → Agent → Bool

structure PollOutcome where
  leased : List Job
  /-- Jobs reclaimed by the sweep before the poll. -/
  expired : List Job
  maxConcurrency : UInt32

namespace State

/-- The job passes every filter, given the updates that the agent runs. -/
def mayLease (policy : DispatchPolicy) (observers : List Observer) (agentId : String)
    (agent : Agent) (updates : Nat) (job : Job) : Bool :=
  (match job.targetAgent? with
    | some target => target = agentId
    | none => true) &&
  !(Job.isUpdate job.type && decide (policy.updateJobLimit ≤ updates)) &&
  !(agent.isWindows && !policy.windowsJobTypes.contains job.type) &&
  observers.all (fun allows => allows job agent)

/-- Walk through candidates and lease those that may be leased, at most `slots`. -/
def leaseCandidates (s : State) (fresh : Fresh) (policy : DispatchPolicy)
    (observers : List Observer) (agentId : String) (agent : Agent) (now : Instant)
    (slots updates : Nat) : List String → List Job × State
  | [] => ([], s)
  | jobId :: rest =>
      if slots = 0 then ([], s)
      else
        match s.jobs.get? jobId with
        | none => s.leaseCandidates fresh policy observers agentId agent now slots updates rest
        | some job =>
            if mayLease policy observers agentId agent updates job then
              match s.leaseJob jobId agentId (fresh.token jobId)
                  (1000 * policy.leaseSeconds) now with
              | .error _ =>
                  s.leaseCandidates fresh policy observers agentId agent now slots updates rest
              | .ok (leased, s) =>
                  let updates := if Job.isUpdate job.type then updates + 1 else updates
                  let (more, s) := s.leaseCandidates fresh policy observers agentId agent now
                    (slots - 1) updates rest
                  (leased :: more, s)
            else s.leaseCandidates fresh policy observers agentId agent now slots updates rest

def pollForWork (s : State) (fresh : Fresh) (agentId : String) (limit : Nat)
    (policy : DispatchPolicy) (observers : List Observer) (now : Instant) :
    Except Error (PollOutcome × State) :=
  match s.agents.get? agentId with
  | none => .error (.unknownAgent agentId)
  | some agent =>
      if agent.isWindows ∧ !policy.windowsEnabled then .error .windowsDisabled
      else
        let (expired, s) := s.expireStale now
        let candidates := s.queuedIds.take limit
        let slots := agent.jobConcurrency.toNat - (s.runningFor agentId).length
        let (leased, s) := s.leaseCandidates fresh policy observers agentId agent now slots
          (s.runningUpdatesFor agentId) candidates
        .ok ({ leased := leased, expired := expired
               maxConcurrency := agent.jobConcurrency }, s)

end State
end FleetControl
