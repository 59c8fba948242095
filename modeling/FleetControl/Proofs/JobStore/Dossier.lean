import FleetControl.State.Basic

/-!
# The dossier of a job

All that is known about one job is its row, its result and its log: its dossier.  A
dossier goes through stages, from being absent to a terminal status, and it changes by
a few moves, each of which takes it from one stage to another.
-/

namespace FleetControl

open Time

namespace Job

/-!
# Rows and leases
-/

def IsLeased (job : Job) : Prop :=
  job.lockedBy.isSome ∧ job.lockToken.isSome ∧ job.lockExpiresAt.isSome

def IsFree (job : Job) : Prop :=
  job.lockedBy = none ∧ job.lockToken = none ∧ job.lockExpiresAt = none

/-- What never changes in a row: what the job is, and how it came into being. -/
def SameOrigin (a b : Job) : Prop :=
  a.id = b.id ∧ a.type = b.type ∧ a.payload = b.payload ∧ a.createdAt = b.createdAt ∧
    a.seq = b.seq ∧ a.createdBy = b.createdBy

def leased (job : Job) (agentId token : String) (expires now : Instant) : Job :=
  { job with
    status := .running, lockedBy := some agentId, lockToken := some token
    lockExpiresAt := some expires, updatedAt := now }

def extended (job : Job) (expires now : Instant) : Job :=
  { job with lockExpiresAt := some expires, updatedAt := now }

def closed (job : Job) (status : Status) (now : Instant) : Job :=
  { job with
    status := status, lockedBy := none, lockToken := none, lockExpiresAt := none
    updatedAt := now }

def withdrawn (job : Job) (now : Instant) : Job :=
  { job with status := .cancelled, updatedAt := now }

theorem SameOrigin.refl (job : Job) : job.SameOrigin job :=
  ⟨rfl, rfl, rfl, rfl, rfl, rfl⟩

theorem SameOrigin.trans {a b c : Job} (h : a.SameOrigin b) (h' : b.SameOrigin c) :
    a.SameOrigin c := by
  rcases h with ⟨h1, h2, h3, h4, h5, h6⟩
  rcases h' with ⟨k1, k2, k3, k4, k5, k6⟩
  exact ⟨h1.trans k1, h2.trans k2, h3.trans k3, h4.trans k4, h5.trans k5, h6.trans k6⟩

theorem SameOrigin.seq {a b : Job} (h : a.SameOrigin b) : a.seq = b.seq :=
  h.2.2.2.2.1

theorem not_isLeased_of_isFree {job : Job} (h : job.IsFree) : ¬ job.IsLeased := by
  intro leased
  simp [IsLeased, h.1] at leased

end Job

/-!
# The job store

The part of the state that the jobs are in, and the dossier of one name in it.
-/

structure Dossier where
  job : Option Job
  result : Option Job.Result
  log : Option (List Job.LogLine)

structure JobStore where
  jobs : Table Job
  results : Table Job.Result
  logs : Table (List Job.LogLine)
  lastSeq : UInt64

def JobStore.dossier (b : JobStore) (id : String) : Dossier :=
  { job := b.jobs.get? id, result := b.results.get? id, log := b.logs.get? id }

def State.jobStore (s : State) : JobStore :=
  { jobs := s.jobs, results := s.results, logs := s.logs, lastSeq := s.lastSeq }

/-!
# Stages

A job has no log before it is leased or withdrawn, and a result exactly when it was
leased and has come to its end.
-/

def withdrawalText : String := "cancelled before dispatch"

inductive Dossier.Stage (id : String) : Dossier → Prop
  | absent : Stage id { job := none, result := none, log := none }
  | queued {job : Job} (name : job.id = id) (status : job.status = .queued)
      (free : job.IsFree) :
      Stage id { job := some job, result := none, log := none }
  | running {job : Job} {log : List Job.LogLine} (name : job.id = id)
      (status : job.status = .running) (leased : job.IsLeased)
      (own : ∀ line ∈ log, line.jobId = id) :
      Stage id { job := some job, result := none, log := some log }
  | finished {job : Job} {result : Job.Result} {log : List Job.LogLine}
      (name : job.id = id) (terminal : job.status.isTerminal = true) (free : job.IsFree)
      (resultName : result.jobId = id) (status : result.status = job.status)
      (own : ∀ line ∈ log, line.jobId = id) :
      Stage id { job := some job, result := some result, log := some log }
  | withdrawn {job : Job} {line : Job.LogLine} (name : job.id = id)
      (status : job.status = .cancelled) (free : job.IsFree) (own : line.jobId = id)
      (text : line.message = withdrawalText) :
      Stage id { job := some job, result := none, log := some [line] }

/-!
# Moves
-/

inductive Cause where
  | creation
  | lease (agentId : String)
  | progress (agentId jobId : String)
  | finish (agentId jobId : String)
  | lapse (now : Instant)
  | withdrawal (jobId : String)

/-- The change of one dossier on one account; a new dossier is none of these. -/
inductive Dossier.Move (id : String) : Cause → Dossier → Dossier → Prop
  | lease {job : Job} {line : Job.LogLine} {agentId token : String} {expires now : Instant}
      (status : job.status = .queued) (own : line.jobId = id) :
      Move id (.lease agentId)
        { job := some job, result := none, log := none }
        { job := some (job.leased agentId token expires now), result := none
          log := some [line] }
  | progress {job : Job} {log lines : List Job.LogLine} {agentId : String}
      {before expires now : Instant} (status : job.status = .running)
      (holder : job.lockedBy = some agentId) (lease : job.lockExpiresAt = some before)
      (later : before ≤ expires) (own : ∀ line ∈ lines, line.jobId = id) :
      Move id (.progress agentId id)
        { job := some job, result := none, log := some log }
        { job := some (job.extended expires now), result := none
          log := some (log ++ lines) }
  | finish {job : Job} {result : Job.Result} {log lines : List Job.LogLine}
      {agentId : String} {now : Instant} (status : job.status = .running)
      (holder : job.lockedBy = some agentId) (terminal : result.status.isTerminal = true)
      (name : result.jobId = id) (own : ∀ line ∈ lines, line.jobId = id) :
      Move id (.finish agentId id)
        { job := some job, result := none, log := some log }
        { job := some (job.closed result.status now), result := some result
          log := some (log ++ lines) }
  | lapse {job : Job} {result : Job.Result} {log : List Job.LogLine} {line : Job.LogLine}
      {expires now : Instant} (status : job.status = .running)
      (lease : job.lockExpiresAt = some expires) (lapsed : expires ≤ now)
      (failed : result.status = .failed) (name : result.jobId = id)
      (own : line.jobId = id) :
      Move id (.lapse now)
        { job := some job, result := none, log := some log }
        { job := some (job.closed .failed now), result := some result
          log := some (log ++ [line]) }
  | withdraw {job : Job} {line : Job.LogLine} {now : Instant} (status : job.status = .queued)
      (own : line.jobId = id) (text : line.message = withdrawalText) :
      Move id (.withdrawal id)
        { job := some job, result := none, log := none }
        { job := some (job.withdrawn now), result := none, log := some [line] }

namespace Dossier

theorem Stage.of_move {id : String} {cause : Cause} {a b : Dossier} (stage : a.Stage id)
    (move : Move id cause a b) : b.Stage id := by
  cases move with
  | lease status own =>
      cases stage with
      | queued name _ _ =>
          refine .running name rfl ⟨rfl, rfl, rfl⟩ ?_
          simpa using own
  | progress status holder lease later own =>
      cases stage with
      | withdrawn _ withdrawn _ _ _ =>
          simp [withdrawn] at status
      | running name _ leased before =>
          refine .running name status ⟨leased.1, leased.2.1, rfl⟩ ?_
          exact List.forall_mem_append.mpr ⟨before, own⟩
  | finish status holder terminal resultName own =>
      cases stage with
      | withdrawn _ withdrawn _ _ _ =>
          simp [withdrawn] at status
      | running name _ leased before =>
          refine .finished name terminal ⟨rfl, rfl, rfl⟩ resultName rfl ?_
          exact List.forall_mem_append.mpr ⟨before, own⟩
  | lapse status lease lapsed failed resultName own =>
      cases stage with
      | withdrawn _ withdrawn _ _ _ =>
          simp [withdrawn] at status
      | running name _ leased before =>
          refine .finished name rfl ⟨rfl, rfl, rfl⟩ resultName failed ?_
          exact List.forall_mem_append.mpr ⟨before, List.forall_mem_singleton.mpr own⟩
  | withdraw status own text =>
      cases stage with
      | queued name _ free =>
          exact .withdrawn name rfl free own text

theorem Stage.eq_absent {id : String} {r : Dossier} (stage : r.Stage id) (h : r.job = none) :
    r = { job := none, result := none, log := none } := by
  cases stage with
  | absent => rfl
  | queued _ _ _ => cases h
  | running _ _ _ _ => cases h
  | finished _ _ _ _ _ _ => cases h
  | withdrawn _ _ _ _ _ => cases h

theorem Move.isSome_job {id : String} {cause : Cause} {a b : Dossier}
    (move : Move id cause a b) : a.job.isSome := by
  cases move <;> rfl

theorem Move.sameOrigin {id : String} {cause : Cause} {a b : Dossier} {before : Job}
    (move : Move id cause a b) (ha : a.job = some before) :
    ∃ after, b.job = some after ∧ before.SameOrigin after := by
  cases move <;> cases ha <;> exact ⟨_, rfl, rfl, rfl, rfl, rfl, rfl, rfl⟩

theorem Move.not_isTerminal {id : String} {cause : Cause} {a b : Dossier} {job : Job}
    (move : Move id cause a b) (ha : a.job = some job) : job.status.isTerminal = false := by
  cases move with
  | lease status own | withdraw status own text =>
      cases ha
      rw [status]
      rfl
  | progress status holder lease later own =>
      cases ha
      rw [status]
      rfl
  | finish status holder terminal name own =>
      cases ha
      rw [status]
      rfl
  | lapse status lease lapsed failed name own =>
      cases ha
      rw [status]
      rfl

end Dossier
end FleetControl
