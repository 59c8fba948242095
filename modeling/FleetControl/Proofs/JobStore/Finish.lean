import FleetControl.Proofs.InPlace.Reports
import FleetControl.Proofs.JobStore.Lifecycle
import FleetControl.Proofs.JobStore.Results

/-!
# Results that are taken

A report of a result is held against the job, its lease and the words for an end, in a fixed
order, and what comes first decides how it is refused.  There are two more ways to be refused,
for a job that has a result and for an end that a running job cannot come to.  Neither is ever
gone: a running job has no result, and it can come to every end that has a word.
-/

namespace FleetControl

open Refusal
open Time

namespace Job
namespace Status

def outcomeWords : List (String × Status) :=
  [("succeeded", .succeeded), ("success", .succeeded), ("failed", .failed),
    ("failure", .failed), ("cancelled", .cancelled), ("canceled", .cancelled)]

theorem reported?_eq_some_iff {text : String} {status : Status} :
    reported? text = some status ↔ (Text.lower (Text.trim text), status) ∈ outcomeWords := by
  simp only [outcomeWords, List.mem_cons, List.not_mem_nil, or_false, Prod.mk.injEq]
  unfold reported?
  split <;> simp_all <;> cases status <;> simp

end Status
end Job

namespace State

variable {s s' : State} {fresh : Fresh} {agentId id : String} {job : Job}
  {report : ResultReport} {status : Job.Status} {now : Instant}

/-- All that is asked of a report of a result. -/
structure Accepts (s : State) (agentId id : String) (report : ResultReport) (job : Job)
    (status : Job.Status) : Prop where
  found : s.jobs.get? id = some job
  running : job.status = .running
  holder : job.lockedBy = some agentId
  name : report.jobId = id
  word : (Text.lower (Text.trim report.status), status) ∈ Job.Status.outcomeWords
  token : report.lockToken = none ∨ report.lockToken = job.lockToken

/-- The first thing that stands against a report of a result, and the kind of refusal. -/
inductive Refuses (s : State) (agentId id : String) (report : ResultReport) :
    Error → Error.Kind → Prop
  | missing (none_ : s.jobs.get? id = none) :
      Refuses s agentId id report (.missing .job id) .notFound
  | notRunning {job : Job} (found : s.jobs.get? id = some job) (other : job.status ≠ .running) :
      Refuses s agentId id report (.notRunning id job.status) .conflict
  | notHeld {job : Job} (found : s.jobs.get? id = some job) (running : job.status = .running)
      (other : job.lockedBy ≠ some agentId) :
      Refuses s agentId id report (.notLeasedTo id agentId) .conflict
  | otherJob {job : Job} (found : s.jobs.get? id = some job) (running : job.status = .running)
      (holder : job.lockedBy = some agentId) (other : report.jobId ≠ id) :
      Refuses s agentId id report (.jobIdMismatch report.jobId id) .badRequest
  | unknownWord {job : Job} (found : s.jobs.get? id = some job) (running : job.status = .running)
      (holder : job.lockedBy = some agentId) (name : report.jobId = id)
      (unknown : ∀ status,
        (Text.lower (Text.trim report.status), status) ∉ Job.Status.outcomeWords) :
      Refuses s agentId id report (.unknownResultStatus report.status) .badRequest
  | wrongToken {job : Job} {status : Job.Status} (found : s.jobs.get? id = some job)
      (running : job.status = .running) (holder : job.lockedBy = some agentId)
      (name : report.jobId = id)
      (word : (Text.lower (Text.trim report.status), status) ∈ Job.Status.outcomeWords)
      (echoed : report.lockToken.isSome) (other : report.lockToken ≠ job.lockToken) :
      Refuses s agentId id report (.tokenMismatch id) .conflict

theorem accepts_or_refuses (s : State) (agentId id : String) (report : ResultReport) :
    (∃ job status, s.Accepts agentId id report job status) ∨
      ∃ e, s.Refuses agentId id report e e.kind := by
  cases found : s.jobs.get? id with
  | none => exact Or.inr ⟨_, .missing found⟩
  | some job =>
      by_cases running : job.status = .running
      case neg => exact Or.inr ⟨_, .notRunning found running⟩
      by_cases holder : job.lockedBy = some agentId
      case neg => exact Or.inr ⟨_, .notHeld found running holder⟩
      by_cases name : report.jobId = id
      case neg => exact Or.inr ⟨_, .otherJob found running holder name⟩
      by_cases word : ∃ status,
        (Text.lower (Text.trim report.status), status) ∈ Job.Status.outcomeWords
      case neg => exact Or.inr ⟨_, .unknownWord found running holder name (not_exists.mp word)⟩
      rcases word with ⟨status, word⟩
      cases echoed : report.lockToken with
      | none => exact Or.inl ⟨job, status, found, running, holder, name, word, Or.inl echoed⟩
      | some token =>
          by_cases same : report.lockToken = job.lockToken
          · exact Or.inl ⟨job, status, found, running, holder, name, word, Or.inr same⟩
          · refine Or.inr ⟨_, .wrongToken found running holder name word ?_ same⟩
            rw [echoed]
            rfl

/-!
# Being refused
-/

theorem leaseToken_of_missing (none_ : s.jobs.get? id = none) :
    s.leaseToken agentId id = .error (.missing .job id) := by
  unfold leaseToken findJob find
  rw [none_]
  rfl

theorem leaseToken_of_not_running (found : s.jobs.get? id = some job)
    (other : job.status ≠ .running) :
    s.leaseToken agentId id = .error (.notRunning id job.status) := by
  unfold leaseToken
  rw [findJob_eq_ok.mpr found]
  exact if_pos other

theorem leaseToken_of_not_held (found : s.jobs.get? id = some job)
    (running : job.status = .running) (other : job.lockedBy ≠ some agentId) :
    s.leaseToken agentId id = .error (.notLeasedTo id agentId) := by
  unfold leaseToken
  rw [findJob_eq_ok.mpr found]
  exact (if_neg (not_not.mpr running)).trans (if_pos other)

theorem takeResult_of_refuses {e : Error} {kind : Error.Kind} (staged : s.jobStore.Staged)
    (refuses : s.Refuses agentId id report e kind) (cap : Nat) (now : Instant) :
    s.takeResult agentId id report cap now = .error e := by
  unfold takeResult
  cases refuses with
  | missing none_ =>
      rw [leaseToken_of_missing none_]
      rfl
  | notRunning found other =>
      rw [leaseToken_of_not_running found other]
      rfl
  | notHeld found running other =>
      rw [leaseToken_of_not_held found running other]
      rfl
  | otherJob found running holder other =>
      rw [leaseToken_of_held found running holder, checkJobId, if_neg other]
      rfl
  | unknownWord found running holder name unknown =>
      have none_ : Job.Status.reported? report.status = none :=
        Option.eq_none_iff_forall_ne_some.mpr fun status known =>
          unknown status (Job.Status.reported?_eq_some_iff.mp known)
      rw [leaseToken_of_held found running holder, checkJobId_eq_ok.mpr name, none_]
      rfl
  | @wrongToken job status found running holder name word echoed other =>
      rcases (staged id).of_running found running with ⟨leased, -⟩
      rw [leaseToken_of_held found running holder, checkJobId_eq_ok.mpr name,
        Job.Status.reported?_eq_some_iff.mpr word]
      simp only [bind, Except.bind, checkToken_of_wrong leased echoed other]

/-!
# Being accepted
-/

/-- What becomes of a job whose result is taken. -/
structure Completes (s : State) (id : String) (report : ResultReport) (cap : Nat) (now : Instant)
    (job : Job) (status : Job.Status) (finished : Job) (result : Job.Result) (s' : State) :
    Prop where
  terminal : status.isTerminal = true
  ended : finished.status = status
  free : finished.IsFree
  same : finished = job.closed status now
  row : s'.jobs.get? id = some finished
  told : result = { jobId := id, status := status, output := report.output
                    completedAt := report.completedAt.getD now }
  recorded : s'.results.get? id = some result
  log : ∃ log, s.logs.get? id = some log ∧
    s'.logs.get? id = some (log ++ finishLines id status report cap now)

theorem takeResult_of_accepts (staged : s.jobStore.Staged)
    (accepts : s.Accepts agentId id report job status) (cap : Nat) (now : Instant) :
    ∃ finished result m, s.takeResult agentId id report cap now = .ok (finished, result, m) ∧
      s.Completes id report cap now job status finished result m := by
  rcases (staged id).of_running accepts.found accepts.running with ⟨leased, log, before⟩
  have known := Job.Status.reported?_eq_some_iff.mpr accepts.word
  have terminal := Job.Status.isTerminal_of_reported? known
  have open_ : ¬ s.results.contains id = true := by
    have none_ : s.results.get? id = none := congrArg Dossier.result before
    simp [Table.contains, none_]
  rcases InPlace.finishJob_of_running (job.lockToken.getD "") report cap now
    (findJob_eq_ok.mpr accepts.found) accepts.running open_ terminal with
    ⟨finished, result, m, done, -⟩
  rcases finishJob_eq_ok before (lockToken_of_leased leased) done with ⟨rfl, told, puts⟩
  refine ⟨_, result, m, ?_, terminal, rfl, ⟨rfl, rfl, rfl⟩, rfl,
    congrArg Dossier.job puts.dossier, told, congrArg Dossier.result puts.dossier, log,
    congrArg Dossier.log before, congrArg Dossier.log puts.dossier⟩
  unfold takeResult
  rw [leaseToken_of_held accepts.found accepts.running accepts.holder,
    checkJobId_eq_ok.mpr accepts.name, known]
  simp only [bind, Except.bind, checkToken_of_right leased accepts.token, if_neg open_, done]

/-- The jobs that follow are new, and so the finished one stays as it is. -/
theorem Completes.withEvents {cap : Nat} {finished : Job} {result : Job.Result} {m : State}
    (completes : s.Completes id report cap now job status finished result m)
    (old : ∀ n, id ≠ fresh.job n) (thresholds : Inventory.DiskThresholds)
    (events : List Effect.Event) :
    s.Completes id report cap now job status finished result
      (m.applyEvents fresh thresholds now events).2.2 := by
  have kept : (m.applyEvents fresh thresholds now events).2.2.dossier id = m.dossier id :=
    (m.created_applyEvents fresh thresholds now events).steps.dossier_of_not_named old
  rcases completes.log with ⟨log, before, after⟩
  exact { completes with
    row := (congrArg Dossier.job kept).trans completes.row
    recorded := (congrArg Dossier.result kept).trans completes.recorded
    log := ⟨log, before, (congrArg Dossier.log kept).trans after⟩ }

/-!
# Both
-/

/-- A report of a result is taken just if all is in order, and then the job is finished as
a whole; otherwise it is refused for the first thing that is not. -/
structure Decides (s : State) (fresh : Fresh) (agentId id : String) (report : ResultReport)
    (policy : ReportPolicy) (now : Instant) : Prop where
  taken_iff : (∃ reported s', s.submitResult fresh agentId id report policy now =
      .ok (reported, s')) ↔
    ∃ job status, s.Accepts agentId id report job status
  refused_iff : ∀ e, s.submitResult fresh agentId id report policy now = .error e ↔
    s.Refuses agentId id report e e.kind
  single : ∀ e, s.submitResult fresh agentId id report policy now = .error e →
    e ≠ .alreadyHasResult id ∧ ∀ before after, e ≠ .illegalTransition before after
  completes : ∀ reported s', s.submitResult fresh agentId id report policy now =
      .ok (reported, s') →
    ∃ job status, s.Accepts agentId id report job status ∧
      s.Completes id report policy.maxLogLines now job status reported.job reported.result s'

theorem submitResult_of_accepts (staged : s.jobStore.Staged) (names : fresh.NamesNewJobs s)
    (accepts : s.Accepts agentId id report job status) (policy : ReportPolicy) (now : Instant) :
    ∃ reported s', s.submitResult fresh agentId id report policy now = .ok (reported, s') ∧
      s.Completes id report policy.maxLogLines now job status reported.job reported.result
        s' := by
  rcases takeResult_of_accepts staged accepts policy.maxLogLines now with
    ⟨finished, result, m, taken, completes⟩
  have old : ∀ n, id ≠ fresh.job n := by
    rintro n rfl
    cases (names.2 n).symm.trans accepts.found
  rw [submitResult_eq, taken]
  exact ⟨_, _, rfl, completes.withEvents old policy.thresholds _⟩

theorem submitResult_of_refuses {e : Error} {kind : Error.Kind} (staged : s.jobStore.Staged)
    (refuses : s.Refuses agentId id report e kind) (policy : ReportPolicy) (now : Instant) :
    s.submitResult fresh agentId id report policy now = .error e := by
  rw [submitResult_eq, takeResult_of_refuses staged refuses]
  rfl

theorem decides_submitResult (staged : s.jobStore.Staged) (names : fresh.NamesNewJobs s)
    (agentId id : String) (report : ResultReport) (policy : ReportPolicy) (now : Instant) :
    s.Decides fresh agentId id report policy now := by
  rcases s.accepts_or_refuses agentId id report with ⟨job, status, accepts⟩ | ⟨e, refuses⟩
  · rcases submitResult_of_accepts staged names accepts policy now with
      ⟨reported, s', taken, completes⟩
    constructor
    · exact iff_of_true ⟨reported, s', taken⟩ ⟨job, status, accepts⟩
    · intro e
      constructor
      · intro refused
        cases taken.symm.trans refused
      · intro refuses
        exact submitResult_of_refuses staged refuses policy now
    · intro e refused
      cases taken.symm.trans refused
    · intro reported' s'' taken'
      cases taken.symm.trans taken'
      exact ⟨job, status, accepts, completes⟩
  · have refused : s.submitResult fresh agentId id report policy now = .error e :=
      submitResult_of_refuses staged refuses policy now
    constructor
    · refine iff_of_false ?_ ?_
      · rintro ⟨reported, s', taken⟩
        cases taken.symm.trans refused
      · rintro ⟨job, status, accepts⟩
        rcases submitResult_of_accepts staged names accepts policy now with ⟨_, _, taken, _⟩
        cases taken.symm.trans refused
    · intro e'
      constructor
      · intro refused'
        cases refused.symm.trans refused'
        exact refuses
      · intro refuses'
        exact submitResult_of_refuses staged refuses' policy now
    · intro e' refused'
      cases refused.symm.trans refused'
      cases refuses <;> simp
    · intro reported s' taken
      cases taken.symm.trans refused

end State

namespace Plane

variable {p : Plane} {steps : List Step}

/-- On a plane whose jobs have all been created by its own operations, a report of a result is
taken just if all is in order, and no other refusal than for the first thing that is not is
ever met. -/
theorem submitResult_decides (empty : p.state.jobStore.IsEmpty) (runs : p.RunsFresh steps)
    {fresh : Fresh} (names : fresh.NamesNewJobs (p.after steps).state) (agentId id : String)
    (report : ResultReport) (policy : ReportPolicy) (now : Instant) :
    (p.after steps).state.Decides fresh agentId id report policy now :=
  State.decides_submitResult (staged_after empty.staged runs) names agentId id report policy now

def heldResult : ResultReport :=
  { jobId := "b|", status := " Success", completedAt := none, output := .empty
    lockToken := none }

theorem submitResult_decides_held :
    lostPlane.state.jobStore.IsEmpty ∧ lostPlane.RunsFresh heldRun ∧
      Fresh.NamesNewJobs (.strokes 'd') (lostPlane.after heldRun).state ∧
      (lostPlane.after heldRun).state.Decides (.strokes 'd') "a" "b|" heldResult
        lostPlane.reportPolicy .epoch ∧
      ∃ reported s', (lostPlane.after heldRun).state.submitResult (.strokes 'd') "a" "b|"
        heldResult lostPlane.reportPolicy .epoch = .ok (reported, s') := by
  have empty : lostPlane.state.jobStore.IsEmpty := ⟨rfl, rfl, rfl⟩
  have decides := submitResult_decides empty runsFresh_heldRun.1 runsFresh_heldRun.2 "a" "b|"
    heldResult lostPlane.reportPolicy .epoch
  refine ⟨empty, runsFresh_heldRun.1, runsFresh_heldRun.2, decides, decides.taken_iff.mpr ?_⟩
  have row : ((lostPlane.after heldRun).state.jobs.get? "b|").map (fun job =>
      (job.status, job.lockedBy)) = some (.running, some "a") := by
    decide +kernel
  rcases Option.map_eq_some_iff.mp row with ⟨job, found, fields⟩
  rcases Prod.mk.inj fields with ⟨running, holder⟩
  exact ⟨job, .succeeded, found, running, holder, rfl, by decide +kernel, Or.inl rfl⟩

end Plane
end FleetControl
