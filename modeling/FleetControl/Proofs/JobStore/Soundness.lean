import FleetControl.Proofs.JobStore.Numbering
import FleetControl.Proofs.Plane.Jobs

/-!
# Soundness of the job store

What holds of all jobs, results and logs at any time, if the jobs of the plane have all
been created by its own operations.
-/

namespace FleetControl

open Time

/-- The rows under one key fit together. -/
structure Dossier.Sound (id : String) (r : Dossier) : Prop where
  name : ∀ job, r.job = some job → job.id = id
  leased : ∀ job, r.job = some job → (job.status = .running ↔ job.IsLeased)
  free : ∀ job, r.job = some job → job.status ≠ .running → job.IsFree
  pending : ∀ job, r.job = some job → job.status = .queued ∨ job.status = .running →
    r.result = none
  ended : ∀ job, r.job = some job → job.status = .succeeded ∨ job.status = .failed →
    ∃ result, r.result = some result ∧ result.status = job.status
  /-- Without a result, a cancelled job was cancelled before it was leased. -/
  cancelled : ∀ job, r.job = some job → job.status = .cancelled →
    (r.result = none ∧ ∃ line, r.log = some [line] ∧ line.message = withdrawalText) ∨
      ∃ result, r.result = some result ∧ result.status = .cancelled
  result : ∀ result, r.result = some result → result.jobId = id ∧ ∃ job, r.job = some job
  log : ∀ log, r.log = some log →
    (∀ line ∈ log, line.jobId = id) ∧ ∃ job, r.job = some job

namespace JobStore

def IsEmpty (b : JobStore) : Prop :=
  b.jobs = .empty ∧ b.results = .empty ∧ b.logs = .empty

def Sound (b : JobStore) : Prop :=
  ∀ id, (b.dossier id).Sound id

end JobStore

/-!
# Dossiers in their stages
-/

theorem Job.running_iff_isLeased {job : Job} (idle : job.status ≠ .running)
    (free : job.IsFree) : job.status = .running ↔ job.IsLeased := by
  constructor
  · intro running
    exact absurd running idle
  · intro leased
    exact absurd leased (Job.not_isLeased_of_isFree free)

namespace Dossier

theorem sound_absent (id : String) : Sound id ⟨none, none, none⟩ := by
  constructor <;> simp

theorem sound_some {id : String} {job : Job} {result : Option Job.Result}
    {log : Option (List Job.LogLine)} (name : job.id = id)
    (leased : job.status = .running ↔ job.IsLeased)
    (free : job.status ≠ .running → job.IsFree)
    (pending : job.status = .queued ∨ job.status = .running → result = none)
    (ended : job.status = .succeeded ∨ job.status = .failed →
      ∃ r, result = some r ∧ r.status = job.status)
    (cancelled : job.status = .cancelled →
      (result = none ∧ ∃ line, log = some [line] ∧ line.message = withdrawalText) ∨
        ∃ r, result = some r ∧ r.status = .cancelled)
    (resultName : ∀ r, result = some r → r.jobId = id)
    (logName : ∀ lines, log = some lines → ∀ line ∈ lines, line.jobId = id) :
    Sound id ⟨some job, result, log⟩ := by
  constructor
  · intro j hj
    cases hj
    exact name
  · intro j hj
    cases hj
    exact leased
  · intro j hj
    cases hj
    exact free
  · intro j hj
    cases hj
    exact pending
  · intro j hj
    cases hj
    exact ended
  · intro j hj
    cases hj
    exact cancelled
  · intro r hr
    exact ⟨resultName r hr, job, rfl⟩
  · intro lines hlines
    exact ⟨logName lines hlines, job, rfl⟩

theorem sound_queued {id : String} {job : Job} (name : job.id = id)
    (status : job.status = .queued) (free : job.IsFree) : Sound id ⟨some job, none, none⟩ := by
  have idle : job.status ≠ .running := by
    rw [status]
    decide
  refine sound_some name (Job.running_iff_isLeased idle free) (fun _ => free) (fun _ => rfl)
    ?_ ?_ ?_ ?_
  · intro ended
    simp [status] at ended
  · intro cancelled
    simp [status] at cancelled
  · intro r hr
    cases hr
  · intro lines hlines
    cases hlines

theorem sound_running {id : String} {job : Job} {log : List Job.LogLine}
    (name : job.id = id) (status : job.status = .running) (leased : job.IsLeased)
    (own : ∀ line ∈ log, line.jobId = id) : Sound id ⟨some job, none, some log⟩ := by
  refine sound_some name ⟨fun _ => leased, fun _ => status⟩ (fun idle => absurd status idle)
    (fun _ => rfl) ?_ ?_ ?_ ?_
  · intro ended
    simp [status] at ended
  · intro cancelled
    simp [status] at cancelled
  · intro r hr
    cases hr
  · intro lines hlines
    cases hlines
    exact own

theorem sound_finished {id : String} {job : Job} {result : Job.Result}
    {log : List Job.LogLine} (name : job.id = id) (terminal : job.status.isTerminal = true)
    (free : job.IsFree) (resultName : result.jobId = id) (status : result.status = job.status)
    (own : ∀ line ∈ log, line.jobId = id) : Sound id ⟨some job, some result, some log⟩ := by
  have idle : job.status ≠ .running := by
    intro running
    simp [running, Job.Status.isTerminal] at terminal
  apply sound_some name (Job.running_iff_isLeased idle free) (fun _ => free)
  · intro pending
    rcases pending with pending | pending
    · simp [pending, Job.Status.isTerminal] at terminal
    · exact absurd pending idle
  · intro _
    exact ⟨result, rfl, status⟩
  · intro cancelled
    exact Or.inr ⟨result, rfl, status.trans cancelled⟩
  · intro r hr
    cases hr
    exact resultName
  · intro lines hlines
    cases hlines
    exact own

theorem sound_withdrawn {id : String} {job : Job} {line : Job.LogLine} (name : job.id = id)
    (status : job.status = .cancelled) (free : job.IsFree) (own : line.jobId = id)
    (text : line.message = withdrawalText) : Sound id ⟨some job, none, some [line]⟩ := by
  have idle : job.status ≠ .running := by
    rw [status]
    decide
  refine sound_some name (Job.running_iff_isLeased idle free) (fun _ => free) (fun _ => rfl)
    ?_ ?_ ?_ ?_
  · intro ended
    simp [status] at ended
  · intro _
    exact Or.inl ⟨rfl, line, rfl, text⟩
  · intro r hr
    cases hr
  · intro lines hlines
    cases hlines
    intro other hother
    rw [List.mem_singleton.mp hother]
    exact own

theorem Stage.sound {id : String} {r : Dossier} (stage : r.Stage id) : r.Sound id := by
  cases stage with
  | absent => exact sound_absent id
  | queued name status free => exact sound_queued name status free
  | running name status leased own => exact sound_running name status leased own
  | finished name terminal free resultName status own =>
      exact sound_finished name terminal free resultName status own
  | withdrawn name status free own text => exact sound_withdrawn name status free own text

end Dossier

/-!
# Runs from an empty job store
-/

namespace JobStore

theorem IsEmpty.staged {b : JobStore} (h : b.IsEmpty) : b.Staged := by
  intro id
  rcases h with ⟨jobs, results, logs⟩
  have absent : b.dossier id = ⟨none, none, none⟩ := by
    simp [dossier, jobs, results, logs]
  rw [absent]
  exact .absent

theorem IsEmpty.numbered {b : JobStore} (h : b.IsEmpty) : b.Numbered b.lastSeq := by
  intro _
  have missing : ∀ id, b.jobs.get? id = none := by
    intro id
    rw [h.1]
    rfl
  constructor
  · rw [h.1]
    rfl
  · intro id job hjob
    simp [missing] at hjob
  · intro id job hjob
    simp [missing] at hjob
  · intro id id' job job' hjob
    simp [missing] at hjob

end JobStore

namespace Plane

theorem staged_after {p : Plane} {steps : List Step} (staged : p.state.jobStore.Staged)
    (fresh : p.RunsFresh steps) : (p.after steps).state.jobStore.Staged :=
  after_of_next (P := fun q => q.state.jobStore.Staged)
    (fun _ _ staged names => staged_next staged names) staged fresh

theorem numbered_next {p : Plane} {step : Step} {start : UInt64}
    (staged : p.state.jobStore.Staged) (numbered : p.state.jobStore.Numbered start)
    (names : step.fresh.NamesNewJobs p.state) :
    (p.next step).state.jobStore.Numbered start :=
  ((p.effect_next step staged).preserve
    (fun step => step.numbered names.1) ⟨numbered, names.namedByNumber⟩).1

theorem size_le_next {p : Plane} (step : Step) (staged : p.state.jobStore.Staged) :
    p.state.jobs.size ≤ (p.next step).state.jobs.size :=
  (p.effect_next step staged).preserve
    (P := fun b => p.state.jobs.size ≤ b.jobs.size)
    (fun step le => Nat.le_trans le step.size_le) (Nat.le_refl _)

theorem size_le_after {p : Plane} {steps : List Step} (staged : p.state.jobStore.Staged)
    (fresh : p.RunsFresh steps) :
    p.state.jobs.size ≤ (p.after steps).state.jobs.size := by
  induction steps generalizing p with
  | nil => exact Nat.le_refl _
  | cons step rest ih =>
      exact Nat.le_trans (size_le_next step staged) (ih (staged_next staged fresh.1) fresh.2)

/-- Jobs that are created by the operations of a run are counted, unless the numbers have run
out. -/
theorem numbered_after {p : Plane} {steps : List Step} (empty : p.state.jobStore.IsEmpty)
    (fresh : p.RunsFresh steps) : (p.after steps).state.jobStore.Numbered p.state.lastSeq := by
  have both : (p.after steps).state.jobStore.Staged ∧
      (p.after steps).state.jobStore.Numbered p.state.lastSeq := by
    refine after_of_next
      (P := fun q => q.state.jobStore.Staged ∧ q.state.jobStore.Numbered p.state.lastSeq)
      ?_ ⟨empty.staged, empty.numbered⟩ fresh
    intro q step h names
    exact ⟨staged_next h.1 names, numbered_next h.1 h.2 names⟩
  exact both.2

/-- After any fresh run from an empty job store, all rows fit together, and unless the
numbers have run out no two jobs have one number, and none has one that is not given. -/
theorem sound_after {p : Plane} {steps : List Step} (empty : p.state.jobStore.IsEmpty)
    (fresh : p.RunsFresh steps) :
    (p.after steps).state.jobStore.Sound ∧
      (p.after steps).state.jobStore.Numbered p.state.lastSeq :=
  ⟨fun id => (staged_after empty.staged fresh id).sound, numbered_after empty fresh⟩

/-- There are no jobs at first, and each step names them by a letter of its own. -/
theorem runsFresh_of_letters {p : Plane} {steps : List Step} (empty : p.state.jobStore.IsEmpty)
    (letters : List Char) (distinct : letters.Nodup)
    (lettered : steps.map Step.fresh = letters.map Fresh.strokes) : p.RunsFresh steps := by
  refine runsFresh_of_apart empty.staged ?_ ?_ ?_
  · intro step mem
    have named : step.fresh ∈ steps.map Step.fresh := List.mem_map_of_mem mem
    rw [lettered] at named
    rcases List.mem_map.mp named with ⟨letter, _, same⟩
    rw [← same]
    exact Fresh.strokes_injective letter
  · have apart : (letters.map Fresh.strokes).Pairwise (fun a b => ∀ m n, b.job m ≠ a.job n) :=
      List.pairwise_map.mpr (distinct.imp fun ne => Fresh.strokes_apart ne.symm)
    rw [← lettered] at apart
    exact List.pairwise_map.mp apart
  · intro step _ n
    have jobs : p.state.jobs = .empty := empty.1
    rw [jobs]
    rfl

def withdrawalRun : List Step :=
  [{ fresh := .strokes 'a', now := .epoch, observers := []
     operation := .createJob ⟨"node.reboot", .empty, none⟩ "operator" },
   { fresh := .strokes 'b', now := .epoch, observers := []
     operation := .cancelJob "a|" "operator" }]

theorem sound_after_withdrawal :
    (idle (.standard "")).state.jobStore.IsEmpty ∧
      (idle (.standard "")).RunsFresh withdrawalRun ∧
      (((idle (.standard "")).after withdrawalRun).state.jobs.get? "a|").map Job.status =
        some .cancelled ∧
      ((idle (.standard "")).after withdrawalRun).state.jobStore.Sound ∧
      ((idle (.standard "")).after withdrawalRun).state.jobStore.Numbered 0 := by
  have empty : (idle (.standard "")).state.jobStore.IsEmpty := ⟨rfl, rfl, rfl⟩
  have fresh : (idle (.standard "")).RunsFresh withdrawalRun :=
    runsFresh_of_letters empty ['a', 'b'] (by decide) rfl
  exact ⟨empty, fresh, by decide +kernel, sound_after empty fresh⟩

end Plane
end FleetControl
