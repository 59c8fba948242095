import FleetControl.Proofs.JobStore.Ledger
import FleetControl.Proofs.JobStore.Lifecycle
import FleetControl.Proofs.JobStore.Rows
import FleetControl.Proofs.JobStore.Surroundings

/-!
# Leases that lapse

The sweep looks for leases that have come to their end, and a report of progress for one that
has not.  They compare the end of a lease with the time in opposite ways, and at every instant
one of them takes the job: it is reclaimed, or its lease is extended.
-/

namespace FleetControl

open Refusal
open Time

/-- The job runs, and its lease has come to its end. -/
def Job.Lapsed (job : Job) (now : Instant) : Prop :=
  job.status = .running ∧ ∃ expires, job.lockExpiresAt = some expires ∧ expires ≤ now

theorem Job.Lapsed.mono {job : Job} {earlier now : Instant} (lapsed : job.Lapsed earlier)
    (before : earlier ≤ now) : job.Lapsed now := by
  rcases lapsed with ⟨running, expires, lease, ended⟩
  exact ⟨running, expires, lease, Instant.le_trans ended before⟩

namespace State

variable {s s' : State} {id agentId : String} {job : Job} {now : Instant}

/-!
# The sweep
-/

theorem mem_lapsedIds_iff (named : s.jobStore.Named) :
    id ∈ s.lapsedIds now ↔ ∃ job, s.jobs.get? id = some job ∧ job.Lapsed now := by
  constructor
  · intro mem
    rcases mem_lapsedIds named mem with ⟨job, found, lapsed⟩
    exact ⟨job, found, hasLapsed_iff.mp lapsed⟩
  · rintro ⟨job, found, lapsed⟩
    refine List.mem_map.mpr ⟨job, List.mem_filter.mpr ⟨?_, hasLapsed_iff.mpr lapsed⟩, ?_⟩
    · exact Table.mem_values_iff.mpr ⟨id, found⟩
    · exact named id job found

/-- The sweep leaves the job alone. -/
structure Spares (s : State) (now : Instant) (id : String) : Prop where
  kept : (s.expireStale now).2.dossier id = s.dossier id
  silent : ∀ row ∈ (s.expireStale now).1, row.id ≠ id

theorem spares_of_not_mem (staged : s.jobStore.Staged) (other : id ∉ s.lapsedIds now) :
    s.Spares now id where
  kept := (reclaims_expireStale staged now).kept id other
  silent := by
    rintro row mem rfl
    rw [← names_expireStale staged] at other
    exact other (List.mem_map_of_mem mem)

theorem spares_iff (staged : s.jobStore.Staged) (found : s.jobs.get? id = some job) :
    s.Spares now id ↔ ¬ job.Lapsed now := by
  constructor
  · intro spares lapsed
    have mem := (mem_lapsedIds_iff staged.named).mpr ⟨job, found, lapsed⟩
    rw [← names_expireStale staged] at mem
    rcases List.mem_map.mp mem with ⟨row, mem, name⟩
    exact spares.silent row mem name
  · intro live
    refine spares_of_not_mem staged fun mem => live ?_
    rcases (mem_lapsedIds_iff staged.named).mp mem with ⟨other, found', lapsed⟩
    cases found.symm.trans found'
    exact lapsed

/-- The sweep reclaims the jobs whose lease has come to its end, hands back their rows as they
are then, and touches nothing else; it leaves nothing to a sweep that is not later. -/
structure Sweeps (s : State) (now : Instant) (rows : List Job) (s' : State) : Prop where
  reclaimed : ∀ id job, s.jobs.get? id = some job → job.Lapsed now →
    Reclaimed id now (s.dossier id) (s'.dossier id)
  kept : ∀ id, (∀ job, s.jobs.get? id = some job → ¬ job.Lapsed now) →
    s'.dossier id = s.dossier id
  returned : ∀ row, row ∈ rows ↔
    ∃ job, s.jobs.get? row.id = some job ∧ job.Lapsed now ∧ row = job.closed .failed now
  once : (rows.map Job.id).Nodup
  surroundings : s'.surroundings = s.surroundings
  again : ∀ earlier, earlier ≤ now → s'.expireStale earlier = ([], s')

theorem not_lapsed_of_reclaimed {a b : Dossier} {earlier : Instant}
    (reclaimed : Reclaimed id now a b) (after : b.job = some job) : ¬ job.Lapsed earlier := by
  cases reclaimed
  cases after
  rintro ⟨running, -⟩
  cases running

theorem expireStale_of_lapsedIds (none_ : s.lapsedIds now = []) : s.expireStale now = ([], s) := by
  rw [expireStale, none_]
  rfl

theorem reclaimed_of_lapsed (staged : s.jobStore.Staged) (found : s.jobs.get? id = some job)
    (lapsed : job.Lapsed now) :
    Reclaimed id now (s.dossier id) ((s.expireStale now).2.dossier id) :=
  (reclaims_expireStale staged now).changed id
    ((mem_lapsedIds_iff staged.named).mpr ⟨job, found, lapsed⟩)

theorem closed_of_lapsed (staged : s.jobStore.Staged) (found : s.jobs.get? id = some job)
    (lapsed : job.Lapsed now) :
    (s.expireStale now).2.jobs.get? id = some (job.closed .failed now) :=
  (reclaimed_of_lapsed staged found lapsed).closes found

/-- The rows that are handed back are the lapsed ones, as the sweep leaves them. -/
theorem mem_expireStale_iff (staged : s.jobStore.Staged) {row : Job} :
    row ∈ (s.expireStale now).1 ↔
      ∃ job, s.jobs.get? row.id = some job ∧ job.Lapsed now ∧ row = job.closed .failed now := by
  have names := names_expireStale staged now
  constructor
  · intro mem
    have lapsed : row.id ∈ s.lapsedIds now := names ▸ List.mem_map_of_mem mem
    rcases (mem_lapsedIds_iff staged.named).mp lapsed with ⟨job, found, lapsed⟩
    have there := get?_of_mem_expireStale staged mem
    exact ⟨job, found, lapsed,
      Option.some.inj (there.symm.trans (closed_of_lapsed staged found lapsed))⟩
  · rintro ⟨job, found, lapsed, closed⟩
    have mem := (mem_lapsedIds_iff staged.named).mpr ⟨job, found, lapsed⟩
    rw [← names] at mem
    rcases List.mem_map.mp mem with ⟨other, mem, name⟩
    have there := get?_of_mem_expireStale staged mem
    rw [name, closed_of_lapsed staged found lapsed, ← closed] at there
    rw [Option.some.inj there]
    exact mem

theorem not_lapsed_after_expireStale (staged : s.jobStore.Staged) {earlier : Instant}
    (before : earlier ≤ now) (found : (s.expireStale now).2.jobs.get? id = some job) :
    ¬ job.Lapsed earlier := by
  have marks := reclaims_expireStale staged now
  by_cases swept : id ∈ s.lapsedIds now
  · exact not_lapsed_of_reclaimed (marks.changed id swept) found
  · intro lapsed
    have found' : s.jobs.get? id = some job :=
      (congrArg Dossier.job (marks.kept id swept)).symm.trans found
    exact swept ((mem_lapsedIds_iff staged.named).mpr ⟨job, found', lapsed.mono before⟩)

theorem sweeps_expireStale (staged : s.jobStore.Staged) (now : Instant) :
    s.Sweeps now (s.expireStale now).1 (s.expireStale now).2 where
  reclaimed := fun _ _ found lapsed => reclaimed_of_lapsed staged found lapsed
  kept := by
    intro id live
    refine (reclaims_expireStale staged now).kept id fun mem => ?_
    rcases (mem_lapsedIds_iff staged.named).mp mem with ⟨job, found, lapsed⟩
    exact live job found lapsed
  returned := fun _ => mem_expireStale_iff staged
  once := names_expireStale staged now ▸ nodup_lapsedIds staged.named
  surroundings := s.surroundings_expireStale now
  again := by
    intro earlier before
    have staged' : (s.expireStale now).2.jobStore.Staged :=
      (marks_expireStale staged now).staged staged
    refine expireStale_of_lapsedIds (List.eq_nil_iff_forall_not_mem.mpr fun id mem => ?_)
    rcases (mem_lapsedIds_iff staged'.named).mp mem with ⟨job, found, lapsed⟩
    exact not_lapsed_after_expireStale staged before found lapsed

/-!
# Progress
-/

theorem extendLock_eq (found : s.jobs.get? id = some job) (running : job.status = .running)
    {expires : Instant} (lease : job.lockExpiresAt = some expires) (expiry now : Instant) :
    s.extendLock id expiry now =
      if now < expires then
        .ok (expires.later expiry, s.putJob id (job.extended (expires.later expiry) now))
      else .error (.leaseExpired id) := by
  unfold extendLock
  rw [findJob_eq_ok.mpr found]
  show (if job.status = .running then _ else _) = _
  rw [if_pos running, lease]
  rfl

structure Holds (s : State) (agentId id : String) (report : LogReport) (job : Job) : Prop where
  found : s.jobs.get? id = some job
  running : job.status = .running
  holder : job.lockedBy = some agentId
  name : report.jobId = id
  token : report.lockToken = none ∨ report.lockToken = job.lockToken

variable {report : LogReport}

/-- Only the end of its lease stands against a report by the holder. -/
theorem submitLogs_eq (staged : s.jobStore.Staged) (holds : s.Holds agentId id report job)
    {policy : ReportPolicy} {expiry : Instant}
    (ends : now.addSeconds? policy.leaseSeconds = some expiry) :
    ∃ lease s', job.lockExpiresAt = some lease ∧
      s.submitLogs agentId id report policy now =
        if now < lease then .ok (lease.later expiry, s') else .error (.leaseExpired id) := by
  rcases (staged id).of_running holds.found holds.running with ⟨fields, -⟩
  rcases Option.isSome_iff_exists.mp fields.2.2 with ⟨lease, leased⟩
  unfold submitLogs
  rw [checkJobId_eq_ok.mpr holds.name, leaseToken_of_held holds.found holds.running holds.holder]
  simp only [bind, Except.bind, checkToken_of_right fields holds.token,
    extendLock_eq holds.found holds.running leased, Instant.addSeconds_of_eq_some ends]
  by_cases early : now < lease
  · simp only [if_pos early]
    exact ⟨lease, _, leased, (if_pos early).symm⟩
  · simp only [if_neg early]
    exact ⟨lease, s, leased, (if_neg early).symm⟩

theorem lapsed_iff_of_leased {lease : Instant} (running : job.status = .running)
    (leased : job.lockExpiresAt = some lease) : job.Lapsed now ↔ lease ≤ now := by
  constructor
  · rintro ⟨-, other, leased', ended⟩
    cases leased.symm.trans leased'
    exact ended
  · intro ended
    exact ⟨running, lease, leased, ended⟩

theorem submitLogs_isOk_iff (staged : s.jobStore.Staged) (holds : s.Holds agentId id report job)
    {policy : ReportPolicy} {expiry : Instant}
    (ends : now.addSeconds? policy.leaseSeconds = some expiry) :
    (∃ expires s', s.submitLogs agentId id report policy now = .ok (expires, s')) ↔
      ¬ job.Lapsed now := by
  rcases submitLogs_eq staged holds ends with ⟨lease, s', leased, submitted⟩
  rw [submitted, lapsed_iff_of_leased holds.running leased, ← Instant.not_lt, not_not]
  by_cases early : now < lease
  · rw [if_pos early]
    exact iff_of_true ⟨_, _, rfl⟩ early
  · rw [if_neg early]
    refine iff_of_false ?_ early
    rintro ⟨_, _, refused⟩
    cases refused

theorem expires_of_submitLogs (staged : s.jobStore.Staged) (holds : s.Holds agentId id report job)
    {policy : ReportPolicy} {expiry expires : Instant}
    (ends : now.addSeconds? policy.leaseSeconds = some expiry)
    (h : s.submitLogs agentId id report policy now = .ok (expires, s')) :
    ∃ lease, job.lockExpiresAt = some lease ∧ expires = lease.later expiry := by
  rcases submitLogs_eq staged holds ends with ⟨lease, _, leased, submitted⟩
  rw [h] at submitted
  split at submitted
  · cases submitted
    exact ⟨lease, leased, rfl⟩
  · cases submitted

theorem spares_of_submitLogs {policy : ReportPolicy} {expires earlier : Instant}
    (staged : s.jobStore.Staged)
    (h : s.submitLogs agentId id report policy now = .ok (expires, s'))
    (before : earlier < expires) : s'.Spares earlier id := by
  have staged' : s'.jobStore.Staged :=
    (step_of_submitLogs (.strokes 'a') staged h).staged (by simp) staged
  rcases turns_submitLogs h with ⟨job, running, holder, turns⟩
  refine (spares_iff staged' turns.turned).mpr ?_
  rintro ⟨-, ends, lease, ended⟩
  cases lease
  exact ended before

/-- A report by the holder extends the lease just if a sweep at the same time leaves the job
alone, to the later of its end and the end of a lease from now on, and then so does every sweep
before the end that is returned. -/
structure ExtendsUntilSwept (s : State) (agentId id : String) (report : LogReport) (job : Job)
    (policy : ReportPolicy) (now expiry : Instant) : Prop where
  taken_iff : (∃ expires s', s.submitLogs agentId id report policy now = .ok (expires, s')) ↔
    s.Spares now id
  extends_ : ∀ expires s', s.submitLogs agentId id report policy now = .ok (expires, s') →
    ∃ lease, job.lockExpiresAt = some lease ∧ expires = lease.later expiry
  lasts : ∀ expires s', s.submitLogs agentId id report policy now = .ok (expires, s') →
    ∀ earlier, earlier < expires → s'.Spares earlier id

end State

namespace Plane

variable {p : Plane} {steps : List Step}

/-- On a plane whose jobs have all been created by its own operations, the sweep reclaims just
the leases that have come to their end, and all others can be extended to the end of a lease from
now on, if that is an instant. -/
theorem sweep_complements_progress (empty : p.state.jobStore.IsEmpty) (runs : p.RunsFresh steps)
    (now : Instant) :
    (p.after steps).state.Sweeps now ((p.after steps).state.expireStale now).1
        ((p.after steps).state.expireStale now).2 ∧
      ∀ agentId id report job policy expiry,
        now.addSeconds? policy.leaseSeconds = some expiry →
        (p.after steps).state.Holds agentId id report job →
        (p.after steps).state.ExtendsUntilSwept agentId id report job policy now expiry := by
  have staged := staged_after empty.staged runs
  refine ⟨State.sweeps_expireStale staged now, ?_⟩
  intro agentId id report job policy expiry ends holds
  constructor
  · rw [State.submitLogs_isOk_iff staged holds ends, State.spares_iff staged holds.found]
  · exact fun expires s' taken => State.expires_of_submitLogs staged holds ends taken
  · intro expires s' taken earlier before
    exact State.spares_of_submitLogs staged taken before

def heldReport : LogReport :=
  { jobId := "b|", progress := some 50, message := none, stdout := none, stderr := none
    logs := none, lockToken := none }

theorem sweep_complements_progress_held :
    lostPlane.state.jobStore.IsEmpty ∧ lostPlane.RunsFresh heldRun ∧
      ∃ job, (lostPlane.after heldRun).state.Holds "a" "b|" heldReport job ∧
        (∃ s', (lostPlane.after heldRun).state.submitLogs "a" "b|" heldReport
          lostPlane.reportPolicy (.addSeconds .epoch 599) = .ok (.addSeconds .epoch 1199, s')) ∧
        (job.closed .failed (.addSeconds .epoch 600)) ∈
          ((lostPlane.after heldRun).state.expireStale (.addSeconds .epoch 600)).1 := by
  have empty : lostPlane.state.jobStore.IsEmpty := ⟨rfl, rfl, rfl⟩
  have row : ((lostPlane.after heldRun).state.jobs.get? "b|").map (fun job =>
      (job.id, job.status, job.lockedBy, job.lockExpiresAt)) =
        some ("b|", .running, some "a", some (.addSeconds .epoch 600)) := by
    decide +kernel
  rcases Option.map_eq_some_iff.mp row with ⟨job, found, fields⟩
  simp only [Prod.mk.injEq] at fields
  rcases fields with ⟨name, running, holder, lease⟩
  have holds : (lostPlane.after heldRun).state.Holds "a" "b|" heldReport job :=
    ⟨found, running, holder, rfl, Or.inl rfl⟩
  have staged := staged_after empty.staged runsFresh_heldRun.1
  have ends : (Instant.addSeconds .epoch 599).addSeconds? lostPlane.reportPolicy.leaseSeconds =
      some (.addSeconds .epoch 1199) := by
    decide +kernel
  have early := (sweep_complements_progress empty runsFresh_heldRun.1 (.addSeconds .epoch 599)).2
    "a" "b|" heldReport job lostPlane.reportPolicy _ ends holds
  have late := (sweep_complements_progress empty runsFresh_heldRun.1 (.addSeconds .epoch 600)).1
  refine ⟨empty, runsFresh_heldRun.1, job, holds, ?_, (late.returned _).mpr ?_⟩
  · have live : ¬ job.Lapsed (.addSeconds .epoch 599) := by
      rw [State.lapsed_iff_of_leased running lease]
      decide
    rcases early.taken_iff.mpr ((State.spares_iff staged found).mpr live) with
      ⟨expires, s', taken⟩
    rcases early.extends_ expires s' taken with ⟨before, leased, later⟩
    cases lease.symm.trans leased
    rw [show (Instant.addSeconds .epoch 600).later (.addSeconds .epoch 1199) =
      .addSeconds .epoch 1199 by decide] at later
    exact ⟨s', later ▸ taken⟩
  · refine ⟨job, ?_, ⟨running, _, lease, by decide⟩, rfl⟩
    show (lostPlane.after heldRun).state.jobs.get? job.id = some job
    rw [name, found]

end Plane
end FleetControl
