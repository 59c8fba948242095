import FleetControl.Proofs.JobStore.Numbering
import FleetControl.Proofs.JobStore.Results

/-!
# Which jobs a change is about

The sweep, the dispatch and the creation of jobs name the jobs that they are about.  These are
just the jobs whose dossier changes, and each of them is named once.
-/

namespace FleetControl

open Refusal
open Time

namespace JobStore

structure Marks (change : String → Dossier → Dossier → Prop) (ids : List String)
    (a b : JobStore) : Prop where
  nodup : ids.Nodup
  changed : ∀ id ∈ ids, change id (a.dossier id) (b.dossier id)
  kept : ∀ id, id ∉ ids → b.dossier id = a.dossier id

variable {change : String → Dossier → Dossier → Prop} {a m b : JobStore}

theorem Marks.nil (change : String → Dossier → Dossier → Prop) (a : JobStore) :
    a.Marks change [] a where
  nodup := List.nodup_nil
  changed := by simp
  kept := fun _ _ => rfl

theorem Marks.single {id : String} (changed : change id (a.dossier id) (b.dossier id))
    (kept : ∀ k, k ≠ id → b.dossier k = a.dossier k) : a.Marks change [id] b where
  nodup := List.nodup_singleton id
  changed := by
    intro k mem
    rw [List.mem_singleton.mp mem]
    exact changed
  kept := fun k other => kept k (by simpa using other)

/-- A change that a dossier goes through once at most is about different jobs each time. -/
theorem Marks.append {first second : List String}
    (h : a.Marks change first m) (h' : m.Marks change second b)
    (once : ∀ {id : String} {x y z : Dossier}, change id x y → ¬ change id y z) :
    a.Marks change (first ++ second) b := by
  have apart : ∀ id ∈ first, id ∉ second :=
    fun id mem mem' => once (h.changed id mem) (h'.changed id mem')
  constructor
  · refine List.nodup_append.mpr ⟨h.nodup, h'.nodup, ?_⟩
    rintro id mem _ mem' rfl
    exact apart id mem mem'
  · intro id mem
    rcases List.mem_append.mp mem with mem | mem
    · rw [h'.kept id (apart id mem)]
      exact h.changed id mem
    · rw [← h.kept id fun mem' => apart id mem' mem]
      exact h'.changed id mem
  · intro id other
    rcases not_or.mp (mt List.mem_append.mpr other) with ⟨other, other'⟩
    rw [h'.kept id other', h.kept id other]

theorem Marks.mono {other : String → Dossier → Dossier → Prop} {ids : List String}
    (h : a.Marks change ids b) (weaker : ∀ id {x y : Dossier}, change id x y → other id x y) :
    a.Marks other ids b where
  nodup := h.nodup
  changed := fun id mem => weaker id (h.changed id mem)
  kept := h.kept

theorem Marks.staged {cause : Cause} {ids : List String}
    (marks : a.Marks (fun id => Dossier.Move id cause) ids b) (staged : a.Staged) :
    b.Staged := by
  intro id
  by_cases mem : id ∈ ids
  · exact (staged id).of_move (marks.changed id mem)
  · rw [marks.kept id mem]
    exact staged id

end JobStore

namespace State

variable {s s' : State} {fresh : Fresh} {now : Instant}

/-!
# The sweep
-/

theorem reclaim_of_found {id : String} {job : Job} (found : s.jobs.get? id = some job) :
    (s.reclaim id now).1 = some { job.release with status := .failed, updatedAt := now } := by
  unfold reclaim
  rw [found]
  dsimp only
  split <;> rfl

theorem marks_reclaimAll {ids : List String} (staged : s.jobStore.Staged) (nodup : ids.Nodup)
    (lapsed : ∀ id ∈ ids, ∃ job, s.jobs.get? id = some job ∧ job.hasLapsed now = true) :
    (s.reclaimAll now ids).1.map Job.id = ids ∧
      (∀ row ∈ (s.reclaimAll now ids).1, (s.reclaimAll now ids).2.jobs.get? row.id = some row) ∧
      s.jobStore.Marks (fun id => Reclaimed id now) ids (s.reclaimAll now ids).2.jobStore := by
  induction ids generalizing s with
  | nil => exact ⟨rfl, by simp [reclaimAll], .nil _ _⟩
  | cons id rest ih =>
      rcases lapsed id List.mem_cons_self with ⟨job, found, hlapsed⟩
      rcases List.nodup_cons.mp nodup with ⟨other, nodup⟩
      rcases puts_reclaim staged found hlapsed with ⟨r, puts, reclaimed⟩
      have changed : Reclaimed id now (s.dossier id) ((s.reclaim id now).2.dossier id) := by
        rw [puts.dossier]
        exact reclaimed
      have first : s.jobStore.Marks (fun id => Reclaimed id now) [id]
          (s.reclaim id now).2.jobStore :=
        .single changed puts.rewrites.others
      have later : ∀ k ∈ rest, ∃ job, (s.reclaim id now).2.jobs.get? k = some job ∧
          job.hasLapsed now = true := by
        intro k mem
        rcases lapsed k (List.mem_cons_of_mem _ mem) with ⟨job, found, hlapsed⟩
        have ne : k ≠ id := fun same => other (same ▸ mem)
        exact ⟨job, (congrArg Dossier.job (puts.rewrites.others k ne)).trans found, hlapsed⟩
      rcases ih ((first.mono fun _ => Reclaimed.move).staged staged) nodup later with
        ⟨names, rows, marks⟩
      have once : ∀ {id : String} {x y z : Dossier}, Reclaimed id now x y →
          ¬ Reclaimed id now y z :=
        fun h h' => JobStore.not_lapse_of_lapse h.move h'.move
      have name : job.id = id := (staged id).name found
      have head : (s.reclaim id now).1 = some (job.closed .failed now) := reclaim_of_found found
      have all : (s.reclaimAll now (id :: rest)).1 =
          job.closed .failed now :: ((s.reclaim id now).2.reclaimAll now rest).1 := by
        show (s.reclaim id now).1.toList ++ _ = _
        rw [head]
        rfl
      rw [all]
      refine ⟨?_, ?_, first.append marks once⟩
      · rw [List.map_cons, names]
        exact congrArg (· :: rest) name
      · intro row mem
        rcases List.mem_cons.mp mem with rfl | mem
        · show ((s.reclaim id now).2.reclaimAll now rest).2.jobs.get? job.id = _
          rw [name]
          exact (congrArg Dossier.job (marks.kept id other)).trans (changed.closes found)
        · exact rows row mem

theorem names_expireStale (staged : s.jobStore.Staged) (now : Instant) :
    (s.expireStale now).1.map Job.id = s.lapsedIds now :=
  (marks_reclaimAll staged (nodup_lapsedIds staged.named)
    fun _ mem => mem_lapsedIds staged.named mem).1

theorem get?_of_mem_expireStale (staged : s.jobStore.Staged) {row : Job}
    (mem : row ∈ (s.expireStale now).1) : (s.expireStale now).2.jobs.get? row.id = some row :=
  (marks_reclaimAll staged (nodup_lapsedIds staged.named)
    fun _ mem => mem_lapsedIds staged.named mem).2.1 row mem

theorem reclaims_expireStale (staged : s.jobStore.Staged) (now : Instant) :
    s.jobStore.Marks (fun id => Reclaimed id now) (s.lapsedIds now)
      (s.expireStale now).2.jobStore :=
  (marks_reclaimAll staged (nodup_lapsedIds staged.named)
    fun _ mem => mem_lapsedIds staged.named mem).2.2

theorem marks_expireStale (staged : s.jobStore.Staged) (now : Instant) :
    s.jobStore.Marks (fun id => Dossier.Move id (.lapse now))
      ((s.expireStale now).1.map Job.id) (s.expireStale now).2.jobStore := by
  rw [names_expireStale staged]
  exact (reclaims_expireStale staged now).mono fun _ => Reclaimed.move

/-!
# Dispatch
-/

section Dispatch

variable {policy : DispatchPolicy} {observers : List Observer} {agentId : String}
  {agent : Agent}

theorem marks_leaseJob {id token : String} {ttl : Int} {job : Job} (staged : s.jobStore.Staged)
    (h : s.leaseJob id agentId token ttl now = .ok (job, s')) :
    s.jobStore.Marks (fun id => Dossier.Move id (.lease agentId)) [job.id] s'.jobStore := by
  rcases leaseJob_eq_ok staged h with ⟨before, line, queued, own, hbefore, rfl, puts⟩
  have name : before.id = id := (staged id).name (congrArg Dossier.job hbefore)
  have move : Dossier.Move id (.lease agentId) (s.dossier id) (s'.dossier id) := by
    rw [hbefore, puts.dossier]
    exact .lease queued own
  rw [show (before.leased agentId token (now.addMillis ttl) now).id = id from name]
  exact .single move puts.rewrites.others

theorem marks_leaseCandidates {slots updates : Nat} {ids : List String}
    (staged : s.jobStore.Staged) :
    s.jobStore.Marks (fun id => Dossier.Move id (.lease agentId))
      ((s.leaseCandidates fresh policy observers agentId agent now slots updates ids).1.map
        Job.id)
      (s.leaseCandidates fresh policy observers agentId agent now slots updates
        ids).2.jobStore := by
  induction ids generalizing s slots updates with
  | nil => exact .nil _ _
  | cons id rest ih =>
      unfold leaseCandidates
      split
      · exact .nil _ _
      · split
        · exact ih staged
        · split
          · split
            · exact ih staged
            · rename_i leased s1 hlease
              have first := marks_leaseJob staged hlease
              exact first.append (ih (first.staged staged)) JobStore.not_lease_of_lease
          · exact ih staged

theorem marks_pollForWork {limit : Nat} {outcome : PollOutcome} (staged : s.jobStore.Staged)
    (h : s.pollForWork fresh agentId limit policy observers now = .ok (outcome, s')) :
    ∃ m : State,
      s.jobStore.Marks (fun id => Dossier.Move id (.lapse now)) (outcome.expired.map Job.id)
        m.jobStore ∧
      m.jobStore.Marks (fun id => Dossier.Move id (.lease agentId)) (outcome.leased.map Job.id)
        s'.jobStore := by
  unfold pollForWork at h
  split at h
  · cases h
  · split at h
    · cases h
    · cases h
      have lapsed : s.jobStore.Marks (fun id => Dossier.Move id (.lapse now)) _ _ :=
        marks_expireStale staged now
      exact ⟨_, lapsed, marks_leaseCandidates (lapsed.staged staged)⟩

end Dispatch

end State

/-!
# Creating jobs
-/

def Dossier.Arises (a b : Dossier) : Prop :=
  a.job = none ∧ ∃ job, b.job = some job ∧ job.status = .queued

namespace JobStore

theorem not_arises_of_arises {x y z : Dossier} (h : x.Arises y) : ¬ y.Arises z := by
  rintro ⟨missing, _⟩
  rcases h with ⟨_, job, there, _⟩
  cases missing.symm.trans there

/-- Jobs that are created are new, unless there are too many for their numbers. -/
theorem Created.marks {fresh : Fresh} {start : UInt64} {jobs : List Job} {a b : JobStore}
    (created : Created fresh a jobs b) (injective : ∀ m n, fresh.job m = fresh.job n → m = n)
    (numbers : a.Numbered start ∧ a.NamedByNumber fresh)
    (room : start.toNat + b.jobs.size < UInt64.size) :
    a.Marks (fun _ => Dossier.Arises) (jobs.map Job.id) b := by
  induction created with
  | nil => exact .nil _ _
  | @cons a b job jobs seq name status free later ih =>
      have before := a.size_le_add job
      have after := later.steps.size_le
      have missing : a.jobs.get? job.id = none :=
        (numbers.1 (by omega)).missing numbers.2 seq name
      have first : a.Marks (fun _ => Dossier.Arises) [job.id] (a.add job) := by
        refine .single ⟨missing, job, ?_, status⟩ fun k other => ?_
        · rw [dossier_add, if_pos rfl]
        · rw [dossier_add, if_neg other]
      have numbers' := (Step.create seq name status free).numbered injective numbers
      exact first.append (ih numbers' room) not_arises_of_arises

end JobStore
end FleetControl
