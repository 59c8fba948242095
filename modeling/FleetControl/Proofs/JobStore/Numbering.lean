import FleetControl.Proofs.JobStore.Change

/-!
# The numbers of jobs

Jobs are numbered in the order in which they are created, and the last number is kept.
As long as the count of jobs does not reach the end of the numbers, no number is given
twice.
-/

namespace FleetControl

open Time

theorem toNat_next {n : UInt64} (room : n.toNat + 1 < UInt64.size) :
    (n + 1).toNat = n.toNat + 1 := by
  rw [UInt64.toNat_add]
  exact Nat.mod_eq_of_lt room

namespace JobStore

/-- The last number counts the jobs from a start on, and each job has its own number. -/
structure Counted (start : UInt64) (b : JobStore) : Prop where
  count : b.lastSeq.toNat = start.toNat + b.jobs.size
  above : ∀ id job, b.jobs.get? id = some job → start < job.seq
  bound : ∀ id job, b.jobs.get? id = some job → job.seq ≤ b.lastSeq
  distinct : ∀ id id' job job', b.jobs.get? id = some job → b.jobs.get? id' = some job' →
    job.seq = job'.seq → id = id'

def Numbered (start : UInt64) (b : JobStore) : Prop :=
  start.toNat + b.jobs.size < UInt64.size → b.Counted start

/-- A name to give to a new job is either not in use, or it has been given for its
number. -/
def NamedByNumber (fresh : Fresh) (b : JobStore) : Prop :=
  ∀ n job, b.jobs.get? (fresh.job n) = some job → job.seq = n

end JobStore

theorem Fresh.NamesNewJobs.namedByNumber {fresh : Fresh} {s : State}
    (names : fresh.NamesNewJobs s) : s.jobStore.NamedByNumber fresh := by
  intro n job h
  have missing : s.jobs.get? (fresh.job n) = none := names.2 n
  cases missing.symm.trans h

namespace JobStore

theorem Step.sameOrigin {fresh : Fresh} {cause : Cause} {a b : JobStore}
    (step : Step fresh cause a b) (h : cause ≠ .creation) {id : String} {after : Job}
    (hafter : b.jobs.get? id = some after) :
    ∃ before, a.jobs.get? id = some before ∧ before.SameOrigin after := by
  rcases step.move_of_ne_creation h with ⟨k, rewrites, move⟩
  by_cases hk : id = k
  · subst hk
    rcases Option.isSome_iff_exists.mp move.isSome_job with ⟨before, hbefore⟩
    rcases move.sameOrigin hbefore with ⟨moved, hmoved, same⟩
    have heq : after = moved := Option.some.inj (hafter.symm.trans hmoved)
    rw [heq]
    exact ⟨before, hbefore, same⟩
  · have same : b.jobs.get? id = a.jobs.get? id :=
      congrArg Dossier.job (rewrites.others id hk)
    exact ⟨after, same.symm.trans hafter, .refl after⟩

theorem Steps.missing {fresh : Fresh} {cause : Cause} {a b : JobStore}
    (steps : Steps fresh cause a b) (h : cause ≠ .creation) {id : String}
    (missing : a.jobs.get? id = none) : b.jobs.get? id = none := by
  induction steps with
  | refl => exact missing
  | @tail m b _ step ih =>
      cases hafter : b.jobs.get? id with
      | none => rfl
      | some after =>
          rcases step.sameOrigin h hafter with ⟨before, hbefore, _⟩
          cases ih.symm.trans hbefore

theorem Counted.of_move {start : UInt64} {fresh : Fresh} {cause : Cause} {a b : JobStore}
    (counted : a.Counted start) (step : Step fresh cause a b) (h : cause ≠ .creation) :
    b.Counted start := by
  rcases step.move_of_ne_creation h with ⟨k, rewrites, _⟩
  constructor
  · rw [rewrites.lastSeq, rewrites.size]
    exact counted.count
  · intro id after hafter
    rcases step.sameOrigin h hafter with ⟨before, hbefore, same⟩
    rw [← same.seq]
    exact counted.above id before hbefore
  · intro id after hafter
    rcases step.sameOrigin h hafter with ⟨before, hbefore, same⟩
    rw [rewrites.lastSeq, ← same.seq]
    exact counted.bound id before hbefore
  · intro id id' after after' hafter hafter' heq
    rcases step.sameOrigin h hafter with ⟨before, hbefore, same⟩
    rcases step.sameOrigin h hafter' with ⟨before', hbefore', same'⟩
    apply counted.distinct id id' before before' hbefore hbefore'
    rw [same.seq, same'.seq]
    exact heq

theorem get?_add_eq_some {b : JobStore} {job : Job} {id : String} {other : Job}
    (h : (b.add job).jobs.get? id = some other) :
    (id = job.id ∧ other = job) ∨ (id ≠ job.id ∧ b.jobs.get? id = some other) := by
  simp only [add, Table.get?_insert] at h
  split at h
  · rename_i hid
    exact Or.inl ⟨hid, (Option.some.inj h).symm⟩
  · rename_i hid
    exact Or.inr ⟨hid, h⟩

theorem Counted.of_add {start : UInt64} {b : JobStore} {job : Job}
    (counted : b.Counted start) (seq : job.seq = b.lastSeq + 1)
    (missing : b.jobs.get? job.id = none)
    (room : start.toNat + (b.jobs.size + 1) < UInt64.size) :
    (b.add job).Counted start := by
  have next : job.seq.toNat = b.lastSeq.toNat + 1 := by
    have count := counted.count
    have bound : b.lastSeq.toNat + 1 < UInt64.size := by omega
    rw [seq, toNat_next bound]
  have later : ∀ id other, b.jobs.get? id = some other → other.seq < job.seq := by
    intro id other hother
    have bound := UInt64.le_iff_toNat_le.mp (counted.bound id other hother)
    rw [UInt64.lt_iff_toNat_lt]
    omega
  constructor
  · have count := counted.count
    show job.seq.toNat = start.toNat + (b.jobs.insert job.id job).size
    rw [next, Table.size_insert_of_get?_eq_none missing]
    omega
  · intro id other hother
    rcases get?_add_eq_some hother with ⟨_, rfl⟩ | ⟨_, hother⟩
    · have count := counted.count
      rw [UInt64.lt_iff_toNat_lt]
      omega
    · exact counted.above id other hother
  · intro id other hother
    rcases get?_add_eq_some hother with ⟨_, rfl⟩ | ⟨_, hother⟩
    · exact UInt64.le_refl _
    · exact UInt64.le_of_lt (later id other hother)
  · intro id id' other other' hother hother' heq
    rcases get?_add_eq_some hother with ⟨hid, hnew⟩ | ⟨_, hold⟩
    · rcases get?_add_eq_some hother' with ⟨hid', _⟩ | ⟨_, hold'⟩
      · rw [hid, hid']
      · have lt := later id' other' hold'
        rw [← heq, hnew] at lt
        exact absurd lt (UInt64.lt_irrefl _)
    · rcases get?_add_eq_some hother' with ⟨_, hnew'⟩ | ⟨_, hold'⟩
      · have lt := later id other hold
        rw [heq, hnew'] at lt
        exact absurd lt (UInt64.lt_irrefl _)
      · exact counted.distinct id id' other other' hold hold' heq

theorem Counted.seq_ne_next {start : UInt64} {b : JobStore} (counted : b.Counted start)
    {id : String} {job : Job} (h : b.jobs.get? id = some job) : job.seq ≠ b.lastSeq + 1 := by
  have above := UInt64.lt_iff_toNat_lt.mp (counted.above id job h)
  have bound := UInt64.le_iff_toNat_le.mp (counted.bound id job h)
  intro heq
  rw [heq, UInt64.toNat_add] at above bound
  have last : b.lastSeq.toNat < 2 ^ 64 := b.lastSeq.toNat_lt
  rcases Nat.lt_or_ge (b.lastSeq.toNat + 1) (2 ^ 64) with room | full
  · rw [show (1 : UInt64).toNat = 1 from rfl, Nat.mod_eq_of_lt room] at bound
    omega
  · have wrapped : b.lastSeq.toNat + 1 = 2 ^ 64 := by omega
    rw [show (1 : UInt64).toNat = 1 from rfl, wrapped, Nat.mod_self] at above
    omega

theorem Counted.missing {start : UInt64} {fresh : Fresh} {b : JobStore} {job : Job}
    (counted : b.Counted start) (named : b.NamedByNumber fresh)
    (seq : job.seq = b.lastSeq + 1) (name : job.id = fresh.job job.seq) :
    b.jobs.get? job.id = none := by
  cases hget : b.jobs.get? job.id with
  | none => rfl
  | some other =>
      rw [name] at hget
      have same := named job.seq other hget
      exact absurd (same.trans seq) (counted.seq_ne_next hget)

/-!
# Numbers over an operation

While jobs are created, the names that are given stay those of their numbers, so a job
that is new has a name that is not in use.
-/

theorem size_le_add (b : JobStore) (job : Job) : b.jobs.size ≤ (b.add job).jobs.size :=
  b.jobs.size_insert_le job.id job

theorem Step.numbered {fresh : Fresh} {start : UInt64} {cause : Cause} {a b : JobStore}
    (step : Step fresh cause a b) (injective : ∀ m n, fresh.job m = fresh.job n → m = n)
    (h : a.Numbered start ∧ a.NamedByNumber fresh) :
    b.Numbered start ∧ b.NamedByNumber fresh := by
  rcases h with ⟨numbered, named⟩
  cases step with
  | @create _ job seq name status free =>
      constructor
      · intro room
        have counted : a.Counted start := by
          apply numbered
          have le := a.size_le_add job
          omega
        have missing := counted.missing named seq name
        apply counted.of_add seq missing
        have size : (a.add job).jobs.size = a.jobs.size + 1 :=
          Table.size_insert_of_get?_eq_none missing
        omega
      · intro n other hother
        rcases get?_add_eq_some hother with ⟨hn, rfl⟩ | ⟨_, hother⟩
        · exact injective _ _ (name.symm.trans hn.symm)
        · exact named n other hother
  | @move id cause _ _ rewrites move =>
      have step : Step fresh cause a b := .move rewrites move
      have notCreation : cause ≠ .creation := by
        intro heq
        subst heq
        cases move
      constructor
      · intro room
        rw [rewrites.size] at room
        exact (numbered room).of_move step notCreation
      · intro n after hafter
        rcases step.sameOrigin notCreation hafter with ⟨before, hbefore, same⟩
        rw [← same.seq]
        exact named n before hbefore

theorem Step.size_le {fresh : Fresh} {cause : Cause} {a b : JobStore}
    (step : Step fresh cause a b) : a.jobs.size ≤ b.jobs.size := by
  cases step with
  | @create _ job seq name status free => exact a.size_le_add job
  | move rewrites move => exact Nat.le_of_eq rewrites.size.symm

theorem Steps.size_le {fresh : Fresh} {cause : Cause} {a b : JobStore}
    (steps : Steps fresh cause a b) : a.jobs.size ≤ b.jobs.size :=
  steps.preserve (P := fun m => a.jobs.size ≤ m.jobs.size)
    (fun step le => Nat.le_trans le step.size_le) (Nat.le_refl _)

/-- Creating jobs changes no job that is there, unless there are too many for their
numbers. -/
theorem Steps.keeps {fresh : Fresh} {start : UInt64} {a b : JobStore}
    (steps : Steps fresh .creation a b) (injective : ∀ m n, fresh.job m = fresh.job n → m = n)
    (h : a.Numbered start ∧ a.NamedByNumber fresh)
    (room : start.toNat + b.jobs.size < UInt64.size) {id : String} {job : Job}
    (hjob : a.jobs.get? id = some job) : b.jobs.get? id = some job := by
  induction steps with
  | refl => exact hjob
  | @tail m b before step ih =>
      cases step with
      | move _ move => cases move
      | @create _ new seq name status free =>
          rcases Steps.preserve (fun step => step.numbered injective) before h with
            ⟨numbered, named⟩
          have le := m.size_le_add new
          have there := ih (by omega)
          have missing := (numbered (by omega)).missing named seq name
          have other : id ≠ new.id := by
            rintro rfl
            cases missing.symm.trans there
          show (m.jobs.insert new.id new).get? id = some job
          rw [Table.get?_insert, if_neg other, there]

end JobStore
end FleetControl
