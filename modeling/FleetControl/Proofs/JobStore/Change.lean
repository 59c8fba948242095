import Mathlib.Logic.Relation
import FleetControl.Proofs.JobStore.Dossier
import FleetControl.Proofs.Plane.Run
import FleetControl.Proofs.Table

/-!
# What an operation does to the job store

The job store changes in steps.  A step adds a new job, or it moves the dossier of one
job and leaves all other dossiers alone.  An operation takes steps on one account, or
first on one and then on another: a poll reclaims and then leases, and the result of a
job is taken in before jobs that follow from it are created.  So each dossier changes at
most once in an operation.
-/

namespace FleetControl

open Time

namespace JobStore

/-!
# Steps
-/

structure Rewrites (id : String) (a b : JobStore) : Prop where
  others : ∀ k, k ≠ id → b.dossier k = a.dossier k
  size : b.jobs.size = a.jobs.size
  lastSeq : b.lastSeq = a.lastSeq

theorem Rewrites.refl (id : String) (a : JobStore) : a.Rewrites id a :=
  ⟨fun _ _ => rfl, rfl, rfl⟩

theorem Rewrites.trans {id : String} {a b c : JobStore} (h : a.Rewrites id b)
    (h' : b.Rewrites id c) : a.Rewrites id c :=
  ⟨fun k hk => (h'.others k hk).trans (h.others k hk), h'.size.trans h.size,
    h'.lastSeq.trans h.lastSeq⟩

def add (b : JobStore) (job : Job) : JobStore :=
  { b with jobs := b.jobs.insert job.id job, lastSeq := job.seq }

inductive Step (fresh : Fresh) : Cause → JobStore → JobStore → Prop
  | create {b : JobStore} {job : Job} (seq : job.seq = b.lastSeq + 1)
      (name : job.id = fresh.job job.seq) (status : job.status = .queued)
      (free : job.IsFree) : Step fresh .creation b (b.add job)
  | move {id : String} {cause : Cause} {a b : JobStore} (rewrites : a.Rewrites id b)
      (move : Dossier.Move id cause (a.dossier id) (b.dossier id)) : Step fresh cause a b

def Steps (fresh : Fresh) (cause : Cause) : JobStore → JobStore → Prop :=
  Relation.ReflTransGen (Step fresh cause)

inductive Created (fresh : Fresh) : JobStore → List Job → JobStore → Prop
  | nil {a : JobStore} : Created fresh a [] a
  | cons {a b : JobStore} {job : Job} {jobs : List Job} (seq : job.seq = a.lastSeq + 1)
      (name : job.id = fresh.job job.seq) (status : job.status = .queued) (free : job.IsFree)
      (later : Created fresh (a.add job) jobs b) : Created fresh a (job :: jobs) b

inductive Effect (fresh : Fresh) (now : Instant) : Operation → JobStore → JobStore → Prop
  | creations {operation : Operation} {a b : JobStore} (create : Steps fresh .creation a b) :
      Effect fresh now operation a b
  | poll {a m b : JobStore} {agentId : String} {limit : Option Nat}
      (lapse : Steps fresh (.lapse now) a m) (lease : Steps fresh (.lease agentId) m b) :
      Effect fresh now (.poll agentId limit) a b
  | sweep {a b : JobStore} (lapse : Steps fresh (.lapse now) a b) :
      Effect fresh now .expireStale a b
  | finish {a m b : JobStore} {agentId jobId : String} {report : ResultReport}
      (finish : Step fresh (.finish agentId jobId) a m) (create : Steps fresh .creation m b) :
      Effect fresh now (.submitResult agentId jobId report) a b
  | progress {a b : JobStore} {agentId jobId : String} {report : LogReport}
      (progress : Step fresh (.progress agentId jobId) a b) :
      Effect fresh now (.submitLogs agentId jobId report) a b
  | withdraw {a b : JobStore} {jobId actor : String}
      (withdraw : Step fresh (.withdrawal jobId) a b) :
      Effect fresh now (.cancelJob jobId actor) a b

/-- Every dossier is in one of its stages. -/
def Staged (b : JobStore) : Prop :=
  ∀ id, (b.dossier id).Stage id

/-!
# Dossiers over steps
-/

theorem dossier_add (b : JobStore) (job : Job) (id : String) :
    (b.add job).dossier id =
      if id = job.id then { b.dossier id with job := some job } else b.dossier id := by
  simp only [add, dossier, Table.get?_insert]
  split <;> rfl

theorem Step.move_of_ne_creation {fresh : Fresh} {cause : Cause} {a b : JobStore}
    (step : Step fresh cause a b) (h : cause ≠ .creation) :
    ∃ id, a.Rewrites id b ∧ Dossier.Move id cause (a.dossier id) (b.dossier id) := by
  cases step with
  | create _ _ _ _ =>
      exact absurd rfl h
  | move rewrites move =>
      exact ⟨_, rewrites, move⟩

theorem Step.staged {fresh : Fresh} {cause : Cause} {a b : JobStore}
    (step : Step fresh cause a b) (h : cause ≠ .creation) (staged : a.Staged) :
    b.Staged := by
  rcases step.move_of_ne_creation h with ⟨id, rewrites, move⟩
  intro k
  by_cases hk : k = id
  · subst hk
    exact (staged k).of_move move
  · rw [rewrites.others k hk]
    exact staged k

theorem Steps.staged {fresh : Fresh} {cause : Cause} {a b : JobStore}
    (steps : Steps fresh cause a b) (h : cause ≠ .creation) (staged : a.Staged) :
    b.Staged := by
  induction steps with
  | refl =>
      exact staged
  | tail _ step ih =>
      exact step.staged h ih

theorem Created.trans {fresh : Fresh} {a m b : JobStore} {jobs more : List Job}
    (first : Created fresh a jobs m) (second : Created fresh m more b) :
    Created fresh a (jobs ++ more) b := by
  induction first with
  | nil => exact second
  | cons seq name status free later ih => exact .cons seq name status free (ih second)

theorem Created.steps {fresh : Fresh} {a b : JobStore} {jobs : List Job}
    (created : Created fresh a jobs b) : Steps fresh .creation a b := by
  induction created with
  | nil => exact .refl
  | cons seq name status free later ih => exact .head (.create seq name status free) ih

/-- On an account whose moves do not follow one another, a dossier moves once. -/
theorem Steps.dossier {fresh : Fresh} {cause : Cause} {a b : JobStore}
    (steps : Steps fresh cause a b) (h : cause ≠ .creation)
    (once : ∀ {id : String} {x y z : Dossier},
      Dossier.Move id cause x y → ¬ Dossier.Move id cause y z) (id : String) :
    b.dossier id = a.dossier id ∨ Dossier.Move id cause (a.dossier id) (b.dossier id) := by
  induction steps with
  | refl =>
      exact Or.inl rfl
  | @tail m b _ step ih =>
      rcases step.move_of_ne_creation h with ⟨k, rewrites, move⟩
      by_cases hk : id = k
      · subst hk
        rcases ih with same | moved
        · rw [same] at move
          exact Or.inr move
        · exact absurd move (once moved)
      · rw [rewrites.others id hk]
        exact ih

theorem not_lapse_of_lapse {now : Instant} {id : String} {x y z : Dossier}
    (h : Dossier.Move id (.lapse now) x y) : ¬ Dossier.Move id (.lapse now) y z := by
  intro h'
  cases h
  cases h'

theorem not_lease_of_lease {agentId : String} {id : String} {x y z : Dossier}
    (h : Dossier.Move id (.lease agentId) x y) : ¬ Dossier.Move id (.lease agentId) y z := by
  intro h'
  cases h
  cases h'

theorem not_lease_of_lapse {agentId : String} {now : Instant} {id : String} {x y z : Dossier}
    (h : Dossier.Move id (.lapse now) x y) : ¬ Dossier.Move id (.lease agentId) y z := by
  intro h'
  cases h
  cases h'

/-!
# New jobs

Creating jobs leaves every dossier alone whose name is not one of the names to give.
-/

def IsNew (fresh : Fresh) (job : Job) : Prop :=
  job.id = fresh.job job.seq ∧ job.status = .queued ∧ job.IsFree

theorem Steps.dossier_of_creation {fresh : Fresh} {a b : JobStore}
    (steps : Steps fresh .creation a b) (id : String) :
    b.dossier id = a.dossier id ∨
      ∃ job, IsNew fresh job ∧ job.id = id ∧
        b.dossier id = { a.dossier id with job := some job } := by
  induction steps with
  | refl =>
      exact Or.inl rfl
  | @tail m b _ step ih =>
      cases step with
      | move rewrites move =>
          cases move
      | @create _ job seq name status free =>
          rw [dossier_add]
          by_cases hid : id = job.id
          · subst hid
            rw [if_pos rfl]
            refine Or.inr ⟨job, ⟨name, status, free⟩, rfl, ?_⟩
            rcases ih with same | ⟨_, _, _, same⟩ <;> rw [same]
          · rw [if_neg hid]
            exact ih

theorem Steps.dossier_of_not_named {fresh : Fresh} {a b : JobStore}
    (steps : Steps fresh .creation a b) {id : String} (h : ∀ n, id ≠ fresh.job n) :
    b.dossier id = a.dossier id := by
  rcases steps.dossier_of_creation id with same | ⟨job, new, name, _⟩
  · exact same
  · exact absurd (name.symm.trans new.1) (h job.seq)

/-!
# Dossiers over an operation
-/

theorem Steps.preserve {fresh : Fresh} {cause : Cause} {P : JobStore → Prop}
    (keep : ∀ {cause a b}, Step fresh cause a b → P a → P b) {a b : JobStore}
    (steps : Steps fresh cause a b) (h : P a) : P b := by
  induction steps with
  | refl => exact h
  | tail _ step ih => exact keep step ih

/-- What every step keeps, an operation keeps. -/
theorem Effect.preserve {fresh : Fresh} {now : Instant} {operation : Operation}
    {P : JobStore → Prop} (keep : ∀ {cause a b}, Step fresh cause a b → P a → P b)
    {a b : JobStore} (effect : Effect fresh now operation a b) (h : P a) : P b := by
  cases effect with
  | creations create => exact create.preserve keep h
  | poll lapse lease => exact lease.preserve keep (lapse.preserve keep h)
  | sweep lapse => exact lapse.preserve keep h
  | finish finish create => exact create.preserve keep (keep finish h)
  | progress progress => exact keep progress h
  | withdraw withdraw => exact keep withdraw h

end JobStore

def Operation.Moves (now : Instant) : Operation → Cause → Prop
  | .poll agentId _, cause => cause = .lapse now ∨ cause = .lease agentId
  | .expireStale, cause => cause = .lapse now
  | .submitResult agentId jobId _, cause => cause = .finish agentId jobId
  | .submitLogs agentId jobId _, cause => cause = .progress agentId jobId
  | .cancelJob jobId _, cause => cause = .withdrawal jobId
  | _, _ => False

/-- What an operation may do to one dossier. -/
inductive Dossier.Change (fresh : Fresh) (now : Instant) (operation : Operation)
    (id : String) : Dossier → Dossier → Prop
  | keep {r : Dossier} : Change fresh now operation id r r
  | create {job : Job} (new : JobStore.IsNew fresh job) (name : job.id = id) :
      Change fresh now operation id { job := none, result := none, log := none }
        { job := some job, result := none, log := none }
  | move {cause : Cause} {a b : Dossier} (moves : operation.Moves now cause)
      (move : Dossier.Move id cause a b) : Change fresh now operation id a b

namespace JobStore

theorem Staged.dossier_eq_absent {a : JobStore} (staged : a.Staged) {id : String}
    (h : a.jobs.get? id = none) :
    a.dossier id = { job := none, result := none, log := none } :=
  (staged id).eq_absent h

theorem Steps.change_of_creation {fresh : Fresh} {now : Instant} {operation : Operation}
    {a b : JobStore} (steps : Steps fresh .creation a b) (staged : a.Staged)
    (names : ∀ n, a.jobs.get? (fresh.job n) = none) (id : String) :
    Dossier.Change fresh now operation id (a.dossier id) (b.dossier id) := by
  rcases steps.dossier_of_creation id with same | ⟨job, new, name, same⟩
  · rw [same]
    exact .keep
  · have absent : a.dossier id = { job := none, result := none, log := none } := by
      apply staged.dossier_eq_absent
      rw [← name, new.1]
      exact names job.seq
    rw [same, absent]
    exact .create new name

theorem Step.change_of_moves {fresh : Fresh} {now : Instant} {operation : Operation}
    {cause : Cause} {a b : JobStore} (step : Step fresh cause a b) (h : cause ≠ .creation)
    (moves : operation.Moves now cause) (id : String) :
    Dossier.Change fresh now operation id (a.dossier id) (b.dossier id) := by
  rcases step.move_of_ne_creation h with ⟨k, rewrites, move⟩
  by_cases hk : id = k
  · subst hk
    exact .move moves move
  · rw [rewrites.others id hk]
    exact .keep

theorem Step.names {fresh : Fresh} {cause : Cause} {a b : JobStore}
    (step : Step fresh cause a b) (h : cause ≠ .creation)
    (names : ∀ n, a.jobs.get? (fresh.job n) = none) (n : UInt64) :
    b.jobs.get? (fresh.job n) = none := by
  rcases step.move_of_ne_creation h with ⟨id, rewrites, move⟩
  have absent : (a.dossier (fresh.job n)).job = none := names n
  have hid : fresh.job n ≠ id := by
    intro hid
    have job := move.isSome_job
    rw [← hid, absent] at job
    cases job
  exact (congrArg Dossier.job (rewrites.others _ hid)).trans absent

theorem Effect.change {fresh : Fresh} {now : Instant} {operation : Operation}
    {a b : JobStore} (effect : Effect fresh now operation a b) (staged : a.Staged)
    (names : ∀ n, a.jobs.get? (fresh.job n) = none) (id : String) :
    Dossier.Change fresh now operation id (a.dossier id) (b.dossier id) := by
  cases effect with
  | creations create =>
      exact create.change_of_creation staged names id
  | @poll _ m _ agentId limit lapse lease =>
      have lapsed := lapse.dossier (by simp) not_lapse_of_lapse id
      have leased := lease.dossier (by simp) not_lease_of_lease id
      rcases lapsed with same | lapsed
      · rw [same] at leased
        rcases leased with same | leased
        · rw [same]
          exact .keep
        · exact .move (Or.inr rfl) leased
      · rcases leased with same | leased
        · rw [same]
          exact .move (Or.inl rfl) lapsed
        · exact absurd leased (not_lease_of_lapse lapsed)
  | sweep lapse =>
      rcases lapse.dossier (by simp) not_lapse_of_lapse id with same | lapsed
      · rw [same]
        exact .keep
      · exact .move rfl lapsed
  | @finish _ m _ agentId jobId report finish create =>
      rcases finish.move_of_ne_creation (by simp) with ⟨k, rewrites, move⟩
      by_cases hk : id = k
      · subst hk
        have finished : b.dossier id = m.dossier id := by
          apply create.dossier_of_not_named
          intro n hn
          have job := move.isSome_job
          rw [hn, show (a.dossier (fresh.job n)).job = none from names n] at job
          cases job
        rw [finished]
        exact .move rfl move
      · rw [← rewrites.others id hk]
        exact create.change_of_creation (finish.staged (by simp) staged)
          (finish.names (by simp) names) id
  | progress progress =>
      apply progress.change_of_moves (by simp)
      rfl
  | withdraw withdraw =>
      apply withdraw.change_of_moves (by simp)
      rfl

end JobStore

theorem Dossier.Change.stage {fresh : Fresh} {now : Instant} {operation : Operation}
    {id : String} {a b : Dossier} (change : Dossier.Change fresh now operation id a b)
    (stage : a.Stage id) : b.Stage id := by
  cases change with
  | keep => exact stage
  | create new name => exact .queued name new.2.1 new.2.2
  | move _ move => exact stage.of_move move

end FleetControl
