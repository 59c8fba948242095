import FleetControl.Proofs.Port.Deeds

/-!
# The life of a block

A block is leased, it may be bound to an instance, and once it is released its row never
changes again.  A range of ports that is leased once more is a new row, so the rows that are
there tell all that has ever become of a block.
-/

namespace FleetControl
namespace Port

open Refusal
open Time

namespace Block

structure SameLease (a b : Block) : Prop where
  id : a.id = b.id
  poolId : a.poolId = b.poolId
  nodeId : a.nodeId = b.nodeId
  customerId : a.customerId = b.customerId
  startPort : a.startPort = b.startPort
  endPort : a.endPort = b.endPort
  allocatedAt : a.allocatedAt = b.allocatedAt

theorem SameLease.refl (b : Block) : b.SameLease b :=
  ⟨rfl, rfl, rfl, rfl, rfl, rfl, rfl⟩

theorem SameLease.trans {a b c : Block} (h : a.SameLease b) (h' : b.SameLease c) :
    a.SameLease c :=
  ⟨h.id.trans h'.id, h.poolId.trans h'.poolId, h.nodeId.trans h'.nodeId,
    h.customerId.trans h'.customerId, h.startPort.trans h'.startPort,
    h.endPort.trans h'.endPort, h.allocatedAt.trans h'.allocatedAt⟩

/-- What becomes of the row of a block in the course of time. -/
structure Ages (before after : Block) : Prop where
  lease : before.SameLease after
  bound : ∀ instanceId, before.instanceId = some instanceId →
    after.instanceId = some instanceId ∨ after.isActive = false
  released : before.isActive = false → after = before

theorem Ages.refl (b : Block) : b.Ages b :=
  ⟨.refl b, fun _ bound => Or.inl bound, fun _ => rfl⟩

theorem Ages.trans {a b c : Block} (h : a.Ages b) (h' : b.Ages c) : a.Ages c where
  lease := h.lease.trans h'.lease
  bound := by
    intro instanceId bound
    rcases h.bound instanceId bound with still | released
    · exact h'.bound instanceId still
    · rw [h'.released released]
      exact Or.inr released
  released := by
    intro released
    have same := h.released released
    rw [← same] at released
    rw [h'.released released, same]

theorem ages_bind {b : Block} {instanceId : String} (active : b.isActive = true)
    (free : b.instanceId = none ∨ b.instanceId = some instanceId) :
    b.Ages { b with instanceId := some instanceId } where
  lease := ⟨rfl, rfl, rfl, rfl, rfl, rfl, rfl⟩
  bound := by
    intro other bound
    rcases free with none_ | same
    · cases none_.symm.trans bound
    · exact Or.inl (same.symm.trans bound)
  released := by
    intro released
    cases active.symm.trans released

theorem ages_release {b : Block} (active : b.isActive = true) (now : Instant) :
    b.Ages (b.release now) where
  lease := ⟨rfl, rfl, rfl, rfl, rfl, rfl, rfl⟩
  bound := fun _ _ => Or.inr rfl
  released := by
    intro released
    cases active.symm.trans released

end Block

/-!
# What a deed does to the blocks
-/

namespace Deed

def sparesBlocks : Deed → Bool
  | .addPool _ _ => true
  | .addRange _ _ => true
  | .allocatePort _ _ _ => true
  | _ => false

def NamesNew (t : Tables) : Deed → Prop
  | .allocateBlock _ _ _ _ fresh => ∀ n, t.blocks.get? (fresh n) = none
  | .allocateBlocksInRange _ _ _ _ _ _ fresh => ∀ n, t.blocks.get? (fresh n) = none
  | _ => True

end Deed

namespace Tables

variable {t m t' : Tables}

inductive Treats (t : Tables) : Deed → Table Block → Prop
  | spare {deed : Deed} (spares : deed.sparesBlocks = true) : Treats t deed t.blocks
  | leaseAny {poolId customerId : String} {size : Nat} {now : Instant} {fresh : Nat → String}
      {blocks : List Block}
      (new : ∀ b ∈ blocks, (∃ n, b.id = fresh n) ∧ b.isActive = true ∧ b.instanceId = none) :
      Treats t (.allocateBlock poolId customerId size now fresh) (t.putBlocks blocks).blocks
  | leaseBetween {poolId customerId : String} {start stop : UInt16} {size : Nat} {now : Instant}
      {fresh : Nat → String} {blocks : List Block}
      (new : ∀ b ∈ blocks, (∃ n, b.id = fresh n) ∧ b.isActive = true ∧ b.instanceId = none) :
      Treats t (.allocateBlocksInRange poolId customerId start stop size now fresh)
        (t.putBlocks blocks).blocks
  | bind {blockId instanceId : String} {block : Block}
      (known : t.blocks.get? blockId = some block) (active : block.isActive = true)
      (free : block.instanceId = none ∨ block.instanceId = some instanceId) :
      Treats t (.bindBlock blockId instanceId)
        (t.blocks.insert blockId { block with instanceId := some instanceId })
  | release {blockId : String} {now : Instant} {block : Block}
      (known : t.blocks.get? blockId = some block) (active : block.isActive = true) :
      Treats t (.releaseBlock blockId now) (t.blocks.insert blockId (block.release now))
  | releaseAgain {blockId : String} {now : Instant} {block : Block}
      (known : t.blocks.get? blockId = some block) (released : block.isActive = false) :
      Treats t (.releaseBlock blockId now) t.blocks
  | releaseInstance {instanceId : String} {now : Instant} :
      Treats t (.releaseInstance instanceId now)
        (t.blocks.map (fun _ b => if b.isHeldBy instanceId then b.release now else b))

theorem new_leaseRuns {pool : Pool} {customerId : String} {now : Instant}
    {fresh : Nat → String} {runs : List Run} :
    ∀ b ∈ (t.leaseRuns pool customerId now fresh runs).1,
      (∃ n, b.id = fresh n) ∧ b.isActive = true ∧ b.instanceId = none := by
  intro b mem
  rcases List.mem_mapIdx.mp mem with ⟨n, _, rfl⟩
  exact ⟨⟨n, rfl⟩, rfl, rfl⟩

theorem leases_of_allocateBlock {poolId customerId : String} {size : Nat} {now : Instant}
    {fresh : Nat → String} {blocks : List Block}
    (h : t.allocateBlock poolId customerId size now fresh = .ok (blocks, t')) :
    ∃ pool runs, t.leaseRuns pool customerId now fresh runs = (blocks, t') := by
  unfold allocateBlock at h
  split at h
  · cases h
  · rcases bind_eq_ok.mp h with ⟨pool, _, h⟩
    split at h
    · exact ⟨pool, _, pure_eq_ok.mp h⟩
    · exact absurd h throw_ne_ok

theorem leases_of_allocateBlocksInRange {poolId customerId : String} {start stop : UInt16}
    {size : Nat} {now : Instant} {fresh : Nat → String} {blocks : List Block}
    (h : t.allocateBlocksInRange poolId customerId start stop size now fresh =
      .ok (blocks, t')) :
    ∃ pool runs, t.leaseRuns pool customerId now fresh runs = (blocks, t') := by
  unfold allocateBlocksInRange at h
  split at h
  · cases h
  · rcases bind_eq_ok.mp h with ⟨pool, _, h⟩
    simp only at h
    split at h
    · rcases bind_eq_ok.mp h with ⟨_, refused, _⟩
      exact absurd refused throw_ne_ok
    · split at h
      · rcases bind_eq_ok.mp h with ⟨_, refused, _⟩
        exact absurd refused throw_ne_ok
      · split at h
        · exact ⟨pool, _, pure_eq_ok.mp h⟩
        · split at h
          · exact absurd h throw_ne_ok
          · exact ⟨pool, _, pure_eq_ok.mp h⟩

theorem treats_releaseBlock {blockId : String} {now : Instant} {after : Block}
    (h : t.releaseBlock blockId now = .ok (after, t')) :
    t.Treats (.releaseBlock blockId now) t'.blocks := by
  rcases releaseBlock_eq_ok h with ⟨block, known, rfl, rfl⟩
  cases active : block.isActive with
  | true =>
      simp only [if_true]
      exact .release known active
  | false =>
      simp only [Bool.false_eq_true, if_false, Table.insert_of_get?_eq_some known]
      exact .releaseAgain known active

theorem treats_of_attempt {deed : Deed} (h : t.attempt deed = .ok t') :
    t.Treats deed t'.blocks := by
  cases deed with
  | addPool pool fresh =>
      rcases map_eq_ok.mp h with ⟨⟨row, after⟩, added, rfl⟩
      rw [(addPool_eq_ok added).2.2.2]
      exact .spare rfl
  | addRange range fresh =>
      rcases map_eq_ok.mp h with ⟨⟨row, after⟩, added, rfl⟩
      rw [addRange_eq_ok added]
      exact .spare rfl
  | allocateBlock poolId customerId size now fresh =>
      rcases map_eq_ok.mp h with ⟨⟨blocks, after⟩, leased, rfl⟩
      rcases leases_of_allocateBlock leased with ⟨pool, runs, lease⟩
      cases lease
      exact .leaseAny (new_leaseRuns (t := t))
  | allocateBlocksInRange poolId customerId start stop size now fresh =>
      rcases map_eq_ok.mp h with ⟨⟨blocks, after⟩, leased, rfl⟩
      rcases leases_of_allocateBlocksInRange leased with ⟨pool, runs, lease⟩
      cases lease
      exact .leaseBetween (new_leaseRuns (t := t))
  | bindBlock blockId instanceId =>
      rcases map_eq_ok.mp h with ⟨⟨bound, after⟩, hbind, rfl⟩
      rcases bindBlock_eq_ok hbind with ⟨block, known, active, free, rfl, rfl⟩
      exact .bind known active free
  | releaseBlock blockId now =>
      rcases map_eq_ok.mp h with ⟨⟨block, after⟩, released, rfl⟩
      exact treats_releaseBlock released
  | releaseInstance instanceId now =>
      cases h
      exact .releaseInstance
  | allocatePort req now fresh =>
      rcases map_eq_ok.mp h with ⟨⟨a, after⟩, allocated, rfl⟩
      rw [(allocatePort_eq_ok allocated).2.2.2.2]
      exact .spare rfl

/-!
# Deeds that are done again
-/

theorem bindBlock_again {blockId instanceId : String} {bound : Block}
    (h : t.bindBlock blockId instanceId = .ok (bound, t')) :
    t'.bindBlock blockId instanceId = .ok (bound, t') := by
  rcases bindBlock_eq_ok h with ⟨block, known, active, free, hbound, rfl⟩
  have found : ({ t with blocks := t.blocks.insert blockId bound } : Tables).blocks.get? blockId =
      some bound := by
    rw [Table.get?_insert, if_pos rfl]
  have stillActive : bound.isActive = true := by
    rw [hbound]
    exact active
  have stays : checkBinding bound blockId instanceId = .ok () := by
    unfold checkBinding
    rw [if_pos stillActive, hbound]
    exact if_pos rfl
  have same : { bound with instanceId := some instanceId } = bound := by rw [hbound]
  unfold bindBlock findBlock
  simp only [found, stays, same, bind, Except.bind, pure, Except.pure,
    Table.insert_of_get?_eq_some found]

theorem releaseBlock_again {blockId : String} {now : Instant} {after : Block}
    (h : t.releaseBlock blockId now = .ok (after, t')) (later : Instant) :
    t'.releaseBlock blockId later = .ok (after, t') := by
  rcases releaseBlock_eq_ok h with ⟨block, known, hafter, rfl⟩
  have found : ({ t with blocks := t.blocks.insert blockId after } : Tables).blocks.get? blockId =
      some after := by
    rw [Table.get?_insert, if_pos rfl]
  have released : after.isActive = false := by
    rw [hafter]
    split
    · rfl
    · rename_i inactive
      exact Bool.eq_false_iff.mpr inactive
  unfold releaseBlock findBlock
  simp only [found, released, bind, Except.bind, pure, Except.pure, Bool.false_eq_true, if_false,
    Table.insert_of_get?_eq_some found]

theorem releaseBlock_refused {blockId : String} {now : Instant} {e : Error}
    (h : t.releaseBlock blockId now = .error e) (later : Instant) :
    t.releaseBlock blockId later = .error e := by
  unfold releaseBlock at h ⊢
  cases known : t.findBlock blockId with
  | error other =>
      rw [known] at h
      exact h
  | ok block =>
      rw [known] at h
      cases h

/-!
# Rows over a deed
-/

def Age (t t' : Tables) : Prop :=
  ∀ id before, t.blocks.get? id = some before →
    ∃ after, t'.blocks.get? id = some after ∧ before.Ages after

theorem Age.refl (t : Tables) : t.Age t :=
  fun _ before found => ⟨before, found, .refl before⟩

theorem Age.trans (first : t.Age m) (second : m.Age t') : t.Age t' := by
  intro id before found
  rcases first id before found with ⟨between, found, ages⟩
  rcases second id between found with ⟨after, found, ages'⟩
  exact ⟨after, found, ages.trans ages'⟩

theorem get?_foldl_insert_of_ne {rows : Table Block} {blocks : List Block} {key : String}
    (other : ∀ b ∈ blocks, b.id ≠ key) :
    (blocks.foldl (fun rows b => rows.insert b.id b) rows).get? key = rows.get? key := by
  induction blocks generalizing rows with
  | nil => rfl
  | cons b rest ih =>
      rw [List.foldl_cons, ih fun later mem => other later (List.mem_cons_of_mem _ mem),
        Table.get?_insert, if_neg fun same => other b List.mem_cons_self same.symm]

/-- A row that is on record is none of those that come in under new names. -/
theorem get?_putBlocks {fresh : Nat → String} {blocks : List Block}
    (new : ∀ n, t.blocks.get? (fresh n) = none) (named : ∀ b ∈ blocks, ∃ n, b.id = fresh n)
    {id : String} {block : Block} (found : t.blocks.get? id = some block) :
    (t.putBlocks blocks).blocks.get? id = some block := by
  have other : ∀ b ∈ blocks, b.id ≠ id := by
    intro b mem same
    rcases named b mem with ⟨n, name⟩
    rw [← same, name, new n] at found
    cases found
  exact (get?_foldl_insert_of_ne other).trans found

theorem age_insert {id : String} {block after : Block} (known : t.blocks.get? id = some block)
    (ages : block.Ages after) (same : t'.blocks = t.blocks.insert id after) : t.Age t' := by
  intro k before found
  rw [same, Table.get?_insert]
  split
  · rename_i here
    subst here
    cases known.symm.trans found
    exact ⟨after, rfl, ages⟩
  · exact ⟨before, found, .refl before⟩

theorem age_attempt {deed : Deed} (new : deed.NamesNew t) (h : t.attempt deed = .ok t') :
    t.Age t' := by
  have treats := treats_of_attempt h
  generalize same : t'.blocks = blocks at treats
  cases treats with
  | spare spares | releaseAgain known released =>
      intro id before found
      exact ⟨before, by rw [same, found], .refl before⟩
  | leaseAny leased | leaseBetween leased =>
      intro id before found
      refine ⟨before, ?_, .refl before⟩
      rw [same]
      exact get?_putBlocks new (fun b mem => (leased b mem).1) found
  | bind known active free => exact age_insert known (Block.ages_bind active free) same
  | release known active => exact age_insert known (Block.ages_release active _) same
  | @releaseInstance instanceId now =>
      intro id before found
      rw [same, Table.get?_map, found]
      refine ⟨_, rfl, ?_⟩
      dsimp only
      split
      · rename_i held
        exact Block.ages_release ((Bool.and_eq_true _ _).mp held).1 now
      · exact .refl before

structure Tidies (id : String) (b : Block) : Prop where
  name : b.id = id
  active : b.instanceId.isSome = true → b.isActive = true

def Tidy (t : Tables) : Prop :=
  ∀ id b, t.blocks.get? id = some b → Tidies id b

theorem tidy_empty : empty.Tidy := by
  intro _ _ h
  cases h

theorem Tidies.release {id : String} {b : Block} (tidies : Tidies id b) (now : Instant) :
    Tidies id (b.release now) :=
  ⟨tidies.name, fun bound => nomatch bound⟩

theorem Tidy.insert {id : String} {after : Block} (tidy : t.Tidy) (tidies : Tidies id after)
    (same : t'.blocks = t.blocks.insert id after) : t'.Tidy := by
  intro k b found
  rw [same, Table.get?_insert] at found
  split at found
  · rename_i here
    cases found
    exact here ▸ tidies
  · exact tidy k b found

theorem Tidy.putBlocks {blocks : List Block} (tidy : t.Tidy)
    (leased : ∀ b ∈ blocks, b.isActive = true)
    (same : t'.blocks = (t.putBlocks blocks).blocks) : t'.Tidy := by
  intro id b found
  rw [same] at found
  rcases get?_foldl_insert found with ⟨mem, name⟩ | old
  · exact ⟨name, fun _ => leased b mem⟩
  · exact tidy id b old

theorem Tidy.attempt {deed : Deed} (tidy : t.Tidy) (h : t.attempt deed = .ok t') : t'.Tidy := by
  have treats := treats_of_attempt h
  generalize same : t'.blocks = blocks at treats
  cases treats with
  | spare spares | releaseAgain known released =>
      intro id b found
      rw [same] at found
      exact tidy id b found
  | leaseAny leased | leaseBetween leased =>
      exact tidy.putBlocks (fun b mem => (leased b mem).2.1) same
  | bind known active free =>
      refine tidy.insert ?_ same
      exact ⟨(tidy _ _ known).name, fun _ => active⟩
  | release known active => exact tidy.insert ((tidy _ _ known).release _) same
  | @releaseInstance instanceId now =>
      intro id b found
      rw [same, Table.get?_map] at found
      rcases Option.map_eq_some_iff.mp found with ⟨before, known, rfl⟩
      split
      · exact (tidy id before known).release now
      · exact tidy id before known

/-!
# Telling of releases
-/

def isReleased (t : Tables) (id : String) : Bool :=
  (t.blocks.get? id).any (fun b => !b.isActive)

def tells (t : Tables) : Deed → List String
  | .releaseBlock blockId _ => [blockId]
  | .releaseInstance instanceId now => (t.releaseInstance instanceId now).1.blocks
  | _ => []

def repeats (t : Tables) : Deed → List String
  | .releaseBlock blockId _ => if t.isReleased blockId then [blockId] else []
  | _ => []

theorem isReleased_of_get? {id : String} {b : Block} (found : t.blocks.get? id = some b) :
    t.isReleased id = !b.isActive := by
  simp [isReleased, found]

theorem isReleased_iff {id : String} :
    t.isReleased id = true ↔ ∃ b, t.blocks.get? id = some b ∧ b.isActive = false := by
  simp [isReleased, Option.any_eq_true]

theorem isReleased_congr {id : String} (same : t'.blocks.get? id = t.blocks.get? id) :
    t'.isReleased id = t.isReleased id := by
  rw [isReleased, isReleased, same]

theorem Age.isReleased {id : String} (age : t.Age t') (released : t.isReleased id = true) :
    t'.isReleased id = true := by
  rcases isReleased_iff.mp released with ⟨before, found, inactive⟩
  rcases age id before found with ⟨after, found', ages⟩
  rw [ages.released inactive] at found'
  exact isReleased_iff.mpr ⟨before, found', inactive⟩

/-- The blocks that are told are as many as become released, and those that were before. -/
def Tallies (t : Tables) (told again : List String) (t' : Tables) : Prop :=
  ∀ id, told.count id + (t.isReleased id).toNat = (t'.isReleased id).toNat + again.count id

theorem Tallies.refl (t : Tables) : t.Tallies [] [] t :=
  fun _ => Nat.add_comm _ _

theorem Tallies.trans {told again told' again' : List String} (first : t.Tallies told again m)
    (second : m.Tallies told' again' t') :
    t.Tallies (told ++ told') (again ++ again') t' := by
  intro id
  have one := first id
  have two := second id
  rw [List.count_append, List.count_append]
  omega

theorem tallies_of_isReleased (same : ∀ id, t'.isReleased id = t.isReleased id) :
    t.Tallies [] [] t' := by
  intro id
  rw [same]
  exact Nat.add_comm _ _

theorem tallies_putBlocks {blocks : List Block} {fresh : Nat → String}
    (new : ∀ n, t.blocks.get? (fresh n) = none)
    (leased : ∀ b ∈ blocks, (∃ n, b.id = fresh n) ∧ b.isActive = true ∧ b.instanceId = none)
    (same : t'.blocks = (t.putBlocks blocks).blocks) : t.Tallies [] [] t' := by
  apply tallies_of_isReleased
  intro id
  cases found : t.blocks.get? id with
  | some before =>
      apply isReleased_congr
      rw [same, found]
      exact get?_putBlocks new (fun b mem => (leased b mem).1) found
  | none =>
      have before : t.isReleased id = false := by simp [isReleased, found]
      rw [before, isReleased, same]
      cases put : (t.putBlocks blocks).blocks.get? id with
      | none => rfl
      | some b =>
          rcases get?_foldl_insert put with ⟨mem, _⟩ | old
          · simp [(leased b mem).2.1]
          · cases found.symm.trans old

/-- One row comes in, and it tells of itself if it has been released. -/
theorem tallies_insert {id : String} {block after : Block} {told : List String}
    (known : t.blocks.get? id = some block) (same : t'.blocks = t.blocks.insert id after)
    (here : told.count id + (!block.isActive).toNat = (!after.isActive).toNat)
    (there : ∀ k, k ≠ id → told.count k = 0) : t.Tallies told [] t' := by
  intro k
  rw [List.count_nil, Nat.add_zero]
  by_cases hk : k = id
  · subst hk
    have found : t'.blocks.get? k = some after := by rw [same, Table.get?_insert, if_pos rfl]
    rw [isReleased_of_get? known, isReleased_of_get? found]
    exact here
  · have kept : t'.blocks.get? k = t.blocks.get? k := by
      rw [same, Table.get?_insert, if_neg hk]
    rw [isReleased_congr kept, there k hk, Nat.zero_add]

theorem blocks_releaseInstance {instanceId : String}
    (named : ∀ id b, t.blocks.get? id = some b → b.isHeldBy instanceId = true → b.id = id)
    (now : Instant) :
    (t.releaseInstance instanceId now).1.blocks =
      t.blocks.keysWhere (fun b => b.isHeldBy instanceId) :=
  Table.names_of_filter_values named

theorem tallies_releaseInstance (tidy : t.Tidy) (instanceId : String) (now : Instant) :
    t.Tallies (t.releaseInstance instanceId now).1.blocks []
      (t.releaseInstance instanceId now).2 := by
  intro id
  rw [blocks_releaseInstance (fun id b found _ => (tidy id b found).name),
    Table.count_keysWhere, List.count_nil, Nat.add_zero, isReleased, isReleased,
    releaseInstance, Table.get?_map]
  cases t.blocks.get? id with
  | none => rfl
  | some b =>
      simp only [Option.any_some, Option.map_some]
      cases held : b.isHeldBy instanceId with
      | true =>
          have active : b.isActive = true := ((Bool.and_eq_true _ _).mp held).1
          rw [active]
          rfl
      | false => exact Nat.zero_add _

theorem tallies_attempt {deed : Deed} (tidy : t.Tidy) (new : deed.NamesNew t)
    (h : t.attempt deed = .ok t') : t.Tallies (t.tells deed) (t.repeats deed) t' := by
  have treats := treats_of_attempt h
  generalize same : t'.blocks = blocks at treats
  cases treats with
  | spare spares =>
      have silent : t.tells deed = [] ∧ t.repeats deed = [] := by
        cases deed <;> first | exact ⟨rfl, rfl⟩ | cases spares
      rw [silent.1, silent.2]
      exact tallies_of_isReleased fun id => isReleased_congr (congrArg (·.get? id) same)
  | leaseAny leased | leaseBetween leased => exact tallies_putBlocks new leased same
  | bind known active free =>
      apply tallies_insert known same
      · exact Nat.zero_add _
      · intro k _
        rfl
  | @release blockId now block known active =>
      have first : t.repeats (.releaseBlock blockId now) = [] := by
        simp [repeats, isReleased_of_get? known, active]
      rw [first]
      apply tallies_insert known same
      · rw [active]
        simp [tells, Block.release, Block.isActive]
      · intro k hk
        simp [tells, Ne.symm hk]
  | @releaseAgain blockId now block known released =>
      have again : t.repeats (.releaseBlock blockId now) = [blockId] := by
        simp [repeats, isReleased_of_get? known, released]
      rw [again]
      intro id
      rw [isReleased_congr (congrArg (·.get? id) same)]
      exact Nat.add_comm _ _
  | @releaseInstance instanceId now =>
      cases h
      exact tallies_releaseInstance tidy instanceId now

/-!
# Many deeds
-/

/-- Deeds are done one after the other, and these are the blocks that they tell to be
released, and those among them that have been released before. -/
inductive Follows : Tables → List String → List String → Tables → Prop
  | refl {t : Tables} : Follows t [] [] t
  | deed {t m t' : Tables} {deed : Deed} {told again : List String} (new : deed.NamesNew t)
      (done : t.attempt deed = .ok m) (later : Follows m told again t') :
      Follows t (t.tells deed ++ told) (t.repeats deed ++ again) t'

variable {told again : List String}

theorem Follows.single (deed : Deed) (new : deed.NamesNew t) (done : t.attempt deed = .ok t') :
    t.Follows (t.tells deed) (t.repeats deed) t' := by
  have follows := Follows.deed new done .refl
  rw [List.append_nil, List.append_nil] at follows
  exact follows

theorem Follows.trans {told' again' : List String} (first : t.Follows told again m)
    (second : m.Follows told' again' t') : t.Follows (told ++ told') (again ++ again') t' := by
  induction first with
  | refl => exact second
  | deed new done later ih =>
      rw [List.append_assoc, List.append_assoc]
      exact .deed new done (ih second)

theorem follows_allocateBlocks {poolId : String} {req : BlockRequest} {now : Instant}
    {fresh : Nat → String} {blocks : List Block} (new : ∀ n, t.blocks.get? (fresh n) = none)
    (h : t.allocateBlocks poolId req now fresh = .ok (blocks, t')) : t.Follows [] [] t' := by
  unfold allocateBlocks at h
  split at h
  · exact .single (.allocateBlock poolId req.customerId req.size.toNat now fresh) new
      (congrArg (Except.map Prod.snd) h)
  · split at h
    · cases h
    · rename_i pool _
      exact .single (.allocateBlocksInRange poolId req.customerId
        (req.start.getD pool.startPort) (req.stop.getD pool.endPort) req.size.toNat now fresh)
        new (congrArg (Except.map Prod.snd) h)

theorem Follows.age (follows : t.Follows told again t') : t.Age t' := by
  induction follows with
  | refl => exact .refl _
  | deed new done later ih => exact (age_attempt new done).trans ih

theorem Follows.tidy (follows : t.Follows told again t') (tidy : t.Tidy) : t'.Tidy := by
  induction follows with
  | refl => exact tidy
  | deed new done later ih => exact ih (tidy.attempt done)

theorem Follows.tallies (follows : t.Follows told again t') (tidy : t.Tidy) :
    t.Tallies told again t' := by
  induction follows with
  | refl => exact .refl _
  | deed new done later ih =>
      exact (tallies_attempt tidy new done).trans (ih (tidy.attempt done))

end Tables
end Port
end FleetControl
