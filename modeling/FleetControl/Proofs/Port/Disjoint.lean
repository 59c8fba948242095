import FleetControl.Proofs.Port.Deeds

/-!
# Blocks that keep apart

A lease finds ports that no other block reserves for a protocol of its pool, so blocks that
are leased side by side keep apart.  But which protocols a block reserves is told by the row
that its pool has now.  A pool that is put on record once more, with other protocols, brings
its blocks onto the ports of others, and nothing else does.
-/

namespace FleetControl
namespace Port
namespace Tables

open Run
open Time

/-- Two blocks of a node reserve a port for the same protocol. -/
def Collide (t : Tables) (a b : Block) : Prop :=
  a.nodeId = b.nodeId ∧
    (∃ protocol, t.blockReserves a protocol = true ∧ t.blockReserves b protocol = true) ∧
    ∃ port, a.covers port = true ∧ b.covers port = true

def Disjoint (t : Tables) : Prop :=
  ∀ key key' a b, t.blocks.get? key = some a → t.blocks.get? key' = some b → key ≠ key' →
    ¬ t.Collide a b

/-- An active block of the pool stands on ports that another pool has leased for a protocol
of the new row. -/
def Clashes (t : Tables) (row : Pool) : Prop :=
  ∃ key key' a b, t.blocks.get? key = some a ∧ t.blocks.get? key' = some b ∧
    a.isActive = true ∧ a.poolId = row.id ∧ b.poolId ≠ row.id ∧ a.nodeId = b.nodeId ∧
    (∃ protocol ∈ row.protocols, t.blockReserves b protocol = true) ∧
    ∃ port, a.covers port = true ∧ b.covers port = true

/-- The deed does not give a pool a row that clashes. -/
def ClashFree (t : Tables) : Deed → Prop
  | .addPool pool fresh => ∀ row t', t.addPool pool fresh = .ok (row, t') → ¬ t.Clashes row
  | _ => True

variable {t t' : Tables}

theorem Collide.not_apart {a b : Block} (h : t.Collide a b) :
    ¬ Apart (a.startPort.toNat, a.endPort.toNat) (b.startPort.toNat, b.endPort.toNat) := by
  rcases h with ⟨_, _, port, ca, cb⟩
  simp only [Block.covers, Bool.and_eq_true, decide_eq_true_eq, UInt16.le_iff_toNat_le]
    at ca cb
  rintro (before | behind)
  · exact Nat.lt_irrefl _ (Nat.lt_of_lt_of_le before (Nat.le_trans cb.1 ca.2))
  · exact Nat.lt_irrefl _ (Nat.lt_of_lt_of_le behind (Nat.le_trans ca.1 cb.2))

/-!
# What a block reserves
-/

theorem blockReserves_iff {block : Block} {pool : Pool} {protocol : Protocol}
    (known : t.pools.get? block.poolId = some pool) :
    t.blockReserves block protocol = true ↔
      block.isActive = true ∧ protocol ∈ pool.protocols := by
  unfold blockReserves
  rw [known]
  simp

theorem blockReserves_of_pools {block : Block} {protocol : Protocol} (pools : t'.pools = t.pools) :
    t'.blockReserves block protocol = t.blockReserves block protocol := by
  unfold blockReserves
  rw [pools]

theorem blockReserves_congr {a b : Block} {protocol : Protocol} (pool : a.poolId = b.poolId)
    (active : a.isActive = b.isActive) :
    t.blockReserves a protocol = t.blockReserves b protocol := by
  unfold blockReserves
  rw [pool, active]

theorem not_blockReserves_release {block : Block} {now : Instant} {protocol : Protocol} :
    ¬ t.blockReserves (block.release now) protocol = true := by
  simp [blockReserves, Block.release, Block.isActive]

theorem blockReserves_addPool_of_ne {block : Block} {row : Pool} {protocol : Protocol}
    (other : block.poolId ≠ row.id) :
    blockReserves { t with pools := t.pools.insert row.id row } block protocol =
      t.blockReserves block protocol := by
  unfold blockReserves
  simp only
  rw [Table.get?_insert, if_neg other]

/-!
# Leases
-/

theorem LeaseEffect.apart_of_new {poolId key key' : String} {pool : Pool} {a b : Block}
    (sound : t.Sound) (known : t.pools.get? poolId = some pool) (lease : t.LeaseEffect pool t')
    (ha : t'.blocks.get? key = some a) (new : t.blocks.get? key ≠ some a)
    (hb : t.blocks.get? key' = some b) (node : a.nodeId = b.nodeId) {protocol : Protocol}
    (reserves : t.blockReserves a protocol = true)
    (reserves' : t.blockReserves b protocol = true) :
    Apart (a.startPort.toNat, a.endPort.toNat) (b.startPort.toNat, b.endPort.toNat) := by
  rcases (lease.blocks key a ha).resolve_left new with ⟨run, hnew, _, _, clear⟩
  have recorded : t.pools.get? a.poolId = some pool := by
    rw [hnew.poolId, (sound.pools poolId pool known).id, known]
  have serves : protocol ∈ pool.protocols := ((blockReserves_iff recorded).mp reserves).2
  have sameNode : b.nodeId = pool.nodeId := by rw [← node, hnew.nodeId]
  rw [hnew.start, hnew.stop]
  exact clear _ (mem_occupied_of_block hb sameNode serves reserves')

theorem Disjoint.lease {poolId : String} {pool : Pool} (sound : t.Sound) (disjoint : t.Disjoint)
    (known : t.pools.get? poolId = some pool) (lease : t.LeaseEffect pool t') :
    t'.Disjoint := by
  intro key key' a b ha hb hne collide
  have apart := collide.not_apart
  rcases collide with ⟨node, ⟨protocol, reserves, reserves'⟩, port, covers⟩
  rw [blockReserves_of_pools lease.pools] at reserves reserves'
  by_cases olda : t.blocks.get? key = some a
  · by_cases oldb : t.blocks.get? key' = some b
    · exact disjoint key key' a b olda oldb hne
        ⟨node, ⟨protocol, reserves, reserves'⟩, port, covers⟩
    · exact apart (lease.apart_of_new sound known hb oldb olda node.symm reserves' reserves).symm
  · by_cases oldb : t.blocks.get? key' = some b
    · exact apart (lease.apart_of_new sound known ha olda oldb node reserves reserves')
    · exact apart (lease.apart key a key' b ha hb hne olda oldb)

/-!
# Blocks that stay where they are
-/

structure Unmoved (before after : Block) : Prop where
  poolId : after.poolId = before.poolId
  nodeId : after.nodeId = before.nodeId
  start : after.startPort = before.startPort
  stop : after.endPort = before.endPort
  active : after.isActive = before.isActive

theorem Unmoved.blockReserves {before after : Block} (unmoved : Unmoved before after)
    {protocol : Protocol} (reserves : t.blockReserves after protocol = true) :
    t.blockReserves before protocol = true := by
  rw [← blockReserves_congr unmoved.poolId unmoved.active]
  exact reserves

theorem Unmoved.covers {before after : Block} (unmoved : Unmoved before after) {port : UInt16}
    (covers : after.covers port = true) : before.covers port = true := by
  unfold Block.covers at covers ⊢
  rw [← unmoved.start, ← unmoved.stop]
  exact covers

theorem Disjoint.of_unmoved (disjoint : t.Disjoint) (pools : t'.pools = t.pools)
    (rows : ∀ key after protocol, t'.blocks.get? key = some after →
      t'.blockReserves after protocol = true →
      ∃ before, t.blocks.get? key = some before ∧ Unmoved before after) : t'.Disjoint := by
  intro key key' a b ha hb hne collide
  rcases collide with ⟨node, ⟨protocol, reserves, reserves'⟩, port, covers, covers'⟩
  rcases rows key a protocol ha reserves with ⟨a', ha', ua⟩
  rcases rows key' b protocol hb reserves' with ⟨b', hb', ub⟩
  rw [blockReserves_of_pools pools] at reserves reserves'
  refine disjoint key key' a' b' ha' hb' hne ⟨?_, ⟨protocol, ?_, ?_⟩, port, ?_, ?_⟩
  · rw [← ua.nodeId, ← ub.nodeId]
    exact node
  · exact ua.blockReserves reserves
  · exact ub.blockReserves reserves'
  · exact ua.covers covers
  · exact ub.covers covers'

theorem Disjoint.bindBlock {blockId instanceId : String} {block : Block}
    (disjoint : t.Disjoint) (known : t.blocks.get? blockId = some block) :
    Disjoint { t with
      blocks := t.blocks.insert blockId { block with instanceId := some instanceId } } := by
  refine disjoint.of_unmoved rfl ?_
  intro key after protocol hafter _
  rw [Table.get?_insert] at hafter
  split at hafter
  · rename_i same
    cases hafter
    exact ⟨block, same ▸ known, rfl, rfl, rfl, rfl, rfl⟩
  · exact ⟨after, hafter, rfl, rfl, rfl, rfl, rfl⟩

theorem Disjoint.release (disjoint : t.Disjoint) (release : t.ReleaseEffect t') :
    t'.Disjoint := by
  refine disjoint.of_unmoved release.pools ?_
  intro key after protocol hafter reserves
  rcases release.blocks key after hafter with ⟨block, hblock, rfl | ⟨now, rfl⟩⟩
  · exact ⟨after, hblock, rfl, rfl, rfl, rfl, rfl⟩
  · exact absurd reserves not_blockReserves_release

/-!
# Pools
-/

/-- Blocks of one pool keep apart whatever the pool serves, since it always served some
protocol. -/
theorem Disjoint.not_collide_of_same_pool (sound : t.Sound) (disjoint : t.Disjoint)
    {key key' : String} {a b : Block} (ha : t.blocks.get? key = some a)
    (hb : t.blocks.get? key' = some b) (hne : key ≠ key') (pool : a.poolId = b.poolId)
    (active : a.isActive = true) (active' : b.isActive = true) (node : a.nodeId = b.nodeId)
    {port : UInt16} (covers : a.covers port = true) (covers' : b.covers port = true) : False := by
  rcases (sound.blocks key a ha).pool with ⟨row, known⟩
  rcases List.exists_mem_of_ne_nil _ (sound.pools _ row known).served with ⟨protocol, serves⟩
  have known' : t.pools.get? b.poolId = some row := pool ▸ known
  exact disjoint key key' a b ha hb hne ⟨node, ⟨protocol,
    (blockReserves_iff known).mpr ⟨active, serves⟩,
    (blockReserves_iff known').mpr ⟨active', serves⟩⟩, port, covers, covers'⟩

theorem isActive_of_blockReserves {block : Block} {protocol : Protocol}
    (h : t.blockReserves block protocol = true) : block.isActive = true := by
  unfold blockReserves at h
  exact (Bool.and_eq_true_iff.mp h).1

theorem disjoint_addPool_iff {pool row : Pool} {fresh : String} (sound : t.Sound)
    (disjoint : t.Disjoint) (h : t.addPool pool fresh = .ok (row, t')) :
    t'.Disjoint ↔ ¬ t.Clashes row := by
  rcases addPool_eq_ok h with ⟨_, _, _, rfl⟩
  have recorded : ∀ {block : Block}, block.poolId = row.id →
      (t.pools.insert row.id row).get? block.poolId = some row := by
    intro block same
    rw [Table.get?_insert, if_pos same]
  constructor
  · rintro kept ⟨key, key', a, b, ha, hb, active, own, other, node, ⟨protocol, serves, reserves⟩,
      port, covers⟩
    have hne : key ≠ key' := by
      rintro rfl
      cases ha.symm.trans hb
      exact other own
    refine kept key key' a b ha hb hne ⟨node, ⟨protocol, ?_, ?_⟩, port, covers⟩
    · exact (blockReserves_iff (recorded own)).mpr ⟨active, serves⟩
    · rw [blockReserves_addPool_of_ne other]
      exact reserves
  · intro clashFree key key' a b ha hb hne collide
    rcases collide with ⟨node, ⟨protocol, reserves, reserves'⟩, port, covers, covers'⟩
    have active := isActive_of_blockReserves reserves
    have active' := isActive_of_blockReserves reserves'
    by_cases own : a.poolId = row.id
    · by_cases own' : b.poolId = row.id
      · exact disjoint.not_collide_of_same_pool sound ha hb hne (own.trans own'.symm) active
          active' node covers covers'
      · rw [blockReserves_iff (recorded own)] at reserves
        rw [blockReserves_addPool_of_ne own'] at reserves'
        exact clashFree ⟨key, key', a, b, ha, hb, active, own, own', node,
          ⟨protocol, reserves.2, reserves'⟩, port, covers, covers'⟩
    · rw [blockReserves_addPool_of_ne own] at reserves
      by_cases own' : b.poolId = row.id
      · rw [blockReserves_iff (recorded own')] at reserves'
        exact clashFree ⟨key', key, b, a, hb, ha, active', own', own, node.symm,
          ⟨protocol, reserves'.2, reserves⟩, port, covers', covers⟩
      · rw [blockReserves_addPool_of_ne own'] at reserves'
        exact disjoint key key' a b ha hb hne
          ⟨node, ⟨protocol, reserves, reserves'⟩, port, covers, covers'⟩

/-!
# Runs of deeds
-/

theorem disjoint_empty : empty.Disjoint := by
  intro _ _ _ _ h
  cases h

theorem disjoint_attempt_iff (t : Tables) (deed : Deed) (t' : Tables) (sound : t.Sound)
    (disjoint : t.Disjoint) (h : t.attempt deed = .ok t') :
    t'.Disjoint ↔ t.ClashFree deed := by
  cases does_of_attempt sound h with
  | addPool added =>
      rw [disjoint_addPool_iff sound disjoint added]
      constructor
      · intro free row after other
        cases added.symm.trans other
        exact free
      · intro free
        exact free _ _ added
  | addRange _ => exact iff_of_true disjoint trivial
  | allocateBlock known lease => exact iff_of_true (disjoint.lease sound known lease) trivial
  | allocateBlocksInRange known lease =>
      exact iff_of_true (disjoint.lease sound known lease) trivial
  | bindBlock known => exact iff_of_true (disjoint.bindBlock known) trivial
  | releaseBlock release => exact iff_of_true (disjoint.release release) trivial
  | releaseInstance release => exact iff_of_true (disjoint.release release) trivial
  | allocatePort _ => exact iff_of_true disjoint trivial

/-- Blocks keep apart throughout exactly when no pool is given a row that clashes. -/
theorem throughout_disjoint_iff (deeds : List Deed) :
    empty.Throughout Disjoint deeds ↔ empty.EachDeed ClashFree deeds :=
  throughout_iff_eachDeed sound_attempt
    (fun t deed t' sound disjoint _ h => disjoint_attempt_iff t deed t' sound disjoint h)
    sound_empty disjoint_empty (eachDeed_of_forall (fun _ _ => trivial) empty deeds)

def widening : List Deed :=
  let pool (id : String) (protocols : List Protocol) : Pool :=
    { id := id, nodeId := "node", name := id, startPort := 5000, endPort := 5004
      protocols := protocols, purpose := "", enabled := true }
  let lease (poolId block : String) : Deed :=
    .allocateBlock poolId "customer" 5 .epoch (fun _ => block)
  [.addPool (pool "tcp" [.tcp]) "", .addPool (pool "udp" [.udp]) "", lease "tcp" "first",
    lease "udp" "second", .addPool (pool "tcp" Protocol.all) ""]

theorem not_throughout_disjoint_widening : ¬ empty.Throughout Disjoint widening := by
  rintro ⟨-, -, -, -, -, last⟩
  let leased (poolId id : String) : Block :=
    { id := id, poolId := poolId, nodeId := "node", customerId := "customer"
      instanceId := none, startPort := 5000, endPort := 5004, allocatedAt := .epoch
      releasedAt := none }
  refine last "first" "second" (leased "tcp" "first") (leased "udp" "second") ?_ ?_ (by decide)
    ⟨rfl, ⟨.udp, ?_, ?_⟩, 5000, ?_, ?_⟩ <;> decide +kernel

end Tables
end Port
end FleetControl
