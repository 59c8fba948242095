import FleetControl.Proofs.Port.Disjoint

/-!
# Single ports that keep clear of blocks

The lowest free port of a range is looked for outside of all active blocks.  A port that is
named or derived is held against other single ports only, and a block is bound without a
look at the ports that stand in it.  These are the two ways in which a port of one instance
comes to stand in a block that is bound to another.
-/

namespace FleetControl
namespace Port
namespace Tables

open Refusal
open Run
open Time

/-- The port of the allocation stands in the active block. -/
def StandsIn (t : Tables) (a : Allocation) (b : Block) : Prop :=
  b.nodeId = a.nodeId ∧ t.blockReserves b a.protocol = true ∧ b.covers a.port = true

/-- No single port stands in a block that is bound to another instance. -/
def Clear (t : Tables) : Prop :=
  ∀ key key' a b, t.allocations.get? key = some a → t.blocks.get? key' = some b →
    t.StandsIn a b → ∀ instanceId, b.instanceId = some instanceId → instanceId = a.instanceId

/-- No single port stands in a block unless that is bound to the same instance. -/
def Guarded (t : Tables) : Prop :=
  ∀ key key' a b, t.allocations.get? key = some a → t.blocks.get? key' = some b →
    t.StandsIn a b → b.instanceId = some a.instanceId

/-!
# What a deed should look at
-/

def NewPool (t : Tables) : Deed → Prop
  | .addPool pool fresh => ∀ row t', t.addPool pool fresh = .ok (row, t') →
      t.pools.get? row.id = none
  | _ => True

/-- No block in which the chosen port stands has the property. -/
def ChosenOutside (t : Tables) (req : Request) (P : Block → Prop) : Prop :=
  ∀ port key b, t.choosePort req = .ok port → t.blocks.get? key = some b →
    b.nodeId = req.nodeId → t.blockReserves b req.protocol = true → b.covers port = true → ¬ P b

def GivenOutside (t : Tables) (req : Request) (P : Block → Prop) : Prop :=
  match req.strategy with
  | .firstFree _ => True
  | .derived _ _ | .explicit _ => t.ChosenOutside req P

/-- No block is bound in which another instance has a port, and no port is named or derived
in a block of another instance. -/
def Respects (t : Tables) : Deed → Prop
  | .bindBlock blockId instanceId => ∀ key a b, t.blocks.get? blockId = some b →
      t.allocations.get? key = some a → t.StandsIn a b → instanceId = a.instanceId
  | .allocatePort req _ _ => t.GivenOutside req (fun b =>
      ∃ instanceId, b.instanceId = some instanceId ∧ instanceId ≠ req.instanceId)
  | _ => True

def Checked (t : Tables) : Deed → Prop
  | .allocatePort req _ _ => t.GivenOutside req (fun b => b.instanceId ≠ some req.instanceId)
  | _ => True

variable {t t' : Tables}

theorem Guarded.clear (guarded : t.Guarded) : t.Clear := by
  intro key key' a b ha hb stands instanceId bound
  exact Option.some.inj (bound.symm.trans (guarded key key' a b ha hb stands))

theorem StandsIn.of_unmoved {a : Allocation} {before after : Block}
    (stands : t'.StandsIn a after) (unmoved : Unmoved before after)
    (pools : t'.pools = t.pools) : t.StandsIn a before := by
  rcases stands with ⟨node, reserves, covers⟩
  rw [blockReserves_of_pools pools] at reserves
  exact ⟨unmoved.nodeId.symm.trans node, unmoved.blockReserves reserves,
    unmoved.covers covers⟩

/-!
# Pools
-/

theorem standsIn_addPool_iff {row : Pool} {key : String} {a : Allocation} {b : Block}
    (sound : t.Sound) (new : t.pools.get? row.id = none) (hb : t.blocks.get? key = some b) :
    StandsIn { t with pools := t.pools.insert row.id row } a b ↔ t.StandsIn a b := by
  rcases (sound.blocks key b hb).pool with ⟨pool, known⟩
  have other : b.poolId ≠ row.id := by
    intro same
    rw [same, new] at known
    cases known
  unfold StandsIn
  rw [blockReserves_addPool_of_ne other]

/-!
# Leases
-/

theorem LeaseEffect.not_standsIn {poolId key key' : String} {pool : Pool} {a : Allocation}
    {b : Block} (sound : t.Sound) (known : t.pools.get? poolId = some pool)
    (lease : t.LeaseEffect pool t') (ha : t.allocations.get? key = some a)
    (hb : t'.blocks.get? key' = some b) (new : t.blocks.get? key' ≠ some b) :
    ¬ t.StandsIn a b := by
  rintro ⟨node, reserves, covers⟩
  rcases (lease.blocks key' b hb).resolve_left new with ⟨run, hnew, _, _, clear⟩
  have recorded : t.pools.get? b.poolId = some pool := by
    rw [hnew.poolId, (sound.pools poolId pool known).id, known]
  have serves : a.protocol ∈ pool.protocols := ((blockReserves_iff recorded).mp reserves).2
  have sameNode : a.nodeId = pool.nodeId := by rw [← node, hnew.nodeId]
  simp only [Block.covers, Bool.and_eq_true, decide_eq_true_eq, UInt16.le_iff_toNat_le,
    hnew.start, hnew.stop] at covers
  rcases clear _ (mem_occupied_of_allocation ha sameNode serves) with before | behind
  · exact Nat.lt_irrefl _ (Nat.lt_of_lt_of_le before covers.2)
  · exact Nat.lt_irrefl _ (Nat.lt_of_lt_of_le behind covers.1)

/-!
# Releases
-/

theorem ReleaseEffect.stoodIn {key key' : String} {a : Allocation} {b : Block}
    (release : t.ReleaseEffect t') (ha : t'.allocations.get? key = some a)
    (hb : t'.blocks.get? key' = some b) (stands : t'.StandsIn a b) :
    t.allocations.get? key = some a ∧ t.blocks.get? key' = some b ∧ t.StandsIn a b := by
  rcases release.blocks key' b hb with ⟨before, known, rfl | ⟨now, rfl⟩⟩
  · refine ⟨release.allocations key a ha, known, ?_⟩
    exact stands.of_unmoved ⟨rfl, rfl, rfl, rfl, rfl⟩ release.pools
  · exact absurd stands.2.1 not_blockReserves_release

/-!
# Chosen ports
-/

theorem firstFreePort_isFree {req : Request} {rangeId : String} {port : UInt16}
    (h : t.firstFreePort req rangeId = .ok port) :
    t.isFree req.nodeId req.protocol port = true := by
  unfold firstFreePort at h
  split at h
  · cases h
  · split at h
    · cases h
    · split at h
      · cases h
      · split at h
        · rename_i found hfound
          cases h
          exact List.find?_some hfound
        · cases h

/-- The lowest free port of a range stands in no block at all. -/
theorem chosenOutside_of_firstFree {req : Request} {rangeId : String} {P : Block → Prop}
    (strategy : req.strategy = .firstFree rangeId) : t.ChosenOutside req P := by
  intro port key b hport hb node reserves covers
  unfold choosePort at hport
  rw [strategy] at hport
  rcases bind_eq_ok.mp hport with ⟨_, hfree, hport⟩
  split at hport
  · exact absurd hport throw_ne_ok
  · cases pure_eq_ok.mp hport
    have free := firstFreePort_isFree hfree
    have inside : t.portInActiveBlock req.nodeId req.protocol port = true := by
      unfold portInActiveBlock
      rw [List.any_eq_true]
      exact ⟨b, Table.mem_values_iff.mpr ⟨key, hb⟩, by simp [node, reserves, covers]⟩
    simp [isFree, inside] at free

theorem givenOutside_iff {req : Request} {P : Block → Prop} :
    t.GivenOutside req P ↔ t.ChosenOutside req P := by
  unfold GivenOutside
  split
  · rename_i rangeId strategy
    exact iff_of_true trivial (chosenOutside_of_firstFree strategy)
  · rfl
  · rfl

/-!
# What each deed does to clear tables
-/

theorem Clear.addPool {row : Pool} (sound : t.Sound) (clear : t.Clear)
    (new : t.pools.get? row.id = none) :
    Clear { t with pools := t.pools.insert row.id row } := by
  intro key key' a b ha hb stands
  exact clear key key' a b ha hb ((standsIn_addPool_iff sound new hb).mp stands)

theorem Clear.lease {pool : Pool} (clear : t.Clear) (lease : t.LeaseEffect pool t') :
    t'.Clear := by
  intro key key' a b ha hb stands instanceId bound
  rcases lease.blocks key' b hb with old | ⟨run, hnew, -⟩
  · refine clear key key' a b (lease.allocations ▸ ha) old ?_ instanceId bound
    exact stands.of_unmoved ⟨rfl, rfl, rfl, rfl, rfl⟩ lease.pools
  · cases hnew.unbound.symm.trans bound

theorem clear_bindBlock_iff {blockId instanceId : String} {block : Block} (clear : t.Clear)
    (known : t.blocks.get? blockId = some block) :
    Clear { t with
      blocks := t.blocks.insert blockId { block with instanceId := some instanceId } } ↔
      t.Respects (.bindBlock blockId instanceId) := by
  constructor
  · intro kept key a b hb ha stands
    cases known.symm.trans hb
    refine kept key blockId a { block with instanceId := some instanceId } ha ?_ ?_ instanceId rfl
    · exact (Table.get?_insert ..).trans (if_pos rfl)
    · exact stands.of_unmoved ⟨rfl, rfl, rfl, rfl, rfl⟩ rfl
  · intro respects key key' a b ha hb stands other bound
    rw [Table.get?_insert] at hb
    split at hb
    · cases hb
      cases bound
      exact respects key a block known ha (stands.of_unmoved ⟨rfl, rfl, rfl, rfl, rfl⟩ rfl)
    · exact clear key key' a b ha hb stands other bound

theorem Clear.release (clear : t.Clear) (release : t.ReleaseEffect t') : t'.Clear := by
  intro key key' a b ha hb stands
  rcases release.stoodIn ha hb stands with ⟨ha, hb, stood⟩
  exact clear key key' a b ha hb stood

theorem clear_allocatePort_iff {req : Request} {now : Instant} {fresh : String}
    {a : Allocation} (clear : t.Clear) (chosen : t.choosePort req = .ok a.port)
    (node : a.nodeId = req.nodeId) (protocol : a.protocol = req.protocol)
    (own : a.instanceId = req.instanceId) :
    Clear { t with allocations := t.allocations.insert a.id a } ↔
      t.Respects (.allocatePort req now fresh) := by
  refine Iff.trans ?_ givenOutside_iff.symm
  constructor
  · rintro kept port key b hport hb sameNode reserves covers ⟨instanceId, bound, other⟩
    cases chosen.symm.trans hport
    refine other ((kept a.id key a b ?_ hb ⟨?_, ?_, covers⟩ instanceId bound).trans own)
    · exact (Table.get?_insert ..).trans (if_pos rfl)
    · exact sameNode.trans node.symm
    · exact protocol ▸ reserves
  · intro outside key key' a' b ha hb stands instanceId bound
    rw [Table.get?_insert] at ha
    split at ha
    · cases ha
      rcases stands with ⟨sameNode, reserves, covers⟩
      refine Classical.byContradiction fun other => outside a.port key' b chosen hb
        (sameNode.trans node) (protocol ▸ reserves) covers ⟨instanceId, bound, ?_⟩
      exact fun same => other (same.trans own.symm)
    · exact clear key key' a' b ha hb stands instanceId bound

/-!
# What each deed does to guarded tables
-/

theorem Guarded.lease {poolId : String} {pool : Pool} (sound : t.Sound) (guarded : t.Guarded)
    (known : t.pools.get? poolId = some pool) (lease : t.LeaseEffect pool t') : t'.Guarded := by
  intro key key' a b ha hb stands
  have ha' : t.allocations.get? key = some a := lease.allocations ▸ ha
  have stands' : t.StandsIn a b := stands.of_unmoved ⟨rfl, rfl, rfl, rfl, rfl⟩ lease.pools
  by_cases old : t.blocks.get? key' = some b
  · exact guarded key key' a b ha' old stands'
  · exact absurd stands' (lease.not_standsIn sound known ha' hb old)

theorem Guarded.bindBlock {blockId instanceId : String} {block : Block} (guarded : t.Guarded)
    (known : t.blocks.get? blockId = some block)
    (free : block.instanceId = none ∨ block.instanceId = some instanceId) :
    Guarded { t with
      blocks := t.blocks.insert blockId { block with instanceId := some instanceId } } := by
  intro key key' a b ha hb stands
  rw [Table.get?_insert] at hb
  split at hb
  · cases hb
    have own := guarded key blockId a block ha known
      (stands.of_unmoved ⟨rfl, rfl, rfl, rfl, rfl⟩ rfl)
    rw [own] at free
    rcases free with none | same
    · cases none
    · exact same.symm
  · exact guarded key key' a b ha hb stands

theorem Guarded.release (guarded : t.Guarded) (release : t.ReleaseEffect t') : t'.Guarded := by
  intro key key' a b ha hb stands
  rcases release.stoodIn ha hb stands with ⟨ha, hb, stood⟩
  exact guarded key key' a b ha hb stood

theorem Guarded.allocatePort {req : Request} {a : Allocation} (guarded : t.Guarded)
    (chosen : t.choosePort req = .ok a.port) (node : a.nodeId = req.nodeId)
    (protocol : a.protocol = req.protocol) (own : a.instanceId = req.instanceId)
    (outside : t.ChosenOutside req (fun b => b.instanceId ≠ some req.instanceId)) :
    Guarded { t with allocations := t.allocations.insert a.id a } := by
  intro key key' a' b ha hb stands
  rw [Table.get?_insert] at ha
  split at ha
  · cases ha
    rcases stands with ⟨sameNode, reserves, covers⟩
    rw [own]
    exact Classical.byContradiction (outside a.port key' b chosen hb (sameNode.trans node)
      (protocol ▸ reserves) covers)
  · exact guarded key key' a' b ha hb stands

/-!
# Runs of deeds
-/

theorem clear_empty : empty.Clear := by
  intro _ _ _ _ h
  cases h

theorem guarded_empty : empty.Guarded := by
  intro _ _ _ _ h
  cases h

theorem clear_attempt_iff (t : Tables) (deed : Deed) (t' : Tables) (sound : t.Sound)
    (clear : t.Clear) (new : t.NewPool deed) (h : t.attempt deed = .ok t') :
    t'.Clear ↔ t.Respects deed := by
  cases does_of_attempt sound h with
  | addPool added =>
      have unknown := new _ _ added
      rcases addPool_eq_ok added with ⟨_, _, _, rfl⟩
      exact iff_of_true (clear.addPool sound unknown) trivial
  | addRange _ => exact iff_of_true clear trivial
  | allocateBlock _ lease => exact iff_of_true (clear.lease lease) trivial
  | allocateBlocksInRange _ lease => exact iff_of_true (clear.lease lease) trivial
  | bindBlock known => exact clear_bindBlock_iff clear known
  | releaseBlock release => exact iff_of_true (clear.release release) trivial
  | releaseInstance release => exact iff_of_true (clear.release release) trivial
  | allocatePort chosen node protocol own =>
      exact clear_allocatePort_iff clear chosen node protocol own

theorem guarded_attempt (t : Tables) (deed : Deed) (t' : Tables) (sound : t.Sound)
    (guarded : t.Guarded) (given : t.NewPool deed ∧ t.Checked deed)
    (h : t.attempt deed = .ok t') : t'.Guarded := by
  rcases given with ⟨new, checked⟩
  cases does_of_attempt sound h with
  | addPool added =>
      have unknown := new _ _ added
      rcases addPool_eq_ok added with ⟨_, _, _, rfl⟩
      intro key key' a b ha hb stands
      exact guarded key key' a b ha hb ((standsIn_addPool_iff sound unknown hb).mp stands)
  | addRange _ => exact guarded
  | allocateBlock known lease => exact guarded.lease sound known lease
  | allocateBlocksInRange known lease => exact guarded.lease sound known lease
  | bindBlock known _ free => exact guarded.bindBlock known free
  | releaseBlock release => exact guarded.release release
  | releaseInstance release => exact guarded.release release
  | allocatePort chosen node protocol own =>
      exact guarded.allocatePort chosen node protocol own
        (givenOutside_iff.mp checked)

/-- One check would do: if ports that are named or derived were held against active blocks
too, blocks could be bound as they are. -/
theorem throughout_clear_of_checked {deeds : List Deed}
    (given : empty.EachDeed (fun t deed => t.NewPool deed ∧ t.Checked deed) deeds) :
    empty.Throughout Clear deeds := by
  have guarded : empty.Throughout Guarded deeds :=
    throughout_of_kept sound_attempt guarded_attempt sound_empty guarded_empty given
  exact guarded.mono (fun _ => Guarded.clear)

/-- Where pools are put on record once each, single ports keep clear throughout exactly when
every deed respects what is there. -/
theorem throughout_clear_iff {deeds : List Deed} (new : empty.EachDeed NewPool deeds) :
    empty.Throughout Clear deeds ↔ empty.EachDeed Respects deeds :=
  throughout_iff_eachDeed sound_attempt clear_attempt_iff sound_empty clear_empty new

def lodging (instanceId : String) : List Deed :=
  [.addPool
      { id := "pool", nodeId := "node", name := "pool", startPort := 5000, endPort := 5004
        protocols := [.tcp], purpose := "", enabled := true } "",
    .allocateBlock "pool" "customer" 5 .epoch (fun _ => "block"),
    .bindBlock "block" "owner",
    .allocatePort
      { nodeId := "node", protocol := .tcp, instanceId := instanceId, role := "game"
        strategy := .explicit 5001 } .epoch "port"]

theorem throughout_clear_lodging_owner :
    empty.EachDeed NewPool (lodging "owner") ∧ empty.EachDeed Respects (lodging "owner") ∧
      empty.Throughout Clear (lodging "owner") := by
  have new : empty.EachDeed NewPool (lodging "owner") :=
    ⟨fun _ _ _ _ => rfl, fun _ => trivial, fun _ => trivial, fun _ => trivial, trivial⟩
  have respects : empty.EachDeed Respects (lodging "owner") := by
    refine ⟨fun _ => trivial, fun _ => trivial, ?_, ?_, trivial⟩
    · intro _ key a b _ ha
      have none : (((lodging "owner").take 2).foldl Tables.next empty).allocations = .empty := by
        decide +kernel
      cases ha.symm.trans (congrArg (Table.get? · key) none)
    · rintro _ port key b - hb - - - ⟨instanceId, bound, other⟩
      have owned : ∀ b ∈ (((lodging "owner").take 3).foldl Tables.next empty).blocks.values,
          b.instanceId = some "owner" := by decide +kernel
      have own := owned b (Table.mem_values_iff.mpr ⟨key, hb⟩)
      exact other (Option.some.inj (bound.symm.trans own))
  exact ⟨new, respects, (throughout_clear_iff new).mpr respects⟩

theorem not_throughout_clear_lodging_other : ¬ empty.Throughout Clear (lodging "other") := by
  rintro ⟨-, -, -, -, last⟩
  let placed : Allocation :=
    { id := "port", nodeId := "node", protocol := .tcp, port := 5001, instanceId := "other"
      role := "game", allocatedAt := .epoch }
  let bound : Block :=
    { id := "block", poolId := "pool", nodeId := "node", customerId := "customer"
      instanceId := some "owner", startPort := 5000, endPort := 5004, allocatedAt := .epoch
      releasedAt := none }
  have same := last "port" "block" placed bound (by decide +kernel) (by decide +kernel)
    ⟨rfl, by decide +kernel, by decide +kernel⟩ "owner" rfl
  exact absurd same (by decide)

end Tables
end Port
end FleetControl
