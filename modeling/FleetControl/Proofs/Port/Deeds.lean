import FleetControl.Port.Allocate
import FleetControl.Proofs.Port.FreeRuns
import FleetControl.Proofs.Refusal
import FleetControl.Proofs.Table

/-!
# Deeds on the port tables

All that can be done to the port tables.  A deed that is refused leaves them as they are,
and what a deed that is not refused comes to is said here once for each of them.
-/

namespace FleetControl
namespace Port

open Refusal
open Run
open Time

inductive Deed where
  | addPool (pool : Pool) (fresh : String)
  | addRange (range : Range) (fresh : String)
  | allocateBlock (poolId customerId : String) (size : Nat) (now : Instant)
      (fresh : Nat → String)
  | allocateBlocksInRange (poolId customerId : String) (start stop : UInt16) (size : Nat)
      (now : Instant) (fresh : Nat → String)
  | bindBlock (blockId instanceId : String)
  | releaseBlock (blockId : String) (now : Instant)
  | releaseInstance (instanceId : String) (now : Instant)
  | allocatePort (req : Request) (now : Instant) (fresh : String)

namespace Tables

def attempt (t : Tables) : Deed → Except Error Tables
  | .addPool pool fresh => (t.addPool pool fresh).map Prod.snd
  | .addRange range fresh => (t.addRange range fresh).map Prod.snd
  | .allocateBlock poolId customerId size now fresh =>
      (t.allocateBlock poolId customerId size now fresh).map Prod.snd
  | .allocateBlocksInRange poolId customerId start stop size now fresh =>
      (t.allocateBlocksInRange poolId customerId start stop size now fresh).map Prod.snd
  | .bindBlock blockId instanceId => (t.bindBlock blockId instanceId).map Prod.snd
  | .releaseBlock blockId now => (t.releaseBlock blockId now).map Prod.snd
  | .releaseInstance instanceId now => .ok (t.releaseInstance instanceId now).2
  | .allocatePort req now fresh => (t.allocatePort req now fresh).map Prod.snd

def next (t : Tables) (deed : Deed) : Tables :=
  match t.attempt deed with
  | .ok t' => t'
  | .error _ => t

/-- What holds of all tables that are reached, the first and the last among them. -/
def Throughout (P : Tables → Prop) (t : Tables) : List Deed → Prop
  | [] => P t
  | deed :: rest => P t ∧ (t.next deed).Throughout P rest

/-- What holds of every deed that is not refused, with the tables before it. -/
def EachDeed (Q : Tables → Deed → Prop) (t : Tables) : List Deed → Prop
  | [] => True
  | deed :: rest =>
      ((∃ t', t.attempt deed = .ok t') → Q t deed) ∧ (t.next deed).EachDeed Q rest

theorem Throughout.mono {P P' : Tables → Prop} (weaker : ∀ t, P t → P' t) {t : Tables}
    {deeds : List Deed} (all : t.Throughout P deeds) : t.Throughout P' deeds := by
  induction deeds generalizing t with
  | nil => exact weaker t all
  | cons deed rest ih => exact ⟨weaker t all.1, ih all.2⟩

theorem Throughout.last {P : Tables → Prop} {t : Tables} {deeds : List Deed}
    (all : t.Throughout P deeds) : P (deeds.foldl next t) := by
  induction deeds generalizing t with
  | nil => exact all
  | cons deed rest ih => exact ih all.2

theorem eachDeed_of_forall {Q : Tables → Deed → Prop} (all : ∀ t deed, Q t deed) (t : Tables)
    (deeds : List Deed) : t.EachDeed Q deeds := by
  induction deeds generalizing t with
  | nil => trivial
  | cons deed rest ih => exact ⟨fun _ => all t deed, ih _⟩

/-- If a property is kept by exactly those deeds that have another property, then it holds
throughout exactly when each deed has the other. -/
theorem throughout_iff_eachDeed {I P : Tables → Prop} {Q R : Tables → Deed → Prop}
    (sound : ∀ t deed t', I t → t.attempt deed = .ok t' → I t')
    (keep : ∀ t deed t', I t → P t → R t deed → t.attempt deed = .ok t' →
      (P t' ↔ Q t deed))
    {t : Tables} {deeds : List Deed} (start : I t) (first : P t) (given : t.EachDeed R deeds) :
    t.Throughout P deeds ↔ t.EachDeed Q deeds := by
  induction deeds generalizing t with
  | nil => exact ⟨fun _ => trivial, fun _ => first⟩
  | cons deed rest ih =>
      rcases given with ⟨may, others⟩
      cases hdeed : t.attempt deed with
      | error e =>
          have same : t.next deed = t := by simp only [next, hdeed]
          simp only [Throughout, EachDeed, same, hdeed, reduceCtorEq, exists_false,
            false_implies, true_and, first] at others ⊢
          exact ih start first others
      | ok t' =>
          have same : t.next deed = t' := by simp only [next, hdeed]
          have step := keep t deed t' start first (may ⟨t', hdeed⟩) hdeed
          have done : ∃ t', t.attempt deed = .ok t' := ⟨t', hdeed⟩
          simp only [Throughout, EachDeed, same, first, true_and] at others ⊢
          constructor
          · intro all
            have now : P t' := by
              cases rest with
              | nil => exact all
              | cons _ _ => exact all.1
            exact ⟨fun _ => step.mp now, (ih (sound t deed t' start hdeed) now others).mp all⟩
          · intro all
            have now : P t' := step.mpr (all.1 done)
            exact (ih (sound t deed t' start hdeed) now others).mpr all.2

theorem throughout_of_kept {I P : Tables → Prop} {R : Tables → Deed → Prop}
    (sound : ∀ t deed t', I t → t.attempt deed = .ok t' → I t')
    (keep : ∀ t deed t', I t → P t → R t deed → t.attempt deed = .ok t' → P t')
    {t : Tables} {deeds : List Deed} (start : I t) (first : P t) (given : t.EachDeed R deeds) :
    t.Throughout P deeds :=
  (throughout_iff_eachDeed (Q := fun _ _ => True) sound
    (fun t deed t' sound first given h => iff_of_true (keep t deed t' sound first given h) trivial)
    start first given).mpr (eachDeed_of_forall (fun _ _ => trivial) t deeds)

/-!
# Pools and ranges
-/

variable {t t' : Tables}

theorem checkBounds_eq_ok {start stop : UInt16} (h : checkBounds start stop = .ok ()) :
    start ≠ 0 ∧ start ≤ stop := by
  unfold checkBounds at h
  split at h
  · cases h
  · rename_i proper
    rcases not_or.mp proper with ⟨positive, ordered⟩
    exact ⟨positive, UInt16.not_lt.mp ordered⟩

theorem addPool_eq_ok {pool row : Pool} {fresh : String}
    (h : t.addPool pool fresh = .ok (row, t')) :
    row.startPort ≠ 0 ∧ row.startPort ≤ row.endPort ∧ row.protocols ≠ [] ∧
      t' = { t with pools := t.pools.insert row.id row } := by
  unfold addPool at h
  rcases bind_eq_ok.mp h with ⟨_, hbounds, h⟩
  rcases checkBounds_eq_ok hbounds with ⟨positive, ordered⟩
  cases pure_eq_ok.mp h
  refine ⟨positive, ordered, ?_, rfl⟩
  simp only
  split
  · simp [Protocol.all]
  · rename_i some_
    simpa using some_

theorem addRange_eq_ok {range row : Range} {fresh : String}
    (h : t.addRange range fresh = .ok (row, t')) :
    t' = { t with ranges := t.ranges.insert row.id row } := by
  unfold addRange at h
  rcases bind_eq_ok.mp h with ⟨_, _, h⟩
  cases pure_eq_ok.mp h
  rfl

theorem findPool_eq_ok {poolId : String} {pool : Pool} (h : t.findPool poolId = .ok pool) :
    t.pools.get? poolId = some pool := by
  unfold findPool at h
  split at h
  · cases h
  · rename_i found hfound
    split at h
    · cases h
      exact hfound
    · cases h

/-!
# Rows that make sense
-/

structure PoolSound (key : String) (pool : Pool) : Prop where
  id : pool.id = key
  served : pool.protocols ≠ []
  start : pool.startPort ≠ 0

structure BlockSound (pools : Table Pool) (block : Block) : Prop where
  /-- The pool of a block stays on record. -/
  pool : ∃ pool, pools.get? block.poolId = some pool
  start : block.startPort ≠ 0
  bounds : block.startPort ≤ block.endPort

structure Sound (t : Tables) : Prop where
  pools : ∀ key pool, t.pools.get? key = some pool → PoolSound key pool
  blocks : ∀ key block, t.blocks.get? key = some block → BlockSound t.pools block
  ports : ∀ key a, t.allocations.get? key = some a → a.port ≠ 0

theorem sound_empty : empty.Sound := by
  constructor <;> intro _ _ h <;> cases h

def Proper (t : Tables) : Prop :=
  ∀ key block, t.blocks.get? key = some block → block.startPort ≤ block.endPort

theorem Sound.proper (sound : t.Sound) : t.Proper :=
  fun key block h => (sound.blocks key block h).bounds

/-!
# Leases
-/

theorem mem_occupied_of_block {pool : Pool} {key : String} {block : Block}
    {protocol : Protocol} (h : t.blocks.get? key = some block) (node : block.nodeId = pool.nodeId)
    (serves : protocol ∈ pool.protocols) (reserves : t.blockReserves block protocol = true) :
    (block.startPort.toNat, block.endPort.toNat) ∈ t.occupied pool := by
  unfold occupied
  rw [List.mem_mergeSort]
  refine List.mem_append.mpr (Or.inl (List.mem_map.mpr ⟨block, ?_, rfl⟩))
  refine List.mem_filter.mpr ⟨Table.mem_values_iff.mpr ⟨key, h⟩, ?_⟩
  simp only [node, decide_true, Bool.true_and, List.any_eq_true]
  exact ⟨protocol, serves, reserves⟩

theorem mem_occupied_of_allocation {pool : Pool} {key : String} {a : Allocation}
    (h : t.allocations.get? key = some a) (node : a.nodeId = pool.nodeId)
    (serves : a.protocol ∈ pool.protocols) : (a.port.toNat, a.port.toNat) ∈ t.occupied pool := by
  unfold occupied
  rw [List.mem_mergeSort]
  refine List.mem_append.mpr (Or.inr (List.mem_map.mpr ⟨a, ?_, rfl⟩))
  refine List.mem_filter.mpr ⟨Table.mem_values_iff.mpr ⟨key, h⟩, ?_⟩
  simp [node, serves]

theorem ascending_occupied (t : Tables) (pool : Pool) :
    (t.occupied pool).Pairwise (fun a b => a.1 ≤ b.1) := by
  have sorted : (t.occupied pool).Pairwise (fun a b => Run.le a b = true) := by
    apply List.pairwise_mergeSort
    · intro a b c hab hbc
      simp only [Run.le, Bool.or_eq_true, Bool.and_eq_true, decide_eq_true_eq] at hab hbc ⊢
      omega
    · intro a b
      simp only [Run.le, Bool.or_eq_true, Bool.and_eq_true, decide_eq_true_eq]
      omega
  refine sorted.imp ?_
  intro a b h
  simp only [Run.le, Bool.or_eq_true, Bool.and_eq_true, decide_eq_true_eq] at h
  omega

theorem proper_of_mem_occupied (proper : t.Proper) {pool : Pool} {taken : Run}
    (h : taken ∈ t.occupied pool) : taken.1 ≤ taken.2 := by
  unfold occupied at h
  rw [List.mem_mergeSort] at h
  rcases List.mem_append.mp h with h | h
  · rcases List.mem_map.mp h with ⟨block, hblock, rfl⟩
    rcases Table.mem_values_iff.mp (List.mem_filter.mp hblock).1 with ⟨key, hget⟩
    exact UInt16.le_iff_toNat_le.mp (proper key block hget)
  · rcases List.mem_map.mp h with ⟨a, _, rfl⟩
    exact Nat.le_refl _

structure FreeRuns (t : Tables) (pool : Pool) (runs : List Run) : Prop where
  apart : runs.Pairwise Apart
  proper : ∀ run ∈ runs, run.1 ≤ run.2
  start : ∀ run ∈ runs, pool.startPort.toNat ≤ run.1
  stop : ∀ run ∈ runs, run.2 ≤ pool.endPort.toNat
  clear : ∀ run ∈ runs, ∀ taken ∈ t.occupied pool, Apart run taken

theorem freeRuns_freeFor (proper : t.Proper) (pool : Pool) {start stop : Nat}
    (first : pool.startPort.toNat ≤ start) (last : stop ≤ pool.endPort.toNat) :
    t.FreeRuns pool (t.freeFor pool start stop) where
  apart := pairwise_apart_freeRuns (fun _ h => proper_of_mem_occupied proper h)
  proper := fun _ h => (bounds_of_mem_freeRuns h).2.1
  start := fun _ h => Nat.le_trans first (bounds_of_mem_freeRuns h).1
  stop := fun _ h => Nat.le_trans (bounds_of_mem_freeRuns h).2.2 last
  clear := fun _ h _ taken => apart_of_mem_freeRuns (t.ascending_occupied pool) h taken

theorem FreeRuns.of_leads {pool : Pool} {runs parts : List Run} (free : t.FreeRuns pool runs)
    (apart : parts.Pairwise Apart) (leads : ∀ part ∈ parts, ∃ run ∈ runs, Leads part run) :
    t.FreeRuns pool parts := by
  constructor
  · exact apart
  · intro part h
    rcases leads part h with ⟨_, _, leads⟩
    exact leads.proper
  · intro part h
    rcases leads part h with ⟨run, mem, leads⟩
    rw [leads.start]
    exact free.start run mem
  · intro part h
    rcases leads part h with ⟨run, mem, leads⟩
    exact Nat.le_trans leads.stop (free.stop run mem)
  · intro part h taken htaken
    rcases leads part h with ⟨run, mem, leads⟩
    exact leads.apart (free.clear run mem taken htaken)

theorem FreeRuns.leading {pool : Pool} {runs : List Run} (free : t.FreeRuns pool runs)
    {size : Nat} (positive : size ≠ 0) {run : Run} (h : runs.find? (fits size) = some run) :
    t.FreeRuns pool [Tables.leading run size] := by
  refine free.of_leads (List.pairwise_singleton _ _) ?_
  intro part mem
  rw [List.mem_singleton.mp mem]
  have hrun := List.mem_of_find?_eq_some h
  exact ⟨run, hrun, leads_leading positive (List.find?_some h) (free.proper run hrun)⟩

theorem FreeRuns.takePorts {pool : Pool} {runs : List Run} (free : t.FreeRuns pool runs)
    (size : Nat) : t.FreeRuns pool (takePorts size runs) :=
  free.of_leads (pairwise_apart_takePorts free.proper free.apart)
    (fun _ h => leads_of_mem_takePorts free.proper h)

def Leased (t : Tables) (poolId : String) (blocks : List Block) (t' : Tables) : Prop :=
  ∃ pool customerId now fresh runs, t.pools.get? poolId = some pool ∧ t.FreeRuns pool runs ∧
    t.leaseRuns pool customerId now fresh runs = (blocks, t')

theorem allocateBlock_eq_ok {poolId customerId : String} {size : Nat} {now : Instant}
    {fresh : Nat → String} {blocks : List Block} (sound : t.Sound)
    (h : t.allocateBlock poolId customerId size now fresh = .ok (blocks, t')) :
    t.Leased poolId blocks t' := by
  unfold allocateBlock at h
  split at h
  · cases h
  · rename_i positive
    rcases bind_eq_ok.mp h with ⟨pool, hpool, h⟩
    split at h
    · rename_i run hrun
      have free := freeRuns_freeFor sound.proper pool (Nat.le_refl _) (Nat.le_refl _)
      exact ⟨pool, customerId, now, fresh, _, findPool_eq_ok hpool,
        free.leading positive hrun, pure_eq_ok.mp h⟩
    · exact absurd h throw_ne_ok

theorem allocateBlocksInRange_eq_ok {poolId customerId : String} {start stop : UInt16}
    {size : Nat} {now : Instant} {fresh : Nat → String} {blocks : List Block} (sound : t.Sound)
    (h : t.allocateBlocksInRange poolId customerId start stop size now fresh =
      .ok (blocks, t')) : t.Leased poolId blocks t' := by
  unfold allocateBlocksInRange at h
  split at h
  · cases h
  · rcases bind_eq_ok.mp h with ⟨pool, hpool, h⟩
    simp only at h
    split at h
    · rcases bind_eq_ok.mp h with ⟨_, refused, _⟩
      exact absurd refused throw_ne_ok
    · rename_i within
      rcases not_or.mp within with ⟨first, last⟩
      split at h
      · rcases bind_eq_ok.mp h with ⟨_, refused, _⟩
        exact absurd refused throw_ne_ok
      · rename_i positive
        have free := freeRuns_freeFor sound.proper pool
          (UInt16.le_iff_toNat_le.mp (UInt16.not_lt.mp first))
          (UInt16.le_iff_toNat_le.mp (UInt16.not_lt.mp last))
        split at h
        · rename_i run hrun
          exact ⟨pool, customerId, now, fresh, _, findPool_eq_ok hpool,
            free.leading positive hrun, pure_eq_ok.mp h⟩
        · split at h
          · exact absurd h throw_ne_ok
          · exact ⟨pool, customerId, now, fresh, _, findPool_eq_ok hpool,
              free.takePorts size, pure_eq_ok.mp h⟩

theorem get?_foldl_insert {rows : Table Block} {blocks : List Block} {key : String}
    {block : Block}
    (h : (blocks.foldl (fun rows b => rows.insert b.id b) rows).get? key = some block) :
    (block ∈ blocks ∧ block.id = key) ∨ rows.get? key = some block := by
  induction blocks generalizing rows with
  | nil => exact Or.inr h
  | cons b rest ih =>
      rcases ih h with ⟨mem, name⟩ | h
      · exact Or.inl ⟨List.mem_cons_of_mem _ mem, name⟩
      · rw [Table.get?_insert] at h
        split at h
        · rename_i same
          cases h
          exact Or.inl ⟨List.mem_cons_self, same.symm⟩
        · exact Or.inr h

structure NewBlock (pool : Pool) (run : Run) (block : Block) : Prop where
  poolId : block.poolId = pool.id
  nodeId : block.nodeId = pool.nodeId
  unbound : block.instanceId = none
  start : block.startPort.toNat = run.1
  stop : block.endPort.toNat = run.2

theorem newBlock_spec {pool : Pool} {run : Run} (proper : run.1 ≤ run.2)
    (last : run.2 ≤ pool.endPort.toNat) (customerId : String) (now : Instant) (id : String) :
    NewBlock pool run (newBlock pool customerId now run id) := by
  have small : run.2 < UInt16.size := Nat.lt_of_le_of_lt last pool.endPort.toNat_lt
  constructor
  · rfl
  · rfl
  · rfl
  · exact UInt16.toNat_ofNat_of_lt' (Nat.lt_of_le_of_lt proper small)
  · exact UInt16.toNat_ofNat_of_lt' small

/-- What a lease does: free runs become new blocks, and nothing else changes. -/
structure LeaseEffect (t : Tables) (pool : Pool) (t' : Tables) : Prop where
  pools : t'.pools = t.pools
  allocations : t'.allocations = t.allocations
  blocks : ∀ key block, t'.blocks.get? key = some block →
    t.blocks.get? key = some block ∨ ∃ run, NewBlock pool run block ∧ run.1 ≤ run.2 ∧
      pool.startPort.toNat ≤ run.1 ∧ ∀ taken ∈ t.occupied pool, Apart run taken
  /-- Two new blocks are apart. -/
  apart : ∀ key block key' block', t'.blocks.get? key = some block →
    t'.blocks.get? key' = some block' → key ≠ key' → t.blocks.get? key ≠ some block →
    t.blocks.get? key' ≠ some block' →
    Apart (block.startPort.toNat, block.endPort.toNat)
      (block'.startPort.toNat, block'.endPort.toNat)

theorem Leased.effect {poolId : String} {blocks : List Block}
    (leased : t.Leased poolId blocks t') :
    ∃ pool, t.pools.get? poolId = some pool ∧ t.LeaseEffect pool t' := by
  rcases leased with ⟨pool, customerId, now, fresh, runs, hpool, free, h⟩
  cases h
  have new : ∀ block ∈ runs.mapIdx (fun i run => newBlock pool customerId now run (fresh i)),
      ∃ run ∈ runs, NewBlock pool run block := by
    intro block mem
    rcases List.mem_mapIdx.mp mem with ⟨i, hi, rfl⟩
    have hrun := List.getElem_mem hi
    exact ⟨_, hrun, newBlock_spec (free.proper _ hrun) (free.stop _ hrun) _ _ _⟩
  have distinct : (runs.mapIdx (fun i run => newBlock pool customerId now run (fresh i))).Pairwise
      (fun a b => Apart (a.startPort.toNat, a.endPort.toNat)
        (b.startPort.toNat, b.endPort.toNat)) := by
    rw [List.pairwise_iff_getElem]
    intro i j hi hj hlt
    rw [List.length_mapIdx] at hi hj
    simp only [List.getElem_mapIdx]
    have a := newBlock_spec (free.proper _ (List.getElem_mem hi))
      (free.stop _ (List.getElem_mem hi)) customerId now (fresh i)
    have b := newBlock_spec (free.proper _ (List.getElem_mem hj))
      (free.stop _ (List.getElem_mem hj)) customerId now (fresh j)
    rw [a.start, a.stop, b.start, b.stop]
    exact List.pairwise_iff_getElem.mp free.apart i j hi hj hlt
  refine ⟨pool, hpool, rfl, rfl, ?_, ?_⟩
  · intro key block h
    rcases get?_foldl_insert h with ⟨mem, _⟩ | old
    · rcases new block mem with ⟨run, hrun, spec⟩
      exact Or.inr ⟨run, spec, free.proper run hrun, free.start run hrun, free.clear run hrun⟩
    · exact Or.inl old
  · intro key block key' block' h h' hne fresh_ fresh'
    rcases get?_foldl_insert h with ⟨mem, name⟩ | old
    · rcases get?_foldl_insert h' with ⟨mem', name'⟩ | old'
      · have : Std.Symm (fun a b : Block => Apart (a.startPort.toNat, a.endPort.toNat)
            (b.startPort.toNat, b.endPort.toNat)) := ⟨fun _ _ h => Run.Apart.symm h⟩
        refine distinct.forall mem mem' ?_
        intro same
        rw [same, name'] at name
        exact hne name.symm
      · exact absurd old' fresh'
    · exact absurd old fresh_

/-!
# Blocks that change hands
-/

theorem findBlock_eq_ok {blockId : String} {block : Block}
    (h : t.findBlock blockId = .ok block) : t.blocks.get? blockId = some block := by
  unfold findBlock at h
  split at h
  · cases h
    assumption
  · cases h

theorem bindBlock_eq_ok {blockId instanceId : String} {bound : Block}
    (h : t.bindBlock blockId instanceId = .ok (bound, t')) :
    ∃ block, t.blocks.get? blockId = some block ∧ block.isActive = true ∧
      (block.instanceId = none ∨ block.instanceId = some instanceId) ∧
      bound = { block with instanceId := some instanceId } ∧
      t' = { t with blocks := t.blocks.insert blockId bound } := by
  unfold bindBlock at h
  rcases bind_eq_ok.mp h with ⟨block, hblock, h⟩
  rcases bind_eq_ok.mp h with ⟨_, hcheck, h⟩
  cases pure_eq_ok.mp h
  refine ⟨block, findBlock_eq_ok hblock, ?_⟩
  unfold checkBinding at hcheck
  split at hcheck
  · rename_i active
    refine ⟨active, ?_, rfl, rfl⟩
    split at hcheck
    · rename_i other hother
      split at hcheck
      · rename_i same
        exact Or.inr (same ▸ hother)
      · cases hcheck
    · rename_i hnone
      exact Or.inl hnone
  · cases hcheck

theorem releaseBlock_eq_ok {blockId : String} {now : Instant} {after : Block}
    (h : t.releaseBlock blockId now = .ok (after, t')) :
    ∃ block, t.blocks.get? blockId = some block ∧
      after = (if block.isActive then block.release now else block) ∧
      t' = { t with blocks := t.blocks.insert blockId after } := by
  unfold releaseBlock at h
  rcases bind_eq_ok.mp h with ⟨block, hblock, h⟩
  cases pure_eq_ok.mp h
  exact ⟨block, findBlock_eq_ok hblock, rfl, rfl⟩

structure ReleaseEffect (t t' : Tables) : Prop where
  pools : t'.pools = t.pools
  blocks : ∀ key after, t'.blocks.get? key = some after →
    ∃ block, t.blocks.get? key = some block ∧
      (after = block ∨ ∃ now, after = block.release now)
  allocations : ∀ key a, t'.allocations.get? key = some a → t.allocations.get? key = some a

theorem releaseEffect_releaseBlock {blockId : String} {now : Instant} {after : Block}
    (h : t.releaseBlock blockId now = .ok (after, t')) : t.ReleaseEffect t' := by
  rcases releaseBlock_eq_ok h with ⟨block, hblock, hafter, rfl⟩
  constructor
  · rfl
  · intro key row hrow
    rw [Table.get?_insert] at hrow
    split at hrow
    · rename_i same
      cases hrow
      refine ⟨block, same ▸ hblock, ?_⟩
      rw [hafter]
      split
      · exact Or.inr ⟨now, rfl⟩
      · exact Or.inl rfl
    · exact ⟨row, hrow, Or.inl rfl⟩
  · intro key a ha
    exact ha

theorem get?_takeAllocations {rows : Table Allocation} {ids : List String} {key : String} :
    (takeAllocations rows ids).2.get? key = if key ∈ ids then none else rows.get? key := by
  induction ids generalizing rows with
  | nil => rfl
  | cons id rest ih =>
      unfold takeAllocations
      cases found : rows.get? id with
      | none =>
          simp only [ih, List.mem_cons]
          by_cases here : key = id
          · simp [here, found]
          · simp [here]
      | some row =>
          simp only [ih, List.mem_cons, Table.get?_erase]
          by_cases here : key = id <;> simp [here]

theorem releaseEffect_releaseInstance (t : Tables) (instanceId : String) (now : Instant) :
    t.ReleaseEffect (t.releaseInstance instanceId now).2 := by
  constructor
  · rfl
  · intro key row hrow
    simp only [releaseInstance, Table.get?_map] at hrow
    rcases Option.map_eq_some_iff.mp hrow with ⟨block, hblock, rfl⟩
    refine ⟨block, hblock, ?_⟩
    split
    · exact Or.inr ⟨now, rfl⟩
    · exact Or.inl rfl
  · intro key a ha
    have kept := get?_takeAllocations.symm.trans ha
    split at kept
    · cases kept
    · exact kept

/-!
# Allocations
-/

theorem mem_portsBetween {start stop port : UInt16} :
    port ∈ portsBetween start stop ↔ start ≤ port ∧ port ≤ stop := by
  simp only [portsBetween, List.mem_map, List.mem_range'_1, UInt16.le_iff_toNat_le]
  constructor
  · rintro ⟨n, ⟨above, below⟩, rfl⟩
    have small : n < UInt16.size := by
      have := stop.toNat_lt
      unfold UInt16.size
      omega
    rw [UInt16.toNat_ofNat_of_lt' small]
    omega
  · intro within
    exact ⟨port.toNat, by omega, UInt16.ofNat_toNat⟩

theorem choosePort_ne_zero {req : Request} {port : UInt16} (h : t.choosePort req = .ok port) :
    port ≠ 0 := by
  unfold choosePort at h
  split at h
  · split at h
    · cases h
    · cases h
      assumption
  · unfold derivedPort at h
    split at h
    · cases h
    · simp only at h
      split at h
      · rename_i base _ within
        cases h
        intro zero
        have small := congrArg UInt16.toNat zero
        have bound : ((base.port.toNat : Int) + _).toNat < UInt16.size :=
          Int.toNat_lt' (by decide) |>.mpr within.2
        rw [UInt16.toNat_ofNat_of_lt' bound] at small
        exact absurd (Int.toNat_eq_zero.mp small) (Int.not_le.mpr within.1)
      · cases h
  · rcases bind_eq_ok.mp h with ⟨chosen, _, h⟩
    split at h
    · exact absurd h throw_ne_ok
    · cases pure_eq_ok.mp h
      assumption

theorem allocatePort_eq_ok {req : Request} {now : Instant} {fresh : String} {a : Allocation}
    (h : t.allocatePort req now fresh = .ok (a, t')) :
    t.choosePort req = .ok a.port ∧ a.nodeId = req.nodeId ∧ a.protocol = req.protocol ∧
      a.instanceId = req.instanceId ∧
      t' = { t with allocations := t.allocations.insert a.id a } := by
  unfold allocatePort at h
  split at h
  · cases h
  · rcases bind_eq_ok.mp h with ⟨port, hport, h⟩
    unfold insertAllocation at h
    split at h
    · cases h
    · cases h
      exact ⟨hport, rfl, rfl, rfl, rfl⟩

/-!
# All deeds
-/

/-- What a deed that is not refused comes to. -/
inductive Does (t : Tables) : Deed → Tables → Prop
  | addPool {pool row : Pool} {fresh : String} {after : Tables}
      (added : t.addPool pool fresh = .ok (row, after)) : Does t (.addPool pool fresh) after
  | addRange {range : Range} {fresh : String} (ranges : Table Range) :
      Does t (.addRange range fresh) { t with ranges := ranges }
  | allocateBlock {poolId customerId : String} {size : Nat} {now : Instant}
      {fresh : Nat → String} {pool : Pool} {after : Tables}
      (known : t.pools.get? poolId = some pool) (lease : t.LeaseEffect pool after) :
      Does t (.allocateBlock poolId customerId size now fresh) after
  | allocateBlocksInRange {poolId customerId : String} {start stop : UInt16} {size : Nat}
      {now : Instant} {fresh : Nat → String} {pool : Pool} {after : Tables}
      (known : t.pools.get? poolId = some pool) (lease : t.LeaseEffect pool after) :
      Does t (.allocateBlocksInRange poolId customerId start stop size now fresh) after
  | bindBlock {blockId instanceId : String} {block : Block}
      (known : t.blocks.get? blockId = some block) (active : block.isActive = true)
      (free : block.instanceId = none ∨ block.instanceId = some instanceId) :
      Does t (.bindBlock blockId instanceId)
        { t with blocks := t.blocks.insert blockId { block with instanceId := some instanceId } }
  | releaseBlock {blockId : String} {now : Instant} {after : Tables}
      (release : t.ReleaseEffect after) : Does t (.releaseBlock blockId now) after
  | releaseInstance {instanceId : String} {now : Instant} {after : Tables}
      (release : t.ReleaseEffect after) : Does t (.releaseInstance instanceId now) after
  | allocatePort {req : Request} {now : Instant} {fresh : String} {a : Allocation}
      (chosen : t.choosePort req = .ok a.port) (node : a.nodeId = req.nodeId)
      (protocol : a.protocol = req.protocol) (instanceId : a.instanceId = req.instanceId) :
      Does t (.allocatePort req now fresh) { t with allocations := t.allocations.insert a.id a }

theorem does_of_attempt {deed : Deed} (sound : t.Sound) (h : t.attempt deed = .ok t') :
    t.Does deed t' := by
  cases deed with
  | addPool pool fresh =>
      rcases map_eq_ok.mp h with ⟨⟨row, after⟩, hadd, rfl⟩
      exact .addPool hadd
  | addRange range fresh =>
      rcases map_eq_ok.mp h with ⟨⟨row, after⟩, hadd, rfl⟩
      rw [addRange_eq_ok hadd]
      exact .addRange _
  | allocateBlock poolId customerId size now fresh =>
      rcases map_eq_ok.mp h with ⟨⟨blocks, after⟩, hlease, rfl⟩
      rcases (allocateBlock_eq_ok sound hlease).effect with ⟨pool, known, effect⟩
      exact .allocateBlock known effect
  | allocateBlocksInRange poolId customerId start stop size now fresh =>
      rcases map_eq_ok.mp h with ⟨⟨blocks, after⟩, hlease, rfl⟩
      rcases (allocateBlocksInRange_eq_ok sound hlease).effect with ⟨pool, known, effect⟩
      exact .allocateBlocksInRange known effect
  | bindBlock blockId instanceId =>
      rcases map_eq_ok.mp h with ⟨⟨bound, after⟩, hbind, rfl⟩
      rcases bindBlock_eq_ok hbind with ⟨block, known, active, free, rfl, rfl⟩
      exact .bindBlock known active free
  | releaseBlock blockId now =>
      rcases map_eq_ok.mp h with ⟨⟨block, after⟩, hrelease, rfl⟩
      exact .releaseBlock (releaseEffect_releaseBlock hrelease)
  | releaseInstance instanceId now =>
      cases h
      exact .releaseInstance (releaseEffect_releaseInstance t instanceId now)
  | allocatePort req now fresh =>
      rcases map_eq_ok.mp h with ⟨⟨a, after⟩, hallocate, rfl⟩
      rcases allocatePort_eq_ok hallocate with ⟨chosen, node, protocol, instanceId, rfl⟩
      exact .allocatePort chosen node protocol instanceId

theorem Sound.addPool {pool row : Pool} {fresh : String} (sound : t.Sound)
    (h : t.addPool pool fresh = .ok (row, t')) : t'.Sound := by
  rcases addPool_eq_ok h with ⟨positive, ordered, served, rfl⟩
  refine ⟨?_, ?_, sound.ports⟩
  · intro key found hfound
    rw [Table.get?_insert] at hfound
    split at hfound
    · rename_i same
      cases hfound
      exact ⟨same.symm, served, positive⟩
    · exact sound.pools key found hfound
  · intro key block hblock
    rcases sound.blocks key block hblock with ⟨⟨old, hold⟩, start, bounds⟩
    refine ⟨?_, start, bounds⟩
    by_cases same : block.poolId = row.id
    · exact ⟨row, by rw [Table.get?_insert, if_pos same]⟩
    · exact ⟨old, by rw [Table.get?_insert, if_neg same, hold]⟩

theorem Sound.lease {poolId : String} {pool : Pool} (sound : t.Sound)
    (known : t.pools.get? poolId = some pool) (lease : t.LeaseEffect pool t') : t'.Sound := by
  refine ⟨lease.pools ▸ sound.pools, ?_, lease.allocations ▸ sound.ports⟩
  intro key block hblock
  rw [lease.pools]
  rcases lease.blocks key block hblock with old | ⟨run, new, proper, first, -⟩
  · exact sound.blocks key block old
  · have hpool := sound.pools poolId pool known
    refine ⟨⟨pool, by rw [new.poolId, hpool.id, known]⟩, ?_, ?_⟩
    · intro zero
      rw [← new.start, zero] at first
      exact hpool.start (UInt16.toNat_inj.mp (Nat.le_zero.mp first))
    · rw [UInt16.le_iff_toNat_le, new.start, new.stop]
      exact proper

theorem Sound.bindBlock {blockId instanceId : String} {block : Block} (sound : t.Sound)
    (known : t.blocks.get? blockId = some block) :
    Sound { t with
      blocks := t.blocks.insert blockId { block with instanceId := some instanceId } } := by
  refine ⟨sound.pools, ?_, sound.ports⟩
  intro key row hrow
  rw [Table.get?_insert] at hrow
  split at hrow
  · cases hrow
    rcases sound.blocks blockId block known with ⟨pool, start, bounds⟩
    exact ⟨pool, start, bounds⟩
  · exact sound.blocks key row hrow

theorem Sound.release (sound : t.Sound) (release : t.ReleaseEffect t') : t'.Sound := by
  refine ⟨release.pools ▸ sound.pools, ?_,
    fun key a ha => sound.ports key a (release.allocations key a ha)⟩
  intro key after hafter
  rw [release.pools]
  rcases release.blocks key after hafter with ⟨block, hblock, rfl | ⟨now, rfl⟩⟩
  · exact sound.blocks key after hblock
  · rcases sound.blocks key block hblock with ⟨pool, start, bounds⟩
    exact ⟨pool, start, bounds⟩

theorem Sound.allocatePort {a : Allocation} (sound : t.Sound) (positive : a.port ≠ 0) :
    Sound { t with allocations := t.allocations.insert a.id a } := by
  refine ⟨sound.pools, sound.blocks, ?_⟩
  intro key row hrow
  rw [Table.get?_insert] at hrow
  split at hrow
  · cases hrow
    exact positive
  · exact sound.ports key row hrow

theorem Sound.does {deed : Deed} (sound : t.Sound) (does : t.Does deed t') : t'.Sound := by
  cases does with
  | addPool added => exact sound.addPool added
  | addRange _ => exact ⟨sound.pools, sound.blocks, sound.ports⟩
  | allocateBlock known lease => exact sound.lease known lease
  | allocateBlocksInRange known lease => exact sound.lease known lease
  | bindBlock known => exact sound.bindBlock known
  | releaseBlock release => exact sound.release release
  | releaseInstance release => exact sound.release release
  | allocatePort chosen => exact sound.allocatePort (choosePort_ne_zero chosen)

theorem sound_attempt (t : Tables) (deed : Deed) (t' : Tables) (sound : t.Sound)
    (h : t.attempt deed = .ok t') : t'.Sound :=
  sound.does (does_of_attempt sound h)

theorem throughout_proper (deeds : List Deed) : empty.Throughout Proper deeds :=
  Throughout.mono (fun _ sound => sound.proper)
    (throughout_of_kept (P := Sound) sound_attempt
      (fun t deed t' sound _ _ h => sound_attempt t deed t' sound h) sound_empty sound_empty
      (eachDeed_of_forall (Q := fun _ _ => True) (fun _ _ => trivial) empty deeds))

end Tables
end Port
end FleetControl
