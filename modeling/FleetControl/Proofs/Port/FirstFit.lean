import Mathlib.Order.Bounds.Defs
import FleetControl.Proofs.InPlace.Ports
import FleetControl.Proofs.Port.Deeds
import FleetControl.Proofs.Port.FreePorts

/-!
# First fit

A lease takes the lowest place where the ports that are wanted are free side by side.  If a
lease between two ports finds no such place, it takes the lowest free ports there are, in
blocks that do not touch.  Nothing is asked of the tables but that no block ends before it
begins: blocks and single allocations may overlap, repeat one another or lie one in another.
-/

namespace FleetControl
namespace Port

open Refusal
open Run
open Time

namespace Block

def run (block : Block) : Run :=
  (block.startPort.toNat, block.endPort.toNat)

end Block

namespace Tables

variable {t : Tables} {pool : Pool}

/-!
# Free ports of a pool
-/

inductive Held (t : Tables) (pool : Pool) (port : Nat) : Prop
  | block {key : String} {block : Block} {protocol : Protocol}
      (found : t.blocks.get? key = some block) (node : block.nodeId = pool.nodeId)
      (serves : protocol ∈ pool.protocols) (reserves : t.blockReserves block protocol = true)
      (covers : block.run.Holds port)
  | allocation {key : String} {a : Allocation} (found : t.allocations.get? key = some a)
      (node : a.nodeId = pool.nodeId) (serves : a.protocol ∈ pool.protocols)
      (port : a.port.toNat = port)

theorem held_iff {port : Nat} :
    t.Held pool port ↔
      (∃ block ∈ t.blocks.values, block.nodeId = pool.nodeId ∧
        (∃ protocol ∈ pool.protocols, t.blockReserves block protocol = true) ∧
        block.run.Holds port) ∨
      ∃ a ∈ t.allocations.values, a.nodeId = pool.nodeId ∧ a.protocol ∈ pool.protocols ∧
        a.port.toNat = port := by
  constructor
  · intro held
    cases held with
    | @block key block protocol found node serves reserves covers =>
        exact Or.inl ⟨block, Table.mem_values_iff.mpr ⟨key, found⟩, node,
          ⟨protocol, serves, reserves⟩, covers⟩
    | @allocation key a found node serves port =>
        exact Or.inr ⟨a, Table.mem_values_iff.mpr ⟨key, found⟩, node, serves, port⟩
  · rintro (⟨block, mem, node, ⟨protocol, serves, reserves⟩, covers⟩ |
      ⟨a, mem, node, serves, port⟩)
    · rcases Table.mem_values_iff.mp mem with ⟨key, found⟩
      exact .block found node serves reserves covers
    · rcases Table.mem_values_iff.mp mem with ⟨key, found⟩
      exact .allocation found node serves port

instance (t : Tables) (pool : Pool) (port : Nat) : Decidable (t.Held pool port) :=
  decidable_of_iff _ held_iff.symm

theorem held_iff_occupied {port : Nat} :
    t.Held pool port ↔ ∃ taken ∈ t.occupied pool, taken.Holds port := by
  constructor
  · intro held
    cases held with
    | block found node serves reserves covers =>
        exact ⟨_, mem_occupied_of_block found node serves reserves, covers⟩
    | allocation found node serves port =>
        exact ⟨_, mem_occupied_of_allocation found node serves, Nat.le_of_eq port,
          Nat.le_of_eq port.symm⟩
  · rintro ⟨taken, mem, holds⟩
    unfold occupied at mem
    rw [List.mem_mergeSort] at mem
    refine held_iff.mpr ?_
    rcases List.mem_append.mp mem with mem | mem
    · rcases List.mem_map.mp mem with ⟨block, hblock, rfl⟩
      rcases List.mem_filter.mp hblock with ⟨hvalue, reserved⟩
      simp only [Bool.and_eq_true, decide_eq_true_eq, List.any_eq_true] at reserved
      exact Or.inl ⟨block, hvalue, reserved.1, reserved.2, holds⟩
    · rcases List.mem_map.mp mem with ⟨a, ha, rfl⟩
      rcases List.mem_filter.mp ha with ⟨hvalue, served⟩
      simp only [Bool.and_eq_true, decide_eq_true_eq, List.contains_iff_mem] at served
      exact Or.inr ⟨a, hvalue, served.1, served.2, Nat.le_antisymm holds.1 holds.2⟩

def freePorts (t : Tables) (pool : Pool) (start stop : Nat) : List Nat :=
  (ports (start, stop)).filter (fun port => ¬ t.Held pool port)

/-- From `first` on, `size` ports between `start` and `stop` are free side by side. -/
structure Vacant (t : Tables) (pool : Pool) (start stop size first : Nat) : Prop where
  above : start ≤ first
  below : first + size ≤ stop + 1
  free : ∀ port, first ≤ port → port < first + size → ¬ t.Held pool port

/-!
# What the scan finds
-/

variable {start stop size first : Nat}

theorem portsOf_freeFor (proper : t.Proper) :
    portsOf (t.freeFor pool start stop) = t.freePorts pool start stop := by
  unfold freeFor freePorts
  rw [portsOf_freeRuns (t.ascending_occupied pool) (fun _ h => proper_of_mem_occupied proper h)]
  apply List.filter_congr
  intro port _
  simp only [held_iff_occupied, not_exists, not_and]

theorem vacant_of_mem_freeFor {run : Run}
    (mem : run ∈ t.freeFor pool start stop) (room : fits size run = true) :
    t.Vacant pool start stop size run.1 := by
  have bounds := bounds_of_mem_freeRuns mem
  have wide : size ≤ run.2 - run.1 + 1 := of_decide_eq_true room
  refine ⟨bounds.1, by omega, ?_⟩
  intro port above below held
  rcases held_iff_occupied.mp held with ⟨taken, htaken, holds⟩
  have apart := apart_of_mem_freeRuns (t.ascending_occupied pool) mem htaken
  exact apart.not_holds ⟨above, by omega⟩ holds

/-- Where ports are free side by side there is a free run, which begins no later. -/
theorem Vacant.fits (vacant : t.Vacant pool start stop size first) (proper : t.Proper)
    (positive : size ≠ 0) :
    ∃ run ∈ t.freeFor pool start stop, run.1 ≤ first ∧ fits size run = true := by
  have below := vacant.below
  have clear : ∀ taken ∈ t.occupied pool, Apart (first, first + size - 1) taken := by
    intro taken mem
    refine apart_of_holds_no_port ?_ (proper_of_mem_occupied proper mem) ?_
    · show first ≤ first + size - 1
      omega
    · intro port inside holds
      have last : port ≤ first + size - 1 := inside.2
      exact vacant.free port inside.1 (by omega) (held_iff_occupied.mpr ⟨taken, mem, holds⟩)
  have ends : first + size - 1 ≤ stop := by omega
  rcases within_freeRuns (first, first + size - 1) (by simp only; omega) vacant.above ends clear
    with ⟨run, mem, inside⟩
  have start : run.1 ≤ first := inside.start
  have stop : first + size - 1 ≤ run.2 := inside.stop
  refine ⟨run, mem, start, decide_eq_true ?_⟩
  unfold width
  omega

theorem isLeast_of_find? (proper : t.Proper) (positive : size ≠ 0) {run : Run}
    (h : (t.freeFor pool start stop).find? (fits size) = some run) :
    IsLeast {first | t.Vacant pool start stop size first} run.1 := by
  rcases List.find?_eq_some_iff_append.mp h with ⟨room, shorter, later, split, narrow⟩
  have before : (t.freeFor pool start stop).Pairwise Before :=
    pairwise_before_freeRuns (fun _ h => proper_of_mem_occupied proper h)
  have hrun := List.mem_of_find?_eq_some h
  refine ⟨vacant_of_mem_freeFor hrun room, ?_⟩
  intro first vacant
  rcases vacant.fits proper positive with ⟨other, mem, start, fit⟩
  -- the run that has room there is the one found or comes after it: those before are too short
  rw [split] at mem before
  rcases List.mem_append.mp mem with mem | mem
  · have short := narrow other mem
    rw [fit] at short
    cases short
  · rcases List.mem_cons.mp mem with rfl | mem
    · exact start
    · have gap := (List.pairwise_cons.mp (List.pairwise_append.mp before).2.1).1 other mem
      have ordered := (bounds_of_mem_freeRuns hrun).2.1
      unfold Before at gap
      omega

theorem not_vacant_of_find? (proper : t.Proper) (positive : size ≠ 0)
    (h : (t.freeFor pool start stop).find? (fits size) = none) :
    ¬ ∃ first, t.Vacant pool start stop size first := by
  rintro ⟨first, vacant⟩
  rcases vacant.fits proper positive with ⟨run, mem, _, fit⟩
  exact absurd fit (List.find?_eq_none.mp h run mem)

theorem Vacant.size_le_length (vacant : t.Vacant pool start stop size first) :
    size ≤ (t.freePorts pool start stop).length := by
  have below := vacant.below
  have sub : List.range' first size ⊆ t.freePorts pool start stop := by
    intro port mem
    rcases List.mem_range'_1.mp mem with ⟨start, stop⟩
    have free := vacant.free port start stop
    have above := vacant.above
    refine List.mem_filter.mpr ⟨mem_ports.mpr ⟨?_, ?_⟩, decide_eq_true free⟩
    · simp only; omega
    · simp only; omega
  have few := (List.nodup_range' 1).length_le_of_subset sub
  rwa [List.length_range'] at few

theorem totalWidth_freeFor (proper : t.Proper) :
    totalWidth (t.freeFor pool start stop) = (t.freePorts pool start stop).length := by
  rw [← portsOf_freeFor proper]
  exact (length_portsOf (fun _ h => (bounds_of_mem_freeRuns h).2.1)).symm

/-!
# Blocks on free runs
-/

variable {t' : Tables} {customerId poolId : String} {now : Instant} {fresh : Nat → String}

structure LeasedTo (pool : Pool) (customerId : String) (now : Instant) (block : Block) :
    Prop where
  poolId : block.poolId = pool.id
  nodeId : block.nodeId = pool.nodeId
  customerId : block.customerId = customerId
  unbound : block.instanceId = none
  allocatedAt : block.allocatedAt = now
  active : block.releasedAt = none
  bounds : block.startPort ≤ block.endPort

structure Enters (t : Tables) (pool : Pool) (customerId : String) (now : Instant)
    (blocks : List Block) (t' : Tables) : Prop where
  leased : ∀ block ∈ blocks, LeasedTo pool customerId now block
  new : ∀ block ∈ blocks, t.blocks.get? block.id = none
  names : (blocks.map Block.id).Nodup
  rows : ∀ key block, t'.blocks.get? key = some block ↔
    (block ∈ blocks ∧ block.id = key) ∨ t.blocks.get? key = some block
  pools : t'.pools = t.pools
  ranges : t'.ranges = t.ranges
  allocations : t'.allocations = t.allocations

theorem get?_putBlocks_iff {blocks : List Block} (names : (blocks.map Block.id).Nodup)
    (new : ∀ block ∈ blocks, t.blocks.get? block.id = none) {key : String} {block : Block} :
    (t.putBlocks blocks).blocks.get? key = some block ↔
      (block ∈ blocks ∧ block.id = key) ∨ t.blocks.get? key = some block := by
  induction blocks generalizing t with
  | nil =>
      simp [putBlocks]
  | cons b rest ih =>
      rcases List.nodup_cons.mp names with ⟨own, others⟩
      have newHere : t.blocks.get? b.id = none := new b List.mem_cons_self
      have newThere : ∀ other ∈ rest, (t.blocks.insert b.id b).get? other.id = none := by
        intro other mem
        have hne : other.id ≠ b.id := fun same => own (same ▸ List.mem_map_of_mem mem)
        rw [Table.get?_insert, if_neg hne]
        exact new other (List.mem_cons_of_mem _ mem)
      have tail := ih (t := { t with blocks := t.blocks.insert b.id b }) others newThere
      refine tail.trans ?_
      simp only [Table.get?_insert, List.mem_cons]
      by_cases here : key = b.id
      · subst here
        rw [if_pos rfl, newHere]
        constructor
        · rintro (⟨mem, name⟩ | same)
          · exact Or.inl ⟨Or.inr mem, name⟩
          · cases same
            exact Or.inl ⟨Or.inl rfl, rfl⟩
        · rintro (⟨rfl | mem, name⟩ | none_)
          · exact Or.inr rfl
          · exact Or.inl ⟨mem, name⟩
          · cases none_
      · rw [if_neg here]
        constructor
        · rintro (⟨mem, name⟩ | old)
          · exact Or.inl ⟨Or.inr mem, name⟩
          · exact Or.inr old
        · rintro (⟨rfl | mem, name⟩ | old)
          · exact absurd name.symm here
          · exact Or.inl ⟨mem, name⟩
          · exact Or.inr old

theorem enters_leaseRuns {runs : List Run} (free : t.FreeRuns pool runs)
    (new : ∀ i < runs.length, t.blocks.get? (fresh i) = none)
    (distinct : ∀ i j, i < j → j < runs.length → fresh i ≠ fresh j) :
    t.Enters pool customerId now (t.leaseRuns pool customerId now fresh runs).1
      (t.leaseRuns pool customerId now fresh runs).2 := by
  have names : ((t.leaseRuns pool customerId now fresh runs).1.map Block.id).Nodup := by
    refine List.pairwise_iff_getElem.mpr ?_
    intro i j hi hj hlt
    simp only [leaseRuns, List.length_map, List.length_mapIdx] at hi hj
    simp only [leaseRuns, List.getElem_map, List.getElem_mapIdx]
    exact distinct i j hlt hj
  have absent : ∀ block ∈ (t.leaseRuns pool customerId now fresh runs).1,
      t.blocks.get? block.id = none := by
    intro block mem
    rcases List.mem_mapIdx.mp mem with ⟨i, hi, rfl⟩
    exact new i hi
  refine ⟨?_, absent, names, fun key block => get?_putBlocks_iff names absent, rfl, rfl, rfl⟩
  intro block mem
  rcases List.mem_mapIdx.mp mem with ⟨i, hi, rfl⟩
  have proper := free.proper _ (List.getElem_mem hi)
  have spec := newBlock_spec proper (free.stop _ (List.getElem_mem hi)) customerId now (fresh i)
  refine ⟨rfl, rfl, rfl, rfl, rfl, rfl, ?_⟩
  rw [UInt16.le_iff_toNat_le, spec.start, spec.stop]
  exact proper

/-- The blocks stand on the runs that are leased: no port is cut off. -/
theorem runs_leaseRuns {runs : List Run} (free : t.FreeRuns pool runs) :
    (t.leaseRuns pool customerId now fresh runs).1.map Block.run = runs := by
  apply List.ext_getElem
  · simp [leaseRuns]
  · intro i hi hj
    have spec := newBlock_spec (free.proper _ (List.getElem_mem hj))
      (free.stop _ (List.getElem_mem hj)) customerId now (fresh i)
    simp only [leaseRuns, List.getElem_map, List.getElem_mapIdx, Block.run, spec.start, spec.stop]

/-- One block is leased, at the lowest place where it has room. -/
structure TakesLowest (t : Tables) (pool : Pool) (customerId : String) (now : Instant)
    (start stop size : Nat) (block : Block) (t' : Tables) : Prop where
  lowest : IsLeast {first | t.Vacant pool start stop size first} block.startPort.toNat
  last : block.endPort.toNat = block.startPort.toNat + size - 1
  enters : t.Enters pool customerId now [block] t'

theorem takesLowest_leaseRuns (customerId : String) (now : Instant) (proper : t.Proper)
    (positive : size ≠ 0) (above : pool.startPort.toNat ≤ start)
    (below : stop ≤ pool.endPort.toNat) (new : t.blocks.get? (fresh 0) = none) {run : Run}
    (h : (t.freeFor pool start stop).find? (fits size) = some run) :
    ∃ block t', t.leaseRuns pool customerId now fresh [leading run size] = ([block], t') ∧
      t.TakesLowest pool customerId now start stop size block t' := by
  have free := (freeRuns_freeFor proper pool above below).leading positive h
  have spec := newBlock_spec (free.proper _ List.mem_cons_self) (free.stop _ List.mem_cons_self)
    customerId now (fresh 0)
  refine ⟨newBlock pool customerId now (leading run size) (fresh 0), _, rfl, ?_, ?_, ?_⟩
  · have lowest := isLeast_of_find? proper positive h
    rw [spec.start]
    exact lowest
  · rw [spec.start, spec.stop]
    rfl
  · have absent : ∀ i < 1, t.blocks.get? (fresh i) = none := by
      intro i hi
      rw [Nat.lt_one_iff.mp hi]
      exact new
    have distinct : ∀ i j, i < j → j < 1 → fresh i ≠ fresh j := by
      intro i j hlt hj
      rw [Nat.lt_one_iff.mp hj] at hlt
      exact absurd hlt (Nat.not_lt_zero i)
    exact enters_leaseRuns free absent distinct

/-- Several blocks are leased, on the lowest free ports there are. -/
structure TakesFirst (t : Tables) (pool : Pool) (customerId : String) (now : Instant)
    (start stop size : Nat) (blocks : List Block) (t' : Tables) : Prop where
  ascending : blocks.Pairwise (fun a b => a.run.Before b.run)
  ports : blocks.flatMap (fun block => block.run.ports) =
    (t.freePorts pool start stop).take size
  enters : t.Enters pool customerId now blocks t'

theorem takesFirst_leaseRuns (customerId : String) (now : Instant) (size : Nat)
    (proper : t.Proper) (above : pool.startPort.toNat ≤ start)
    (below : stop ≤ pool.endPort.toNat) (new : ∀ i, t.blocks.get? (fresh i) = none)
    (distinct : Function.Injective fresh) :
    ∃ blocks t', t.leaseRuns pool customerId now fresh
        (takePorts size (t.freeFor pool start stop)) = (blocks, t') ∧
      t.TakesFirst pool customerId now start stop size blocks t' := by
  have whole := freeRuns_freeFor proper pool above below
  have before : (t.freeFor pool start stop).Pairwise Before :=
    pairwise_before_freeRuns (fun _ h => proper_of_mem_occupied proper h)
  have runs : (t.leaseRuns pool customerId now fresh
      (takePorts size (t.freeFor pool start stop))).1.map Block.run =
      takePorts size (t.freeFor pool start stop) := runs_leaseRuns (whole.takePorts size)
  refine ⟨(t.leaseRuns pool customerId now fresh _).1,
    (t.leaseRuns pool customerId now fresh _).2, rfl, ?_, ?_, ?_⟩
  · rw [← List.pairwise_map (f := Block.run), runs]
    exact pairwise_before_takePorts whole.proper before
  · rw [← List.flatMap_map, runs, ← portsOf_freeFor proper]
    exact portsOf_takePorts whole.proper
  · refine enters_leaseRuns (whole.takePorts size) (fun i _ => new i) ?_
    intro i j hlt _ same
    exact Nat.ne_of_lt hlt (distinct same)

/-!
# Leases
-/

theorem findPool_eq (known : t.pools.get? poolId = some pool) (enabled : pool.enabled = true) :
    t.findPool poolId = .ok pool := by
  unfold findPool
  rw [known]
  exact if_pos enabled

theorem allocateBlock_eq (customerId : String) (now : Instant) (fresh : Nat → String)
    (known : t.pools.get? poolId = some pool) (enabled : pool.enabled = true)
    (positive : size ≠ 0) :
    t.allocateBlock poolId customerId size now fresh =
      match (t.freeFor pool pool.startPort.toNat pool.endPort.toNat).find? (fits size) with
      | some run => .ok (t.leaseRuns pool customerId now fresh [leading run size])
      | none => .error (.portsExhausted pool.id size) := by
  unfold allocateBlock
  rw [if_neg positive, findPool_eq known enabled]
  rfl

/-- A lease from a whole pool takes the lowest ports that are free side by side, and is
refused without a trace if there are none. -/
theorem allocateBlock_firstFit (proper : t.Proper) (known : t.pools.get? poolId = some pool)
    (enabled : pool.enabled = true) (positive : 1 ≤ size)
    (new : t.blocks.get? (fresh 0) = none) (customerId : String) (now : Instant) :
    ((∃ first, t.Vacant pool pool.startPort.toNat pool.endPort.toNat size first) →
      ∃ block t', t.allocateBlock poolId customerId size now fresh = .ok ([block], t') ∧
        t.TakesLowest pool customerId now pool.startPort.toNat pool.endPort.toNat size
          block t') ∧
    ((¬ ∃ first, t.Vacant pool pool.startPort.toNat pool.endPort.toNat size first) →
      t.allocateBlock poolId customerId size now fresh = .error (.portsExhausted pool.id size) ∧
      InPlace.on (InPlace.allocateBlock poolId customerId size now fresh) t =
        (.error (.portsExhausted pool.id size), t)) := by
  have nonzero : size ≠ 0 := Nat.one_le_iff_ne_zero.mp positive
  have lease := allocateBlock_eq customerId now fresh known enabled nonzero
  cases found : (t.freeFor pool pool.startPort.toNat pool.endPort.toNat).find? (fits size) with
  | some run =>
      rw [found] at lease
      have takes := takesLowest_leaseRuns customerId now proper nonzero (Nat.le_refl _)
        (Nat.le_refl _) new found
      constructor
      · intro _
        rcases takes with ⟨block, t', leased, takes⟩
        exact ⟨block, t', lease.trans (congrArg Except.ok leased), takes⟩
      · intro full
        rcases takes with ⟨_, _, _, takes⟩
        exact absurd ⟨_, takes.lowest.1⟩ full
  | none =>
      rw [found] at lease
      constructor
      · intro room
        exact absurd room (not_vacant_of_find? proper nonzero found)
      · intro _
        exact ⟨lease, (InPlace.settles_allocateBlock _ _ _ _ _).on_of_error lease⟩

def crowdedPool : Pool :=
  { id := "pool", nodeId := "node", name := "", startPort := 65526, endPort := 65535
    protocols := [.tcp], purpose := "", enabled := true }

def crowded : Tables :=
  let block (id : String) (first last : UInt16) (releasedAt : Option Instant) :=
    (id, { id := id, poolId := "pool", nodeId := "node", customerId := "other"
           instanceId := none, startPort := first, endPort := last, allocatedAt := .epoch
           releasedAt := releasedAt : Block })
  let allocation (id : String) (protocol : Protocol) (port : UInt16) :=
    (id, { id := id, nodeId := "node", protocol := protocol, port := port
           instanceId := "instance", role := "game", allocatedAt := .epoch : Allocation })
  { pools := .ofList [("pool", crowdedPool)]
    ranges := .empty
    blocks := .ofList [block "across" 65529 65530 none, block "again" 65526 65529 none,
      block "gone" 65531 65535 (some .epoch), block "inner" 65527 65528 none,
      block "outer" 65526 65529 none]
    allocations := .ofList [allocation "query" .udp 65535, allocation "rcon" .tcp 65533] }

def tally (n : Nat) : String :=
  String.ofList (List.replicate (n + 1) '|')

theorem tally_injective : Function.Injective tally := by
  intro m n same
  have length := congrArg List.length (String.ofList_inj.mp same)
  simpa using length

theorem proper_crowded : crowded.Proper := by
  have rows : ∀ entry ∈ crowded.blocks.entries, entry.2.startPort ≤ entry.2.endPort := by
    decide +kernel
  exact fun key block found => rows _ (Table.get?_eq_some_iff.mp found)

theorem get?_crowded_tally (n : Nat) : crowded.blocks.get? (tally n) = none := by
  have rows : ∀ entry ∈ crowded.blocks.entries, entry.1.toList.head? ≠ some '|' := by
    decide +kernel
  cases found : crowded.blocks.get? (tally n) with
  | none => rfl
  | some block =>
      have other := rows _ (Table.get?_eq_some_iff.mp found)
      simp [tally, List.replicate_succ] at other

theorem allocateBlock_firstFit_crowded :
    (∃ block t', crowded.allocateBlock "pool" "customer" 2 .epoch tally = .ok ([block], t') ∧
      crowded.TakesLowest crowdedPool "customer" .epoch 65526 65535 2 block t') ∧
    crowded.allocateBlock "pool" "customer" 3 .epoch tally =
      .error (.portsExhausted "pool" 3) := by
  have firstFit (size : Nat) (positive : 1 ≤ size) :=
    allocateBlock_firstFit proper_crowded
      (by decide +kernel : crowded.pools.get? "pool" = some crowdedPool) rfl positive
      (get?_crowded_tally 0) "customer" .epoch
  constructor
  · refine (firstFit 2 (by decide)).1 ⟨65534, by decide, by decide, ?_⟩
    intro port above below
    have either : port = 65534 ∨ port = 65535 := by omega
    rcases either with rfl | rfl <;> decide +kernel
  · refine ((firstFit 3 (by decide)).2 ?_).1
    rintro ⟨first, vacant⟩
    have above : 65526 ≤ first := vacant.above
    have below : first + 3 ≤ 65536 := vacant.below
    have place : first ≤ 65528 ∨ (65529 ≤ first ∧ first ≤ 65530) ∨ 65531 ≤ first := by omega
    rcases place with low | between | high
    · exact vacant.free 65528 (by omega) (by omega) (by decide +kernel)
    · exact vacant.free 65530 (by omega) (by omega) (by decide +kernel)
    · exact vacant.free 65533 (by omega) (by omega) (by decide +kernel)

theorem allocateBlocksInRange_eq (customerId : String) (now : Instant) (fresh : Nat → String)
    {start stop : UInt16} (known : t.pools.get? poolId = some pool) (enabled : pool.enabled = true)
    (ordered : start ≤ stop) (above : pool.startPort ≤ start) (below : stop ≤ pool.endPort)
    (positive : size ≠ 0) :
    t.allocateBlocksInRange poolId customerId start stop size now fresh =
      match (t.freeFor pool start.toNat stop.toNat).find? (fits size) with
      | some run => .ok (t.leaseRuns pool customerId now fresh [leading run size])
      | none =>
          if totalWidth (t.freeFor pool start.toNat stop.toNat) < size then
            .error (.portsExhausted pool.id size)
          else .ok (t.leaseRuns pool customerId now fresh
            (takePorts size (t.freeFor pool start.toNat stop.toNat))) := by
  have within : ¬ (start < pool.startPort ∨ pool.endPort < stop) :=
    not_or.mpr ⟨UInt16.not_lt.mpr above, UInt16.not_lt.mpr below⟩
  unfold allocateBlocksInRange
  rw [if_neg (UInt16.not_lt.mpr ordered), findPool_eq known enabled]
  simp only [bind, Except.bind, pure, Except.pure, if_neg within, if_neg positive]
  rfl

/-- A lease between two ports of a pool is one block if there is room for it, at the lowest
place; else it is the lowest free ports, in blocks that do not touch; and it is refused
without a trace if there are too few. -/
theorem allocateBlocksInRange_firstFit {start stop : UInt16} (proper : t.Proper)
    (known : t.pools.get? poolId = some pool) (enabled : pool.enabled = true)
    (ordered : start ≤ stop) (above : pool.startPort ≤ start) (below : stop ≤ pool.endPort)
    (positive : 1 ≤ size) (new : ∀ i, t.blocks.get? (fresh i) = none)
    (distinct : Function.Injective fresh) (customerId : String) (now : Instant) :
    ((∃ first, t.Vacant pool start.toNat stop.toNat size first) →
      ∃ block t', t.allocateBlocksInRange poolId customerId start stop size now fresh =
          .ok ([block], t') ∧
        t.TakesLowest pool customerId now start.toNat stop.toNat size block t') ∧
    ((¬ ∃ first, t.Vacant pool start.toNat stop.toNat size first) →
      size ≤ (t.freePorts pool start.toNat stop.toNat).length →
      ∃ blocks t', t.allocateBlocksInRange poolId customerId start stop size now fresh =
          .ok (blocks, t') ∧
        t.TakesFirst pool customerId now start.toNat stop.toNat size blocks t') ∧
    ((t.freePorts pool start.toNat stop.toNat).length < size →
      t.allocateBlocksInRange poolId customerId start stop size now fresh =
        .error (.portsExhausted pool.id size) ∧
      InPlace.on (InPlace.allocateBlocksInRange poolId customerId start stop size now fresh) t =
        (.error (.portsExhausted pool.id size), t)) := by
  have nonzero : size ≠ 0 := Nat.one_le_iff_ne_zero.mp positive
  have first := UInt16.le_iff_toNat_le.mp above
  have last := UInt16.le_iff_toNat_le.mp below
  have lease := allocateBlocksInRange_eq customerId now fresh known enabled ordered above below
    nonzero
  rw [totalWidth_freeFor proper] at lease
  cases found : (t.freeFor pool start.toNat stop.toNat).find? (fits size) with
  | some run =>
      rw [found] at lease
      rcases takesLowest_leaseRuns customerId now proper nonzero first last (new 0) found with
        ⟨block, t', leased, takes⟩
      refine ⟨?_, ?_, ?_⟩
      · intro _
        exact ⟨block, t', lease.trans (congrArg Except.ok leased), takes⟩
      · intro full
        exact absurd ⟨_, takes.lowest.1⟩ full
      · intro few
        have enough := takes.lowest.1.size_le_length
        omega
  | none =>
      rw [found] at lease
      refine ⟨?_, ?_, ?_⟩
      · intro room
        exact absurd room (not_vacant_of_find? proper nonzero found)
      · intro _ enough
        rcases takesFirst_leaseRuns customerId now size proper first last new distinct with
          ⟨blocks, t', leased, takes⟩
        rw [if_neg (Nat.not_lt.mpr enough)] at lease
        exact ⟨blocks, t', lease.trans (congrArg Except.ok leased), takes⟩
      · intro few
        rw [if_pos few] at lease
        exact ⟨lease, (InPlace.settles_allocateBlocksInRange _ _ _ _ _ _ _).on_of_error lease⟩

theorem allocateBlocksInRange_firstFit_crowded :
    (∃ block t', crowded.allocateBlocksInRange "pool" "customer" 65532 65535 2 .epoch tally =
        .ok ([block], t') ∧
      crowded.TakesLowest crowdedPool "customer" .epoch 65532 65535 2 block t') ∧
    (∃ blocks t', crowded.allocateBlocksInRange "pool" "customer" 65532 65535 3 .epoch tally =
        .ok (blocks, t') ∧
      crowded.TakesFirst crowdedPool "customer" .epoch 65532 65535 3 blocks t') ∧
    crowded.allocateBlocksInRange "pool" "customer" 65532 65535 4 .epoch tally =
      .error (.portsExhausted "pool" 4) := by
  have firstFit (size : Nat) (positive : 1 ≤ size) :=
    allocateBlocksInRange_firstFit proper_crowded
      (by decide +kernel : crowded.pools.get? "pool" = some crowdedPool) rfl
      (by decide : (65532 : UInt16) ≤ 65535) (by decide) (by decide) positive
      get?_crowded_tally tally_injective "customer" .epoch
  have free : crowded.freePorts crowdedPool 65532 65535 = [65532, 65534, 65535] := by
    decide +kernel
  refine ⟨?_, ?_, ?_⟩
  · refine (firstFit 2 (by decide)).1 ⟨65534, by decide, by decide, ?_⟩
    intro port above below
    have either : port = 65534 ∨ port = 65535 := by omega
    rcases either with rfl | rfl <;> decide +kernel
  · refine (firstFit 3 (by decide)).2.1 ?_ (Nat.le_of_eq (congrArg List.length free).symm)
    rintro ⟨first, vacant⟩
    have above : 65532 ≤ first := vacant.above
    have below : first + 3 ≤ 65536 := vacant.below
    exact vacant.free 65533 (by omega) (by omega) (by decide +kernel)
  · exact ((firstFit 4 (by decide)).2.2 (Nat.lt_of_le_of_lt
      (Nat.le_of_eq (congrArg List.length free)) (by decide))).1

end Tables
end Port
end FleetControl
