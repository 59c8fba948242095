import FleetControl.Proofs.Port.Choice
import FleetControl.Proofs.Port.RuleSet

/-!
# Taking an instance down

When an instance goes, its blocks are released and its allocations are taken out.  The blocks
are found by what they are bound to; the allocations are found by their instance and then taken
out by their own names.  So all goes well if the rows of the instance stand under their own
names, as they do in all tables that are reached by deeds.
-/

namespace FleetControl
namespace Port
namespace Tables

open Time

variable {t t' : Tables} {instanceId nodeId : String} {now : Instant} {rule : Rule}

/-!
# Taking rows out
-/

section TakeAllocations

variable {rows : Table Allocation} {ids : List String} {a : Allocation}

theorem mem_takeAllocations :
    a ∈ (takeAllocations rows ids).1 ↔ ∃ id ∈ ids, rows.get? id = some a := by
  induction ids generalizing rows with
  | nil => simp [takeAllocations]
  | cons id rest ih =>
      unfold takeAllocations
      cases found : rows.get? id with
      | none => simp [ih, found]
      | some row =>
          simp only [List.mem_cons, ih, Table.get?_erase, exists_eq_or_imp, found,
            Option.some.injEq]
          constructor
          · rintro (rfl | ⟨other, mem, found'⟩)
            · exact Or.inl rfl
            · split at found'
              · cases found'
              · exact Or.inr ⟨other, mem, found'⟩
          · rintro (rfl | ⟨other, mem, found'⟩)
            · exact Or.inl rfl
            · -- a row that is named twice is taken the first time
              by_cases here : other = id
              · rw [here, found] at found'
                exact Or.inl (Option.some.inj found').symm
              · exact Or.inr ⟨other, mem, by rw [if_neg here, found']⟩

theorem names_takeAllocations
    (named : ∀ id ∈ ids, ∀ a, rows.get? id = some a → a.id = id) :
    ((takeAllocations rows ids).1.map Allocation.id).Sublist ids := by
  induction ids generalizing rows with
  | nil => exact .slnil
  | cons id rest ih =>
      have later : ∀ id ∈ rest, ∀ a, rows.get? id = some a → a.id = id :=
        fun id mem => named id (List.mem_cons_of_mem _ mem)
      unfold takeAllocations
      cases found : rows.get? id with
      | none => exact (ih later).cons id
      | some row =>
          show List.Sublist (row.id :: _) (id :: rest)
          rw [named id List.mem_cons_self row found]
          refine (ih fun id mem a found' => later id mem a ?_).cons_cons id
          rw [Table.get?_erase] at found'
          split at found'
          · cases found'
          · exact found'

end TakeAllocations

/-!
# Rules and who holds them
-/

/-- A port of the node must be open on account of the instance. -/
inductive Needs (t : Tables) (instanceId nodeId : String) (rule : Rule) : Prop
  | allocation {key : String} {a : Allocation} (found : t.allocations.get? key = some a)
      (own : a.instanceId = instanceId) (node : a.nodeId = nodeId) (same : a.rule = rule)
  | block {key : String} {b : Block} (found : t.blocks.get? key = some b)
      (active : b.isActive = true) (own : b.instanceId = some instanceId)
      (node : b.nodeId = nodeId) (between : b.startPort ≤ rule.port ∧ rule.port ≤ b.endPort)
      (serves : ∀ pool, t.pools.get? b.poolId = some pool → rule.protocol ∈ pool.protocols)

theorem mem_rules_iff {start stop : UInt16} {protocols : List Protocol} :
    rule ∈ (portsBetween start stop).flatMap (fun port =>
        protocols.map (fun p => ({ protocol := p, port := port } : Rule))) ↔
      (start ≤ rule.port ∧ rule.port ≤ stop) ∧ rule.protocol ∈ protocols := by
  simp only [List.mem_flatMap, List.mem_map, mem_portsBetween]
  constructor
  · rintro ⟨port, between, protocol, mem, rfl⟩
    exact ⟨between, mem⟩
  · rintro ⟨between, mem⟩
    exact ⟨rule.port, between, rule.protocol, mem, rfl⟩

theorem mem_blockRules {b : Block} :
    rule ∈ t.blockRules b ↔ (b.startPort ≤ rule.port ∧ rule.port ≤ b.endPort) ∧
      ∀ pool, t.pools.get? b.poolId = some pool → rule.protocol ∈ pool.protocols := by
  unfold blockRules
  rw [mem_rules_iff]
  refine and_congr_right fun _ => ?_
  cases t.pools.get? b.poolId with
  | none =>
      have every : rule.protocol ∈ Protocol.all := by cases rule.protocol <;> decide
      simp [every]
  | some pool => simp

theorem mem_desired_iff :
    rule ∈ t.desired nodeId ↔ ∃ instanceId, t.Needs instanceId nodeId rule := by
  unfold desired
  rw [RuleSet.mem_ofList, List.mem_append, List.mem_map, List.mem_flatMap]
  simp only [List.mem_filter, Table.mem_values_iff, Bool.and_eq_true, decide_eq_true_eq,
    mem_blockRules, Option.isSome_iff_exists]
  constructor
  · rintro (⟨a, ⟨⟨key, found⟩, node⟩, same⟩ |
      ⟨b, ⟨⟨key, found⟩, ⟨active, node⟩, instanceId, own⟩, between, serves⟩)
    · exact ⟨a.instanceId, .allocation found rfl node same⟩
    · exact ⟨instanceId, .block found active own node between serves⟩
  · rintro ⟨instanceId, needs⟩
    cases needs with
    | allocation found own node same => exact Or.inl ⟨_, ⟨⟨_, found⟩, node⟩, same⟩
    | block found active own node between serves =>
        exact Or.inr ⟨_, ⟨⟨_, found⟩, ⟨active, node⟩, _, own⟩, between, serves⟩

/-!
# The teardown
-/

/-- The rows of the instance stand under their own names. -/
structure OwnNamed (t : Tables) (instanceId : String) : Prop where
  blocks : ∀ key b, t.blocks.get? key = some b → b.isHeldBy instanceId = true → b.id = key
  allocations : ∀ key a, t.allocations.get? key = some a → a.instanceId = instanceId → a.id = key

theorem Reached.ownNamed (reached : t.Reached) (instanceId : String) : t.OwnNamed instanceId where
  blocks := by
    have tidy : t.Tidy := reached.of_kept ⟨sound_empty, tidy_empty⟩
      fun _ _ _ _ tidy h => tidy.attempt h
    exact fun key b found _ => (tidy key b found).name
  allocations := fun key a found _ => reached.unique.names key a found

def ownAllocations (t : Tables) (instanceId : String) : List String :=
  (t.allocations.values.filter (fun a => a.instanceId = instanceId)).map Allocation.id

theorem ownAllocations_eq (named : t.OwnNamed instanceId) :
    t.ownAllocations instanceId = t.allocations.keysWhere (fun a => a.instanceId = instanceId) :=
  Table.names_of_filter_values fun key a found own =>
    named.allocations key a found (of_decide_eq_true own)

theorem mem_ownAllocations (named : t.OwnNamed instanceId) {key : String} :
    key ∈ t.ownAllocations instanceId ↔
      ∃ a, t.allocations.get? key = some a ∧ a.instanceId = instanceId := by
  rw [ownAllocations_eq named, Table.mem_keysWhere]
  simp only [decide_eq_true_eq]

/-- What is told of the teardown: just what it has given back, each once, and just the nodes
that this was on. -/
structure TellsAll (t : Tables) (instanceId : String) (told : Release) : Prop where
  blocks : ∀ id, id ∈ told.blocks ↔
    ∃ b, t.blocks.get? id = some b ∧ b.isHeldBy instanceId = true
  blocksOnce : told.blocks.Nodup
  allocations : ∀ a, a ∈ told.allocations ↔
    ∃ key, t.allocations.get? key = some a ∧ a.instanceId = instanceId
  allocationsOnce : told.allocations.Nodup
  nodes : ∀ nodeId, nodeId ∈ told.nodes.names ↔
    (∃ key b, t.blocks.get? key = some b ∧ b.isHeldBy instanceId = true ∧ b.nodeId = nodeId) ∨
      ∃ key a, t.allocations.get? key = some a ∧ a.instanceId = instanceId ∧ a.nodeId = nodeId

/-- Nothing is left of the instance, and all else stays. -/
structure TakesDown (t : Tables) (instanceId : String) (now : Instant) (t' : Tables) :
    Prop where
  pools : t'.pools = t.pools
  ranges : t'.ranges = t.ranges
  released : ∀ key b, t.blocks.get? key = some b → b.isHeldBy instanceId = true →
    t'.blocks.get? key = some (b.release now)
  otherBlocks : ∀ key, (∀ b, t.blocks.get? key = some b → b.isHeldBy instanceId = false) →
    t'.blocks.get? key = t.blocks.get? key
  taken : ∀ key a, t.allocations.get? key = some a → a.instanceId = instanceId →
    t'.allocations.get? key = none
  otherAllocations : ∀ key, (∀ a, t.allocations.get? key = some a → a.instanceId ≠ instanceId) →
    t'.allocations.get? key = t.allocations.get? key
  noBlock : ∀ key b, t'.blocks.get? key = some b → b.isHeldBy instanceId = false
  noAllocation : ∀ key a, t'.allocations.get? key = some a → a.instanceId ≠ instanceId
  desired : ∀ nodeId rule, rule ∈ t'.desired nodeId ↔
    ∃ other, other ≠ instanceId ∧ t.Needs other nodeId rule

theorem mem_nodes_releaseInstance :
    nodeId ∈ (t.releaseInstance instanceId now).1.nodes.names ↔
      (∃ key b, t.blocks.get? key = some b ∧ b.isHeldBy instanceId = true ∧ b.nodeId = nodeId) ∨
        ∃ a ∈ (t.releaseInstance instanceId now).1.allocations, a.nodeId = nodeId := by
  refine NameSet.mem_names_ofList.trans ?_
  rw [List.mem_append, List.mem_map, List.mem_map]
  refine or_congr_left ?_
  simp only [List.mem_filter, Table.mem_values_iff]
  constructor
  · rintro ⟨b, ⟨⟨key, found⟩, held⟩, node⟩
    exact ⟨key, b, found, held, node⟩
  · rintro ⟨key, b, found, held, node⟩
    exact ⟨b, ⟨⟨key, found⟩, held⟩, node⟩

theorem mem_allocations_releaseInstance {a : Allocation} :
    a ∈ (t.releaseInstance instanceId now).1.allocations ↔
      ∃ key ∈ t.ownAllocations instanceId, t.allocations.get? key = some a :=
  mem_takeAllocations

theorem allocations_releaseInstance {key : String} :
    (t.releaseInstance instanceId now).2.allocations.get? key =
      if key ∈ t.ownAllocations instanceId then none else t.allocations.get? key :=
  get?_takeAllocations

theorem blocks_after_releaseInstance {key : String} :
    (t.releaseInstance instanceId now).2.blocks.get? key =
      (t.blocks.get? key).map
        (fun b => if b.isHeldBy instanceId then b.release now else b) :=
  Table.get?_map ..

theorem told_allocations_iff (named : t.OwnNamed instanceId) {a : Allocation} :
    a ∈ (t.releaseInstance instanceId now).1.allocations ↔
      ∃ key, t.allocations.get? key = some a ∧ a.instanceId = instanceId := by
  rw [mem_allocations_releaseInstance]
  constructor
  · rintro ⟨key, own, found⟩
    rcases (mem_ownAllocations named).mp own with ⟨other, found', own⟩
    cases found.symm.trans found'
    exact ⟨key, found, own⟩
  · rintro ⟨key, found, own⟩
    exact ⟨key, (mem_ownAllocations named).mpr ⟨a, found, own⟩, found⟩

theorem nodup_told_allocations (named : t.OwnNamed instanceId) :
    (t.releaseInstance instanceId now).1.allocations.Nodup := by
  have nodup : (t.ownAllocations instanceId).Nodup := by
    rw [ownAllocations_eq named]
    exact t.allocations.nodup_keysWhere _
  have names : ∀ id ∈ t.ownAllocations instanceId, ∀ a, t.allocations.get? id = some a →
      a.id = id := by
    intro id mem a found
    rcases (mem_ownAllocations named).mp mem with ⟨other, found', own⟩
    cases found.symm.trans found'
    exact named.allocations id a found own
  exact (nodup.sublist (names_takeAllocations names)).of_map

theorem tellsAll_releaseInstance (named : t.OwnNamed instanceId) (now : Instant) :
    t.TellsAll instanceId (t.releaseInstance instanceId now).1 where
  blocks := by
    intro id
    rw [blocks_releaseInstance named.blocks, Table.mem_keysWhere]
  blocksOnce := by
    rw [blocks_releaseInstance named.blocks]
    exact t.blocks.nodup_keysWhere _
  allocations := fun _ => told_allocations_iff named
  allocationsOnce := nodup_told_allocations named
  nodes := by
    intro nodeId
    rw [mem_nodes_releaseInstance]
    refine or_congr_right ⟨?_, ?_⟩
    · rintro ⟨a, mem, node⟩
      rcases (told_allocations_iff named).mp mem with ⟨key, found, own⟩
      exact ⟨key, a, found, own, node⟩
    · rintro ⟨key, a, found, own, node⟩
      exact ⟨a, (told_allocations_iff named).mpr ⟨key, found, own⟩, node⟩

theorem isHeldBy_iff {b : Block} :
    b.isHeldBy instanceId = true ↔ b.isActive = true ∧ b.instanceId = some instanceId := by
  simp [Block.isHeldBy]

theorem active_after_releaseInstance {key : String} {b : Block} (active : b.isActive = true) :
    (t.releaseInstance instanceId now).2.blocks.get? key = some b ↔
      t.blocks.get? key = some b ∧ b.isHeldBy instanceId = false := by
  rw [blocks_after_releaseInstance, Option.map_eq_some_iff]
  constructor
  · rintro ⟨before, found, after⟩
    split at after
    · rw [← after] at active
      cases active
    · rename_i other
      rw [← after]
      exact ⟨found, Bool.eq_false_iff.mpr other⟩
  · rintro ⟨found, other⟩
    exact ⟨b, found, if_neg (Bool.eq_false_iff.mp other)⟩

theorem allocation_after_releaseInstance (named : t.OwnNamed instanceId) {key : String}
    {a : Allocation} :
    (t.releaseInstance instanceId now).2.allocations.get? key = some a ↔
      t.allocations.get? key = some a ∧ a.instanceId ≠ instanceId := by
  rw [allocations_releaseInstance]
  split
  · rename_i own
    rcases (mem_ownAllocations named).mp own with ⟨other, found, own⟩
    constructor
    · intro missing
      cases missing
    · rintro ⟨found', foreign⟩
      cases found.symm.trans found'
      exact absurd own foreign
  · rename_i foreign
    refine ⟨fun found => ⟨found, fun own => ?_⟩, And.left⟩
    exact foreign ((mem_ownAllocations named).mpr ⟨a, found, own⟩)

theorem needs_after_releaseInstance (named : t.OwnNamed instanceId) {other : String} :
    (t.releaseInstance instanceId now).2.Needs other nodeId rule ↔
      other ≠ instanceId ∧ t.Needs other nodeId rule := by
  constructor
  · intro needs
    cases needs with
    | allocation found own node same =>
        rcases (allocation_after_releaseInstance named).mp found with ⟨found, foreign⟩
        exact ⟨own ▸ foreign, .allocation found own node same⟩
    | block found active own node between serves =>
        rcases (active_after_releaseInstance active).mp found with ⟨found, foreign⟩
        refine ⟨?_, .block found active own node between serves⟩
        rintro rfl
        rw [isHeldBy_iff.mpr ⟨active, own⟩] at foreign
        cases foreign
  · rintro ⟨foreign, needs⟩
    cases needs with
    | allocation found own node same =>
        exact .allocation ((allocation_after_releaseInstance named).mpr ⟨found, own ▸ foreign⟩)
          own node same
    | block found active own node between serves =>
        refine .block ((active_after_releaseInstance active).mpr ⟨found, ?_⟩) active own node
          between serves
        refine Bool.eq_false_iff.mpr fun held => foreign ?_
        exact Option.some.inj (own.symm.trans (isHeldBy_iff.mp held).2)

theorem takesDown_releaseInstance (named : t.OwnNamed instanceId) (now : Instant) :
    t.TakesDown instanceId now (t.releaseInstance instanceId now).2 where
  pools := rfl
  ranges := rfl
  released := by
    intro key b found held
    rw [blocks_after_releaseInstance, found, Option.map_some, if_pos held]
  otherBlocks := by
    intro key others
    rw [blocks_after_releaseInstance]
    cases found : t.blocks.get? key with
    | none => rfl
    | some b => rw [Option.map_some, others b found, if_neg Bool.false_ne_true]
  taken := by
    intro key a found own
    rw [allocations_releaseInstance, if_pos ((mem_ownAllocations named).mpr ⟨a, found, own⟩)]
  otherAllocations := by
    intro key others
    rw [allocations_releaseInstance, if_neg]
    intro own
    rcases (mem_ownAllocations named).mp own with ⟨a, found, own⟩
    exact others a found own
  noBlock := by
    intro key b found
    refine Bool.eq_false_iff.mpr fun held => ?_
    rcases (active_after_releaseInstance (isHeldBy_iff.mp held).1).mp found with ⟨-, other⟩
    exact Bool.eq_false_iff.mp other held
  noAllocation := fun _ _ found => ((allocation_after_releaseInstance named).mp found).2
  desired := by
    intro nodeId rule
    rw [mem_desired_iff]
    exact exists_congr fun other => needs_after_releaseInstance named

/-!
# Nodes that are not concerned
-/

/-- On a node that is not told of, the same ports must be open as before.  This needs no names:
whatever is taken out is told with its node. -/
theorem desired_releaseInstance_of_not_mem
    (other : nodeId ∉ (t.releaseInstance instanceId now).1.nodes.names) :
    (t.releaseInstance instanceId now).2.desired nodeId = t.desired nodeId := by
  rcases not_or.mp (mt mem_nodes_releaseInstance.mpr other) with ⟨noBlock, noAllocation⟩
  refine RuleSet.eq_of_mem_iff fun rule => ?_
  rw [mem_desired_iff, mem_desired_iff]
  refine exists_congr fun holder => ⟨fun needs => ?_, fun needs => ?_⟩
  · cases needs with
    | allocation found own node same =>
        rw [allocations_releaseInstance] at found
        split at found
        · cases found
        · exact .allocation found own node same
    | block found active own node between serves =>
        exact .block ((active_after_releaseInstance active).mp found).1 active own node between
          serves
  · cases needs with
    | @allocation key a found own node same =>
        have kept : key ∉ t.ownAllocations instanceId := fun mem =>
          noAllocation ⟨a, mem_allocations_releaseInstance.mpr ⟨key, mem, found⟩, node⟩
        have found' : (t.releaseInstance instanceId now).2.allocations.get? key = some a := by
          rw [allocations_releaseInstance, if_neg kept, found]
        exact .allocation found' own node same
    | @block key b found active own node between serves =>
        refine .block ((active_after_releaseInstance active).mpr ⟨found, ?_⟩) active own node
          between serves
        exact Bool.eq_false_iff.mpr fun held => noBlock ⟨key, b, found, held, node⟩

end Tables
end Port
end FleetControl
