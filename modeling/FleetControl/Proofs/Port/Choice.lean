import FleetControl.Proofs.Port.Blocks
import FleetControl.Proofs.Port.Unique
import Mathlib.Order.Bounds.Defs

/-!
# The port that is chosen

A request says how its port is chosen: it names the port, it has it derived from the port
of another role, or it asks for the lowest free port of a range.  What the request comes to
can be told from the tables alone, without the order in which the rows are gone through, and
so without their names, which are random.  For this the tables have to be reached by deeds:
then no two allocations are for the same purpose, and no range begins at port zero.
-/

namespace FleetControl
namespace Port

open Refusal
open Time

def Request.row (req : Request) (port : UInt16) (now : Instant) (fresh : String) : Allocation :=
  { id := fresh, nodeId := req.nodeId, protocol := req.protocol, port := port
    instanceId := req.instanceId, role := req.role, allocatedAt := now }

namespace Tables

variable {t t' : Tables} {req : Request} {now : Instant} {fresh : String} {port : UInt16}

/-!
# Tables that are reached
-/

def Reached (t : Tables) : Prop :=
  ∃ deeds : List Deed, deeds.foldl next empty = t

def Ranged (t : Tables) : Prop :=
  ∀ key range, t.ranges.get? key = some range → range.startPort ≠ 0

theorem addRange_start_ne_zero {range row : Range} {fresh : String}
    (h : t.addRange range fresh = .ok (row, t')) : row.startPort ≠ 0 := by
  unfold addRange at h
  rcases bind_eq_ok.mp h with ⟨_, bounds, h⟩
  cases pure_eq_ok.mp h
  exact (checkBounds_eq_ok bounds).1

theorem ranges_attempt {deed : Deed} (h : t.attempt deed = .ok t') :
    t'.ranges = t.ranges ∨
      ∃ row : Range, row.startPort ≠ 0 ∧ t'.ranges = t.ranges.insert row.id row := by
  cases deed with
  | addPool pool fresh =>
      rcases map_eq_ok.mp h with ⟨⟨row, after⟩, added, rfl⟩
      rw [(addPool_eq_ok added).2.2.2]
      exact Or.inl rfl
  | addRange range fresh =>
      rcases map_eq_ok.mp h with ⟨⟨row, after⟩, added, rfl⟩
      refine Or.inr ⟨row, addRange_start_ne_zero added, ?_⟩
      rw [addRange_eq_ok added]
  | allocateBlock poolId customerId size now fresh =>
      rcases map_eq_ok.mp h with ⟨⟨blocks, after⟩, leased, rfl⟩
      rcases leases_of_allocateBlock leased with ⟨pool, runs, lease⟩
      cases lease
      exact Or.inl rfl
  | allocateBlocksInRange poolId customerId start stop size now fresh =>
      rcases map_eq_ok.mp h with ⟨⟨blocks, after⟩, leased, rfl⟩
      rcases leases_of_allocateBlocksInRange leased with ⟨pool, runs, lease⟩
      cases lease
      exact Or.inl rfl
  | bindBlock blockId instanceId =>
      rcases map_eq_ok.mp h with ⟨⟨bound, after⟩, hbind, rfl⟩
      rcases bindBlock_eq_ok hbind with ⟨block, known, active, free, rfl, rfl⟩
      exact Or.inl rfl
  | releaseBlock blockId now =>
      rcases map_eq_ok.mp h with ⟨⟨block, after⟩, released, rfl⟩
      rcases releaseBlock_eq_ok released with ⟨before, known, hblock, rfl⟩
      exact Or.inl rfl
  | releaseInstance instanceId now =>
      cases h
      exact Or.inl rfl
  | allocatePort req now fresh =>
      rcases map_eq_ok.mp h with ⟨⟨a, after⟩, allocated, rfl⟩
      rw [(allocatePort_eq_ok allocated).2.2.2.2]
      exact Or.inl rfl

theorem Ranged.attempt {deed : Deed} (ranged : t.Ranged) (h : t.attempt deed = .ok t') :
    t'.Ranged := by
  intro key range found
  rcases ranges_attempt h with same | ⟨row, positive, added⟩
  · exact ranged key range (same ▸ found)
  · rw [added, Table.get?_insert] at found
    split at found
    · cases found
      exact positive
    · exact ranged key range found

/-- What every deed keeps holds of the tables that are reached. -/
theorem Reached.of_kept {P : Tables → Prop} (reached : t.Reached) (first : empty.Sound ∧ P empty)
    (keep : ∀ t deed t', t.Sound → P t → t.attempt deed = .ok t' → P t') : P t := by
  rcases reached with ⟨deeds, rfl⟩
  exact (throughout_of_kept (R := fun _ _ => True) sound_attempt
    (fun t deed t' sound kept _ h => keep t deed t' sound kept h)
    first.1 first.2 (eachDeed_of_forall (fun _ _ => trivial) empty deeds)).last

theorem Reached.unique (reached : t.Reached) : t.Unique :=
  reached.of_kept ⟨sound_empty, unique_empty⟩ unique_attempt

theorem Reached.ranged (reached : t.Reached) : t.Ranged := by
  refine reached.of_kept ⟨sound_empty, ?_⟩ fun _ _ _ _ ranged h => ranged.attempt h
  intro _ _ found
  cases found

/-!
# Ports that cannot be had
-/

def Allocated (t : Tables) (nodeId : String) (protocol : Protocol) (port : UInt16) : Prop :=
  ∃ key a, t.allocations.get? key = some a ∧ a.socket = (nodeId, protocol, port)

/-- An active block of the node has the port among its own and reserves it for the
protocol. -/
def Reserved (t : Tables) (nodeId : String) (protocol : Protocol) (port : UInt16) : Prop :=
  ∃ key b, t.blocks.get? key = some b ∧ b.nodeId = nodeId ∧ b.isActive = true ∧
    (b.startPort ≤ port ∧ port ≤ b.endPort) ∧
    ∀ pool, t.pools.get? b.poolId = some pool → protocol ∈ pool.protocols

theorem blockReserves_iff_forall {block : Block} {protocol : Protocol} :
    t.blockReserves block protocol = true ↔ block.isActive = true ∧
      ∀ pool, t.pools.get? block.poolId = some pool → protocol ∈ pool.protocols := by
  unfold blockReserves
  cases t.pools.get? block.poolId <;> simp

theorem portInActiveBlock_iff {nodeId : String} {protocol : Protocol} :
    t.portInActiveBlock nodeId protocol port = true ↔ t.Reserved nodeId protocol port := by
  simp only [portInActiveBlock, List.any_eq_true, Table.mem_values_iff, Bool.and_eq_true,
    decide_eq_true_eq, Block.covers, blockReserves_iff_forall, Reserved]
  constructor
  · rintro ⟨b, ⟨key, found⟩, ⟨node, within⟩, active, serves⟩
    exact ⟨key, b, found, node, active, within, serves⟩
  · rintro ⟨key, b, found, node, active, within, serves⟩
    exact ⟨b, ⟨key, found⟩, ⟨node, within⟩, active, serves⟩

theorem isFree_iff {nodeId : String} {protocol : Protocol} :
    t.isFree nodeId protocol port = true ↔
      ¬ t.Allocated nodeId protocol port ∧ ¬ t.Reserved nodeId protocol port := by
  unfold isFree
  rw [Bool.and_eq_true, Bool.not_eq_true', Bool.not_eq_true', ← Bool.not_eq_true,
    ← Bool.not_eq_true, portTaken_iff, portInActiveBlock_iff]
  rfl

/-!
# The lowest free port
-/

theorem ascending_portsBetween (start stop : UInt16) :
    (portsBetween start stop).Pairwise (· < ·) := by
  refine List.pairwise_map.mpr (.imp_of_mem (fun {m n} hm hn less => ?_) List.pairwise_lt_range')
  have room := stop.toNat_lt
  rw [List.mem_range'_1] at hm hn
  have first : m < UInt16.size := by unfold UInt16.size; omega
  have second : n < UInt16.size := by unfold UInt16.size; omega
  rw [UInt16.lt_iff_toNat_lt, UInt16.toNat_ofNat_of_lt' first, UInt16.toNat_ofNat_of_lt' second]
  exact less

theorem isLeast_of_find?_ascending {ports : List UInt16} {p : UInt16 → Bool}
    (ascending : ports.Pairwise (· < ·)) (found : ports.find? p = some port) :
    IsLeast {x | x ∈ ports ∧ p x = true} port := by
  rcases List.find?_eq_some_iff_append.mp found with ⟨good, before, behind, rfl, bad⟩
  refine ⟨⟨List.mem_append_right _ List.mem_cons_self, good⟩, ?_⟩
  rintro x ⟨mem, good'⟩
  rcases List.mem_append.mp mem with early | late
  · exact absurd good' (by simpa using bad x early)
  · rcases List.mem_cons.mp late with rfl | later
    · exact UInt16.le_refl x
    · have tail := (List.pairwise_append.mp ascending).2.1
      exact UInt16.le_of_lt ((List.pairwise_cons.mp tail).1 x later)

/-- The ports of a range that the request can be granted. -/
def vacancies (t : Tables) (req : Request) (range : Range) : Set UInt16 :=
  {port | (range.startPort ≤ port ∧ port ≤ range.endPort) ∧
    ¬ t.Allocated req.nodeId req.protocol port ∧ ¬ t.Reserved req.nodeId req.protocol port}

structure Serves (t : Tables) (req : Request) (rangeId : String) (range : Range) : Prop where
  known : t.ranges.get? rangeId = some range
  node : range.nodeId = req.nodeId
  protocol : range.protocol = req.protocol
  enabled : range.enabled = true

variable {rangeId : String} {range : Range}

theorem vacancies_eq :
    t.vacancies req range = {x | x ∈ portsBetween range.startPort range.endPort ∧
      t.isFree req.nodeId req.protocol x = true} := by
  refine Set.ext fun x => ?_
  show _ ∧ _ ↔ _ ∧ _
  rw [mem_portsBetween, isFree_iff]

theorem choosePort_of_vacant (ranged : t.Ranged) (serves : t.Serves req rangeId range)
    (strategy : req.strategy = .firstFree rangeId) {vacancy : UInt16}
    (vacant : vacancy ∈ t.vacancies req range) :
    ∃ port, t.choosePort req = .ok port ∧ IsLeast (t.vacancies req range) port := by
  rw [vacancies_eq] at vacant ⊢
  cases found : (portsBetween range.startPort range.endPort).find?
      (t.isFree req.nodeId req.protocol) with
  | none => exact absurd vacant.2 (by simpa using List.find?_eq_none.mp found vacancy vacant.1)
  | some port =>
      have least := isLeast_of_find?_ascending (ascending_portsBetween _ _) found
      have positive : port ≠ 0 := by
        rintro rfl
        have start := (mem_portsBetween.mp least.1.1).1
        exact ranged rangeId range serves.known (UInt16.le_zero_iff.mp start)
      refine ⟨port, ?_, least⟩
      simp only [choosePort, strategy, firstFreePort, serves.known, serves.node, serves.protocol,
        serves.enabled, found, ne_eq, not_true_eq_false, or_self, if_false, Bool.not_true,
        Bool.false_eq_true, bind, Except.bind, positive]
      rfl

theorem choosePort_of_no_vacancy (serves : t.Serves req rangeId range)
    (strategy : req.strategy = .firstFree rangeId)
    (none_ : ¬ ∃ vacancy, vacancy ∈ t.vacancies req range) :
    t.choosePort req = .error (.portsExhausted rangeId 1) := by
  have missed : (portsBetween range.startPort range.endPort).find?
      (t.isFree req.nodeId req.protocol) = none := by
    rw [List.find?_eq_none]
    intro x mem free
    refine none_ ⟨x, ?_⟩
    rw [vacancies_eq]
    exact ⟨mem, free⟩
  simp only [choosePort, strategy, firstFreePort, serves.known, serves.node, serves.protocol,
    serves.enabled, missed, ne_eq, not_true_eq_false, or_self, if_false, Bool.not_true,
    Bool.false_eq_true, bind, Except.bind]

/-!
# Derived ports
-/

/-- The allocation from which a port is derived: on the protocol of the request if the
instance has the role there, and else on the other. -/
structure IsBase (t : Tables) (req : Request) (baseRole : String) (base : Allocation) :
    Prop where
  recorded : ∃ key, t.allocations.get? key = some base
  instanceId : base.instanceId = req.instanceId
  role : base.role = baseRole
  protocol : base.protocol = req.protocol ∨ ∀ key a, t.allocations.get? key = some a →
    a.instanceId = req.instanceId → a.role = baseRole → a.protocol ≠ req.protocol

variable {baseRole : String} {base other : Allocation} {offset : Int}

theorem Protocol.eq_of_ne_of_ne {p q r : Protocol} (hp : p ≠ r) (hq : q ≠ r) : p = q := by
  cases p <;> cases q <;> cases r <;> first | rfl | contradiction

theorem IsBase.eq (unique : t.Unique) (isBase : t.IsBase req baseRole base)
    (isBase' : t.IsBase req baseRole other) : base = other := by
  rcases isBase.recorded with ⟨key, found⟩
  rcases isBase'.recorded with ⟨key', found'⟩
  have protocol : base.protocol = other.protocol := by
    rcases isBase.protocol with same | none_ <;> rcases isBase'.protocol with same' | none'
    · exact same.trans same'.symm
    · exact absurd same (none' key base found isBase.instanceId isBase.role)
    · exact absurd same' (none_ key' other found' isBase'.instanceId isBase'.role)
    · exact Protocol.eq_of_ne_of_ne (none_ key base found isBase.instanceId isBase.role)
        (none_ key' other found' isBase'.instanceId isBase'.role)
  have purpose : base.purpose = other.purpose := by
    simp only [Allocation.purpose, isBase.instanceId, isBase'.instanceId, isBase.role,
      isBase'.role, protocol]
  have keys := unique.purposes key key' base other found found' purpose
  exact Option.some.inj (found.symm.trans (keys ▸ found'))

theorem isBase_of_baseFor (chosen : t.baseFor req baseRole = some base) :
    t.IsBase req baseRole base := by
  have candidate : ∀ a, a ∈ t.allocations.values.filter (fun a =>
      a.instanceId = req.instanceId && a.role = baseRole) ↔
      (∃ key, t.allocations.get? key = some a) ∧ a.instanceId = req.instanceId ∧
        a.role = baseRole := by
    intro a
    simp only [List.mem_filter, Table.mem_values_iff, Bool.and_eq_true, decide_eq_true_eq]
  unfold baseFor at chosen
  rcases Option.or_eq_some_iff.mp chosen with same | ⟨none_, first⟩
  · rcases (candidate base).mp (List.mem_of_find?_eq_some same) with
      ⟨recorded, instanceId, role⟩
    exact ⟨recorded, instanceId, role, Or.inl (by simpa using List.find?_some same)⟩
  · rcases (candidate base).mp (List.mem_of_head? first) with ⟨recorded, instanceId, role⟩
    refine ⟨recorded, instanceId, role, Or.inr fun key a found own same => ?_⟩
    have mem := (candidate a).mpr ⟨⟨key, found⟩, own, same⟩
    simpa using List.find?_eq_none.mp none_ a mem

theorem baseFor_eq_none_iff :
    t.baseFor req baseRole = none ↔ ∀ base, ¬ t.IsBase req baseRole base := by
  constructor
  · intro none_ base isBase
    rcases isBase.recorded with ⟨key, found⟩
    have mem : base ∈ t.allocations.values.filter (fun a =>
        a.instanceId = req.instanceId && a.role = baseRole) := by
      simp only [List.mem_filter, Table.mem_values_iff, Bool.and_eq_true, decide_eq_true_eq]
      exact ⟨⟨key, found⟩, isBase.instanceId, isBase.role⟩
    have empty := List.head?_eq_none_iff.mp (Option.or_eq_none_iff.mp none_).2
    rw [empty] at mem
    cases mem
  · intro none_
    cases chosen : t.baseFor req baseRole with
    | none => rfl
    | some base => exact absurd (isBase_of_baseFor chosen) (none_ base)

theorem baseFor_eq_some_iff (unique : t.Unique) :
    t.baseFor req baseRole = some base ↔ t.IsBase req baseRole base := by
  refine ⟨isBase_of_baseFor, fun isBase => ?_⟩
  cases chosen : t.baseFor req baseRole with
  | none => exact absurd isBase (baseFor_eq_none_iff.mp chosen base)
  | some other => rw [(isBase_of_baseFor chosen).eq unique isBase]

theorem choosePort_derived (strategy : req.strategy = .derived baseRole offset)
    (chosen : t.baseFor req baseRole = some base) (positive : port ≠ 0)
    (sum : (port.toNat : Int) = base.port.toNat + offset) :
    t.choosePort req = .ok port := by
  have bound := port.toNat_lt
  have nonzero : port.toNat ≠ 0 := fun zero => positive (UInt16.toNat_inj.mp zero)
  simp only [choosePort, strategy, derivedPort, chosen]
  rw [← sum, if_pos (by omega), Int.toNat_natCast, UInt16.ofNat_toNat]

theorem choosePort_outOfRange (strategy : req.strategy = .derived baseRole offset)
    (chosen : t.baseFor req baseRole = some base)
    (outside : ¬ (1 ≤ base.port.toNat + offset ∧ base.port.toNat + offset ≤ 65535)) :
    t.choosePort req = .error (.derivedOutOfRange (base.port.toNat + offset)) := by
  simp only [choosePort, strategy, derivedPort, chosen]
  rw [if_neg (by omega)]

theorem choosePort_of_no_base (strategy : req.strategy = .derived baseRole offset)
    (none_ : t.baseFor req baseRole = none) :
    t.choosePort req = .error (.noBasePort req.instanceId baseRole) := by
  simp only [choosePort, strategy, derivedPort, none_]

theorem exists_port_of_sum {sum : Int} (above : 1 ≤ sum) (below : sum ≤ 65535) :
    ∃ port : UInt16, port ≠ 0 ∧ (port.toNat : Int) = sum := by
  have small : sum.toNat < UInt16.size := by unfold UInt16.size; omega
  have same : (UInt16.ofNat sum.toNat).toNat = sum.toNat := UInt16.toNat_ofNat_of_lt' small
  refine ⟨UInt16.ofNat sum.toNat, ?_, by omega⟩
  intro zero
  rw [zero] at same
  have none_ : (0 : UInt16).toNat = 0 := rfl
  omega

/-!
# What a request comes to
-/

def Gets (t : Tables) (req : Request) (now : Instant) (fresh : String) (port : UInt16) : Prop :=
  ∃ t', t.allocatePort req now fresh = .ok (req.row port now fresh, t')

def Refused (t : Tables) (req : Request) (now : Instant) (fresh : String)
    (kind : Error.Kind) : Prop :=
  ∃ e, t.allocatePort req now fresh = .error e ∧ e.kind = kind

theorem allocatePort_of_chosen (new : ¬ t.SharesPurpose req) (chosen : t.choosePort req = .ok port)
    (free : ¬ t.Allocated req.nodeId req.protocol port) :
    t.allocatePort req now fresh = .ok (req.row port now fresh,
      { t with allocations := t.allocations.insert fresh (req.row port now fresh) }) := by
  rw [allocatePort, if_neg (fun taken => new (roleTaken_iff.mp taken)), chosen]
  show t.insertAllocation _ = _
  rw [insertAllocation, if_neg (fun taken => free (portTaken_iff.mp taken))]
  rfl

theorem allocatePort_of_allocated (new : ¬ t.SharesPurpose req)
    (chosen : t.choosePort req = .ok port) (taken : t.Allocated req.nodeId req.protocol port) :
    t.allocatePort req now fresh = .error (.portTaken req.nodeId req.protocol port) := by
  rw [allocatePort, if_neg (fun taken => new (roleTaken_iff.mp taken)), chosen]
  show t.insertAllocation _ = _
  rw [insertAllocation, if_pos (portTaken_iff.mpr taken)]

theorem allocatePort_of_refused {e : Error} (new : ¬ t.SharesPurpose req)
    (refused : t.choosePort req = .error e) : t.allocatePort req now fresh = .error e := by
  rw [allocatePort, if_neg (fun taken => new (roleTaken_iff.mp taken)), refused]
  rfl

/-- The port is settled, and the request gets it unless it is allocated already. -/
structure GoesFor (t : Tables) (req : Request) (now : Instant) (fresh : String)
    (port : UInt16) : Prop where
  free : ¬ t.Allocated req.nodeId req.protocol port → t.Gets req now fresh port
  taken : t.Allocated req.nodeId req.protocol port →
    t.allocatePort req now fresh = .error (.portTaken req.nodeId req.protocol port)

theorem goesFor_of_chosen (new : ¬ t.SharesPurpose req) (chosen : t.choosePort req = .ok port) :
    t.GoesFor req now fresh port where
  free := fun free => ⟨_, allocatePort_of_chosen new chosen free⟩
  taken := fun taken => allocatePort_of_allocated new chosen taken

theorem Gets.eq {other : UInt16} (gets : t.Gets req now fresh port)
    (gets' : t.Gets req now fresh other) : port = other := by
  rcases gets with ⟨t', granted⟩
  rcases gets' with ⟨t'', granted'⟩
  have rows := congrArg Prod.fst (Except.ok.inj (granted.symm.trans granted'))
  exact congrArg Allocation.port rows

theorem Refused.not_gets {kind : Error.Kind} (refused : t.Refused req now fresh kind) :
    ¬ t.Gets req now fresh port := by
  rintro ⟨t', granted⟩
  rcases refused with ⟨e, refused, -⟩
  cases granted.symm.trans refused

theorem Refused.kind_eq {kind kind' : Error.Kind} (refused : t.Refused req now fresh kind)
    (refused' : t.Refused req now fresh kind') : kind = kind' := by
  rcases refused with ⟨e, refused, rfl⟩
  rcases refused' with ⟨e', refused', rfl⟩
  rw [Except.error.inj (refused.symm.trans refused')]

theorem GoesFor.not_refused {kind : Error.Kind} (goesFor : t.GoesFor req now fresh port)
    (other : kind ≠ .portConflict) : ¬ t.Refused req now fresh kind := by
  intro refused
  by_cases taken : t.Allocated req.nodeId req.protocol port
  · exact other (refused.kind_eq ⟨_, goesFor.taken taken, rfl⟩)
  · exact refused.not_gets (goesFor.free taken)

/-- The lowest vacancy of the range is granted, and the range is exhausted when there is
none. -/
structure FirstFree (t : Tables) (req : Request) (now : Instant) (fresh : String)
    (range : Range) : Prop where
  granted : (∃ vacancy, vacancy ∈ t.vacancies req range) → ∃ port, t.Gets req now fresh port
  lowest : ∀ port, t.Gets req now fresh port ↔ IsLeast (t.vacancies req range) port
  exhausted : t.Refused req now fresh .portsExhausted ↔
    ¬ ∃ vacancy, vacancy ∈ t.vacancies req range

/-- The port is the sum of the base and the offset, if the base is there and the sum is a
port. -/
structure Derived (t : Tables) (req : Request) (now : Instant) (fresh : String)
    (baseRole : String) (offset : Int) : Prop where
  single : ∀ base other, t.IsBase req baseRole base → t.IsBase req baseRole other → base = other
  sum : ∀ base port, t.IsBase req baseRole base → port ≠ 0 →
    (port.toNat : Int) = base.port.toNat + offset → t.GoesFor req now fresh port
  outside : t.Refused req now fresh .invalidRange ↔ ∃ base, t.IsBase req baseRole base ∧
    ¬ (1 ≤ base.port.toNat + offset ∧ base.port.toNat + offset ≤ 65535)
  missing : t.Refused req now fresh .notFound ↔ ¬ ∃ base, t.IsBase req baseRole base

theorem firstFree_of_serves (ranged : t.Ranged) (new : ¬ t.SharesPurpose req)
    (serves : t.Serves req rangeId range) (strategy : req.strategy = .firstFree rangeId) :
    t.FirstFree req now fresh range := by
  by_cases some_ : ∃ vacancy, vacancy ∈ t.vacancies req range
  · rcases some_ with ⟨vacancy, vacant⟩
    rcases choosePort_of_vacant ranged serves strategy vacant with ⟨least, chosen, isLeast⟩
    have goesFor : t.GoesFor req now fresh least := goesFor_of_chosen new chosen
    have gets : t.Gets req now fresh least := goesFor.free isLeast.1.2.1
    constructor
    · exact fun _ => ⟨least, gets⟩
    · intro port
      constructor
      · intro gets'
        exact gets'.eq gets ▸ isLeast
      · intro isLeast'
        have same : least = port :=
          UInt16.le_antisymm (isLeast.2 isLeast'.1) (isLeast'.2 isLeast.1)
        exact same ▸ gets
    · exact iff_of_false (goesFor.not_refused (by decide)) (not_not.mpr ⟨vacancy, vacant⟩)
  · have refused : t.Refused req now fresh .portsExhausted :=
      ⟨_, allocatePort_of_refused new (choosePort_of_no_vacancy serves strategy some_), rfl⟩
    constructor
    · exact fun vacant => absurd vacant some_
    · intro port
      exact iff_of_false refused.not_gets (fun isLeast => some_ ⟨port, isLeast.1⟩)
    · exact iff_of_true refused some_

theorem derived_of_unique (unique : t.Unique) (new : ¬ t.SharesPurpose req)
    (strategy : req.strategy = .derived baseRole offset) :
    t.Derived req now fresh baseRole offset := by
  have single : ∀ base other, t.IsBase req baseRole base → t.IsBase req baseRole other →
      base = other := fun _ _ isBase isBase' => isBase.eq unique isBase'
  have sum : ∀ base port, t.IsBase req baseRole base → port ≠ 0 →
      (port.toNat : Int) = base.port.toNat + offset → t.GoesFor req now fresh port := by
    intro base port isBase positive same
    exact goesFor_of_chosen new
      (choosePort_derived strategy ((baseFor_eq_some_iff unique).mpr isBase) positive same)
  cases chosen : t.baseFor req baseRole with
  | none =>
      have missing : t.Refused req now fresh .notFound :=
        ⟨_, allocatePort_of_refused new (choosePort_of_no_base strategy chosen), rfl⟩
      have none_ := baseFor_eq_none_iff.mp chosen
      refine ⟨single, sum, ?_, ?_⟩
      · refine iff_of_false (fun refused => ?_) (fun ⟨base, isBase, _⟩ => none_ base isBase)
        cases refused.kind_eq missing
      · exact iff_of_true missing (not_exists.mpr none_)
  | some base =>
      have isBase := isBase_of_baseFor chosen
      by_cases inside : 1 ≤ base.port.toNat + offset ∧ base.port.toNat + offset ≤ 65535
      · rcases exists_port_of_sum inside.1 inside.2 with ⟨port, positive, same⟩
        have goesFor := sum base port isBase positive same
        refine ⟨single, sum, ?_, ?_⟩
        · refine iff_of_false (goesFor.not_refused (by decide)) ?_
          rintro ⟨other, isBase', outside⟩
          exact outside (single base other isBase isBase' ▸ inside)
        · exact iff_of_false (goesFor.not_refused (by decide)) (not_not.mpr ⟨base, isBase⟩)
      · have refused : t.Refused req now fresh .invalidRange :=
          ⟨_, allocatePort_of_refused new (choosePort_outOfRange strategy chosen inside), rfl⟩
        refine ⟨single, sum, ?_, ?_⟩
        · exact iff_of_true refused ⟨base, isBase, inside⟩
        · refine iff_of_false (fun missing => ?_) (not_not.mpr ⟨base, isBase⟩)
          cases refused.kind_eq missing

/-!
# Names do not matter
-/

def Twinned (t t' : Tables) : Prop :=
  ∀ key a, t.allocations.get? key = some a → ∃ key' a', t'.allocations.get? key' = some a' ∧
    a'.socket = a.socket ∧ a'.purpose = a.purpose

/-- The tables are the same, but for the names under which the allocations stand. -/
structure SameButNames (t t' : Tables) : Prop where
  pools : t'.pools = t.pools
  ranges : t'.ranges = t.ranges
  blocks : t'.blocks = t.blocks
  forth : t.Twinned t'
  back : t'.Twinned t

theorem SameButNames.symm (same : t.SameButNames t') : t'.SameButNames t where
  pools := same.pools.symm
  ranges := same.ranges.symm
  blocks := same.blocks.symm
  forth := same.back
  back := same.forth

theorem Twinned.allocated {nodeId : String} {protocol : Protocol} (twinned : t.Twinned t')
    (there : t.Allocated nodeId protocol port) : t'.Allocated nodeId protocol port := by
  rcases there with ⟨key, a, found, socket⟩
  rcases twinned key a found with ⟨key', a', found', sameSocket, -⟩
  exact ⟨key', a', found', sameSocket.trans socket⟩

theorem Twinned.sharesPurpose (twinned : t.Twinned t') (there : t.SharesPurpose req) :
    t'.SharesPurpose req := by
  rcases there with ⟨key, a, found, purpose⟩
  rcases twinned key a found with ⟨key', a', found', -, samePurpose⟩
  exact ⟨key', a', found', samePurpose.trans purpose⟩

theorem SameButNames.allocated_iff {nodeId : String} {protocol : Protocol}
    (same : t.SameButNames t') :
    t'.Allocated nodeId protocol port ↔ t.Allocated nodeId protocol port :=
  ⟨same.back.allocated, same.forth.allocated⟩

theorem SameButNames.isBase (same : t.SameButNames t') (isBase : t.IsBase req baseRole base) :
    ∃ twin, t'.IsBase req baseRole twin ∧ twin.port = base.port := by
  rcases isBase.recorded with ⟨key, found⟩
  rcases same.forth key base found with ⟨key', twin, found', socket, purpose⟩
  simp only [Allocation.socket, Allocation.purpose, Prod.mk.injEq] at socket purpose
  refine ⟨twin, ⟨⟨key', found'⟩, purpose.1.trans isBase.instanceId,
    purpose.2.1.trans isBase.role, ?_⟩, socket.2.2⟩
  refine isBase.protocol.imp socket.2.1.trans fun none_ key a found own role => ?_
  rcases same.back key a found with ⟨key', a', found', socket', purpose'⟩
  simp only [Allocation.socket, Allocation.purpose, Prod.mk.injEq] at socket' purpose'
  rw [← socket'.2.1]
  exact none_ key' a' found' (purpose'.1.trans own) (purpose'.2.1.trans role)

theorem SameButNames.isFree_eq (same : t.SameButNames t') (nodeId : String)
    (protocol : Protocol) : t'.isFree nodeId protocol = t.isFree nodeId protocol := by
  funext port
  rw [Bool.eq_iff_iff, isFree_iff, isFree_iff, same.allocated_iff]
  unfold Reserved
  rw [same.blocks, same.pools]

theorem SameButNames.derivedPort_eq (same : t.SameButNames t') (unique : t'.Unique)
    (baseRole : String) (offset : Int) :
    t'.derivedPort req baseRole offset = t.derivedPort req baseRole offset := by
  unfold derivedPort
  cases chosen : t.baseFor req baseRole with
  | none =>
      have none_ : t'.baseFor req baseRole = none := by
        refine baseFor_eq_none_iff.mpr fun base isBase => ?_
        rcases same.symm.isBase isBase with ⟨twin, isBase', -⟩
        exact baseFor_eq_none_iff.mp chosen twin isBase'
      rw [none_]
  | some base =>
      rcases same.isBase (isBase_of_baseFor chosen) with ⟨twin, isBase, port⟩
      rw [(baseFor_eq_some_iff unique).mpr isBase]
      simp only [port]

theorem SameButNames.choosePort_eq (same : t.SameButNames t') (unique : t'.Unique) :
    t'.choosePort req = t.choosePort req := by
  unfold choosePort firstFreePort
  simp only [same.derivedPort_eq unique, same.ranges, same.isFree_eq]

theorem SameButNames.allocatePort_eq (same : t.SameButNames t') (unique : t'.Unique)
    (now : Instant) (fresh : String) :
    (t'.allocatePort req now fresh).map Prod.fst = (t.allocatePort req now fresh).map Prod.fst := by
  have role : t'.roleTaken req = t.roleTaken req := by
    rw [Bool.eq_iff_iff, roleTaken_iff, roleTaken_iff]
    exact ⟨same.back.sharesPurpose, same.forth.sharesPurpose⟩
  have taken : ∀ port, t'.portTaken req.nodeId req.protocol port =
      t.portTaken req.nodeId req.protocol port := by
    intro port
    rw [Bool.eq_iff_iff, portTaken_iff, portTaken_iff]
    exact same.allocated_iff
  unfold allocatePort
  rw [role, same.choosePort_eq unique]
  split
  · rfl
  · cases t.choosePort req with
    | error e => rfl
    | ok port =>
        show (t'.insertAllocation _).map Prod.fst = (t.insertAllocation _).map Prod.fst
        unfold insertAllocation
        rw [taken]
        split <;> rfl

/-!
# The choice as a whole
-/

structure Adds (t : Tables) (req : Request) (now : Instant) (fresh : String) (a : Allocation)
    (t' : Tables) : Prop where
  row : a = req.row a.port now fresh
  here : t'.allocations.get? fresh = some a
  others : ∀ key, key ≠ fresh → t'.allocations.get? key = t.allocations.get? key
  one : t.allocations.get? fresh = none → t'.allocations.size = t.allocations.size + 1
  rest : t' = { t with allocations := t'.allocations }

theorem adds_of_allocatePort {a : Allocation} (h : t.allocatePort req now fresh = .ok (a, t')) :
    t.Adds req now fresh a t' := by
  have grants := grants_of_allocatePort h
  rw [grants.after]
  constructor
  · exact grants.row
  · rw [Table.get?_insert, if_pos rfl]
  · intro key other
    rw [Table.get?_insert, if_neg other]
  · exact Table.size_insert_of_get?_eq_none
  · rfl

/-- What a request comes to whose purpose is free. -/
structure Chooses (t : Tables) (req : Request) (now : Instant) (fresh : String) : Prop where
  firstFree : ∀ rangeId range, req.strategy = .firstFree rangeId →
    t.Serves req rangeId range → t.FirstFree req now fresh range
  derived : ∀ baseRole offset, req.strategy = .derived baseRole offset →
    t.Derived req now fresh baseRole offset
  named : ∀ port, req.strategy = .explicit port → port ≠ 0 → t.GoesFor req now fresh port
  names : ∀ t', t'.Reached → t.SameButNames t' →
    (t'.allocatePort req now fresh).map Prod.fst = (t.allocatePort req now fresh).map Prod.fst
  adds : ∀ a t', t.allocatePort req now fresh = .ok (a, t') → t.Adds req now fresh a t'

theorem allocatePort_chooses (reached : t.Reached) (new : ¬ t.SharesPurpose req) (now : Instant)
    (fresh : String) : t.Chooses req now fresh where
  firstFree := fun _ _ strategy serves =>
    firstFree_of_serves reached.ranged new serves strategy
  derived := fun _ _ strategy => derived_of_unique reached.unique new strategy
  named := by
    intro port strategy positive
    refine goesFor_of_chosen new ?_
    simp only [choosePort, strategy, positive, if_false]
  names := fun _ reached' same => same.allocatePort_eq reached'.unique now fresh
  adds := fun _ _ granted => adds_of_allocatePort granted

def cramming : List Deed :=
  [.addPool
      { id := "pool", nodeId := "node", name := "", startPort := 65533, endPort := 65533
        protocols := [.tcp], purpose := "", enabled := true } "",
    .addRange
      { id := "range", nodeId := "node", name := "", startPort := 65533, endPort := 65535
        protocol := .tcp, purpose := "", enabled := true } "",
    .allocateBlock "pool" "customer" 1 .epoch (fun _ => "block"),
    .allocatePort
      { nodeId := "node", protocol := .tcp, instanceId := "instance", role := "game"
        strategy := .explicit 65534 } .epoch "game"]

def crammed : Tables :=
  cramming.foldl next empty

def asking (role : String) (strategy : Strategy) : Request :=
  { nodeId := "node", protocol := .tcp, instanceId := "instance", role := role
    strategy := strategy }

theorem allocatePort_chooses_crammed :
    crammed.Reached ∧ ¬ crammed.SharesPurpose (asking "query" (.firstFree "range")) ∧
      crammed.Chooses (asking "query" (.firstFree "range")) .epoch "query" ∧
      crammed.Gets (asking "query" (.firstFree "range")) .epoch "query" 65535 ∧
      crammed.Refused (asking "query" (.derived "game" 2)) .epoch "query" .invalidRange := by
  have reached : crammed.Reached := ⟨cramming, rfl⟩
  have new : ∀ a ∈ crammed.allocations.values, a.role = "game" := by decide +kernel
  have free (strategy : Strategy) : ¬ crammed.SharesPurpose (asking "query" strategy) := by
    rintro ⟨key, a, found, purpose⟩
    have role := new a (Table.mem_values_iff.mpr ⟨key, found⟩)
    simp [Allocation.purpose, asking, role] at purpose
  have lowest := allocatePort_chooses reached (free (.firstFree "range")) .epoch "query"
  have beyond := allocatePort_chooses reached (free (.derived "game" 2)) .epoch "query"
  refine ⟨reached, free _, lowest, ?_, ?_⟩
  · have found : (crammed.allocatePort (asking "query" (.firstFree "range")) .epoch "query").map
        Prod.fst = .ok ((asking "query" (.firstFree "range")).row 65535 .epoch "query") := by
      decide +kernel
    rcases map_eq_ok.mp found with ⟨⟨a, t'⟩, granted, rfl⟩
    exact ⟨t', granted⟩
  · have game : (crammed.baseFor (asking "query" (.derived "game" 2)) "game").map
        Allocation.port = some 65534 := by
      decide +kernel
    rcases Option.map_eq_some_iff.mp game with ⟨base, chosen, port⟩
    refine (beyond.derived "game" 2 rfl).outside.mpr ⟨base, isBase_of_baseFor chosen, ?_⟩
    rw [port]
    decide

end Tables
end Port
end FleetControl
