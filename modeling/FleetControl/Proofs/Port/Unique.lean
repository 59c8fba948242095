import FleetControl.Proofs.InPlace.Ports
import FleetControl.Proofs.Port.Deeds

/-!
# Allocations told apart

The allocations are kept under names that are given to them, and yet two other things tell
them apart: the port on its node and protocol, and the role for which the instance has it.
Either is held against every new allocation before it is put on record, and a row is never
written over.
-/

namespace FleetControl

/-!
# Tables told apart
-/

namespace Table

variable {α β : Type}

def DistinctBy (feature : α → β) (t : Table α) : Prop :=
  ∀ key key' a b, t.get? key = some a → t.get? key' = some b → feature a = feature b →
    key = key'

variable {feature : α → β} {t t' : Table α}

theorem DistinctBy.mono (distinct : t.DistinctBy feature)
    (fewer : ∀ key a, t'.get? key = some a → t.get? key = some a) : t'.DistinctBy feature := by
  intro key key' a b ha hb same
  exact distinct key key' a b (fewer key a ha) (fewer key' b hb) same

theorem DistinctBy.insert (distinct : t.DistinctBy feature) {key : String} {row : α}
    (own : ∀ key' a, t.get? key' = some a → feature a ≠ feature row) :
    (t.insert key row).DistinctBy feature := by
  intro key' key'' a b ha hb same
  rw [get?_insert] at ha hb
  split at ha <;> split at hb
  · rename_i first second
    rw [first, second]
  · cases ha
    exact absurd same.symm (own key'' b hb)
  · cases hb
    exact absurd same (own key' a ha)
  · exact distinct key' key'' a b ha hb same

end Table

namespace Port

open Refusal
open Time

def Allocation.socket (a : Allocation) : String × Protocol × UInt16 :=
  (a.nodeId, a.protocol, a.port)

def Allocation.purpose (a : Allocation) : String × String × Protocol :=
  (a.instanceId, a.role, a.protocol)

namespace Tables

structure Unique (t : Tables) : Prop where
  names : ∀ key a, t.allocations.get? key = some a → a.id = key
  ports : ∀ key a, t.allocations.get? key = some a → 1 ≤ a.port.toNat ∧ a.port.toNat ≤ 65535
  sockets : t.allocations.DistinctBy Allocation.socket
  purposes : t.allocations.DistinctBy Allocation.purpose

theorem unique_empty : empty.Unique := by
  constructor <;> intro _ _ <;> intros <;> contradiction

/-!
# Requests that collide
-/

/-- An allocation is there for what the request is for. -/
def SharesPurpose (t : Tables) (req : Request) : Prop :=
  ∃ key a, t.allocations.get? key = some a ∧
    a.purpose = (req.instanceId, req.role, req.protocol)

/-- The port that the request comes to is allocated. -/
def SharesSocket (t : Tables) (req : Request) : Prop :=
  ∃ port, t.choosePort req = .ok port ∧
    ∃ key a, t.allocations.get? key = some a ∧ a.socket = (req.nodeId, req.protocol, port)

variable {t t' : Tables} {req : Request} {now : Instant} {fresh : String} {a : Allocation}

theorem roleTaken_iff : t.roleTaken req = true ↔ t.SharesPurpose req := by
  simp only [roleTaken, List.any_eq_true, Table.mem_values_iff, SharesPurpose,
    Allocation.purpose, Bool.and_eq_true, decide_eq_true_eq, Prod.mk.injEq]
  constructor
  · rintro ⟨a, ⟨key, found⟩, ⟨instanceId, role⟩, protocol⟩
    exact ⟨key, a, found, instanceId, role, protocol⟩
  · rintro ⟨key, a, found, instanceId, role, protocol⟩
    exact ⟨a, ⟨key, found⟩, ⟨instanceId, role⟩, protocol⟩

theorem portTaken_iff {nodeId : String} {protocol : Protocol} {port : UInt16} :
    t.portTaken nodeId protocol port = true ↔
      ∃ key a, t.allocations.get? key = some a ∧ a.socket = (nodeId, protocol, port) := by
  simp only [portTaken, List.any_eq_true, Table.mem_values_iff, Allocation.socket,
    Bool.and_eq_true, decide_eq_true_eq, Prod.mk.injEq]
  constructor
  · rintro ⟨a, ⟨key, found⟩, ⟨node, protocol⟩, port⟩
    exact ⟨key, a, found, node, protocol, port⟩
  · rintro ⟨key, a, found, node, protocol, port⟩
    exact ⟨a, ⟨key, found⟩, ⟨node, protocol⟩, port⟩

theorem allocatePort_of_sharesPurpose (now : Instant) (fresh : String)
    (shares : t.SharesPurpose req) : t.allocatePort req now fresh =
      .error (.roleTaken req.instanceId req.protocol req.role) := by
  rw [allocatePort, if_pos (roleTaken_iff.mpr shares)]

theorem allocatePort_of_sharesSocket (now : Instant) (fresh : String)
    (new : ¬ t.SharesPurpose req) (shares : t.SharesSocket req) :
    ∃ port, t.allocatePort req now fresh =
      .error (.portTaken req.nodeId req.protocol port) := by
  rcases shares with ⟨port, chosen, there⟩
  refine ⟨port, ?_⟩
  rw [allocatePort, if_neg (fun taken => new (roleTaken_iff.mp taken)), chosen]
  show t.insertAllocation _ = _
  rw [insertAllocation, if_pos (portTaken_iff.mpr there)]

/-- What a request that is granted comes to: the new row stands beside those that were
there. -/
structure Grants (t : Tables) (req : Request) (now : Instant) (fresh : String) (a : Allocation)
    (t' : Tables) : Prop where
  purpose : ¬ t.SharesPurpose req
  socket : ¬ t.SharesSocket req
  chosen : t.choosePort req = .ok a.port
  row : a = { id := fresh, nodeId := req.nodeId, protocol := req.protocol, port := a.port
              instanceId := req.instanceId, role := req.role, allocatedAt := now }
  after : t' = { t with allocations := t.allocations.insert fresh a }

theorem grants_of_allocatePort (h : t.allocatePort req now fresh = .ok (a, t')) :
    t.Grants req now fresh a t' := by
  have purpose : ¬ t.SharesPurpose req := by
    intro shares
    rw [allocatePort_of_sharesPurpose now fresh shares] at h
    cases h
  have socket : ¬ t.SharesSocket req := by
    intro shares
    rcases allocatePort_of_sharesSocket now fresh purpose shares with ⟨port, refused⟩
    rw [refused] at h
    cases h
  unfold allocatePort at h
  split at h
  · cases h
  · rcases bind_eq_ok.mp h with ⟨port, chosen, h⟩
    unfold insertAllocation at h
    split at h
    · cases h
    · cases h
      exact ⟨purpose, socket, chosen, rfl, rfl⟩

/-!
# What each deed does to unique allocations
-/

theorem Unique.allocatePort (unique : t.Unique) (grants : t.Grants req now fresh a t') :
    t'.Unique := by
  have id : a.id = fresh := congrArg Allocation.id grants.row
  have purpose : a.purpose = (req.instanceId, req.role, req.protocol) :=
    congrArg Allocation.purpose grants.row
  have socket : a.socket = (req.nodeId, req.protocol, a.port) :=
    congrArg Allocation.socket grants.row
  rw [grants.after]
  constructor
  · intro key row found
    rw [Table.get?_insert] at found
    split at found
    · rename_i here
      cases found
      rw [id, here]
    · exact unique.names key row found
  · intro key row found
    rw [Table.get?_insert] at found
    split at found
    · cases found
      have positive : a.port.toNat ≠ 0 :=
        fun zero => choosePort_ne_zero grants.chosen (UInt16.toNat_inj.mp zero)
      have small := a.port.toNat_lt
      omega
    · exact unique.ports key row found
  · refine unique.sockets.insert fun key row found same => ?_
    exact grants.socket ⟨a.port, grants.chosen, key, row, found, same.trans socket⟩
  · refine unique.purposes.insert fun key row found same => ?_
    exact grants.purpose ⟨key, row, found, same.trans purpose⟩

theorem Unique.fewer (unique : t.Unique)
    (fewer : ∀ key a, t'.allocations.get? key = some a → t.allocations.get? key = some a) :
    t'.Unique where
  names := fun key a found => unique.names key a (fewer key a found)
  ports := fun key a found => unique.ports key a (fewer key a found)
  sockets := unique.sockets.mono fewer
  purposes := unique.purposes.mono fewer

theorem Unique.kept (unique : t.Unique) (same : t'.allocations = t.allocations) : t'.Unique :=
  unique.fewer fun key a found => by rw [← same, found]

theorem unique_attempt (t : Tables) (deed : Deed) (t' : Tables) (sound : t.Sound)
    (unique : t.Unique) (h : t.attempt deed = .ok t') : t'.Unique := by
  cases does_of_attempt sound h with
  | addPool added =>
      rcases addPool_eq_ok added with ⟨_, _, _, rfl⟩
      exact unique.kept rfl
  | addRange ranges => exact unique.kept rfl
  | allocateBlock known lease => exact unique.kept lease.allocations
  | allocateBlocksInRange known lease => exact unique.kept lease.allocations
  | bindBlock known active free => exact unique.kept rfl
  | releaseBlock release => exact unique.fewer release.allocations
  | releaseInstance release => exact unique.fewer release.allocations
  | allocatePort chosen node protocol instanceId =>
      rcases map_eq_ok.mp h with ⟨⟨row, after⟩, allocated, same⟩
      rw [← same]
      exact unique.allocatePort (grants_of_allocatePort allocated)

/-- After any deeds no two allocations share a port of a node and protocol, none share an
instance, role and protocol, all ports are proper, and every row stands under its own name.
A request that would collide with a row is refused as a conflict, also in place, and the
tables stay as they are; one that is granted writes over no other row. -/
theorem allocations_unique :
    (∀ deeds, empty.Throughout Unique deeds) ∧
      ∀ t req now fresh,
        (t.SharesPurpose req → ∃ e, t.allocatePort req now fresh = .error e ∧
          e.kind = .conflict) ∧
        (¬ t.SharesPurpose req → t.SharesSocket req →
          ∃ e, t.allocatePort req now fresh = .error e ∧ e.kind = .portConflict) ∧
        (∀ e, t.allocatePort req now fresh = .error e →
          t.next (.allocatePort req now fresh) = t ∧
            InPlace.on (InPlace.allocatePort req now fresh) t = (.error e, t)) ∧
        ∀ a t', t.allocatePort req now fresh = .ok (a, t') →
          ¬ t.SharesPurpose req ∧ ¬ t.SharesSocket req ∧
            t'.allocations.get? fresh = some a ∧
            ∀ key, key ≠ fresh → t'.allocations.get? key = t.allocations.get? key := by
  constructor
  · intro deeds
    exact throughout_of_kept (R := fun _ _ => True) sound_attempt
      (fun t deed t' sound unique _ h => unique_attempt t deed t' sound unique h)
      sound_empty unique_empty (eachDeed_of_forall (fun _ _ => trivial) empty deeds)
  · intro t req now fresh
    refine ⟨?_, ?_, ?_, ?_⟩
    · intro shares
      exact ⟨_, allocatePort_of_sharesPurpose now fresh shares, rfl⟩
    · intro new shares
      rcases allocatePort_of_sharesSocket now fresh new shares with ⟨port, refused⟩
      exact ⟨_, refused, rfl⟩
    · intro e refused
      refine ⟨?_, (InPlace.settles_allocatePort req now fresh).on_of_error refused⟩
      rw [next, attempt, refused]
      rfl
    · intro a t' granted
      have grants := grants_of_allocatePort granted
      refine ⟨grants.purpose, grants.socket, ?_, ?_⟩
      · rw [grants.after, Table.get?_insert, if_pos rfl]
      · intro key other
        rw [grants.after, Table.get?_insert, if_neg other]

def wanting (instanceId : String) : Request :=
  { nodeId := "node", protocol := .tcp, instanceId := instanceId, role := "game"
    strategy := .explicit 5001 }

def served : Tables :=
  empty.next (.allocatePort (wanting "first") .epoch "port")

theorem allocations_unique_served :
    served.Unique ∧
      served.SharesPurpose (wanting "first") ∧
      (∃ e, served.allocatePort (wanting "first") .epoch "other" = .error e ∧
        e.kind = .conflict) ∧
      ¬ served.SharesPurpose (wanting "second") ∧
      served.SharesSocket (wanting "second") ∧
      ∃ e, served.allocatePort (wanting "second") .epoch "other" = .error e ∧
        e.kind = .portConflict ∧
        served.next (.allocatePort (wanting "second") .epoch "other") = served := by
  rcases allocations_unique with ⟨throughout, collide⟩
  have unique : served.Unique :=
    (throughout [.allocatePort (wanting "first") .epoch "port"]).2
  have again : served.SharesPurpose (wanting "first") :=
    roleTaken_iff.mp (by decide +kernel)
  have new : ¬ served.SharesPurpose (wanting "second") :=
    fun shares => absurd (roleTaken_iff.mpr shares) (by decide +kernel)
  have there : served.SharesSocket (wanting "second") :=
    ⟨5001, rfl, portTaken_iff.mp (by decide +kernel)⟩
  rcases collide served (wanting "second") .epoch "other" with ⟨-, conflict, unchanged, -⟩
  rcases conflict new there with ⟨e, refused, kind⟩
  exact ⟨unique, again, (collide served (wanting "first") .epoch "other").1 again, new, there,
    e, refused, kind, (unchanged e refused).1⟩

end Tables
end Port
end FleetControl
