import FleetControl.Proofs.Json.Record
import FleetControl.Proofs.Time.Stamp

/-!
# Scalars and collections read back

Numbers of every width, instants, words, names and rules are read back as they were,
whatever room there is for what is nested.
-/

namespace FleetControl

/-!
# Sets
-/

theorem NameSet.ofList_names (s : NameSet) : NameSet.ofList s.names = s := by
  have rows : s.names.map (fun name => (name, ())) = s.entries := by
    unfold NameSet.names Table.keys
    rw [List.map_map]
    exact List.map_id' s.entries
  rw [NameSet.ofList, rows, Table.ofList_entries]

namespace Port
namespace RuleSet

theorem foldl_climb_of_ascending {rules kept : List Rule}
    (ascending : rules.Pairwise (fun r s => r.rank < s.rank))
    (above : ∀ top ∈ kept.head?, ∀ r ∈ rules, top.rank < r.rank) :
    rules.foldl climb kept = rules.reverse ++ kept := by
  induction rules generalizing kept with
  | nil =>
      rfl
  | cons r rest ih =>
      rcases List.pairwise_cons.mp ascending with ⟨least, others⟩
      have step : climb kept r = r :: kept := by
        cases kept with
        | nil => rfl
        | cons top below =>
            have higher : top.rank < r.rank := above top rfl r List.mem_cons_self
            simp [climb, higher]
      rw [List.foldl_cons, step, ih others]
      · simp
      · intro top htop s hs
        cases htop
        exact least s hs

theorem ofList_rules (s : RuleSet) : RuleSet.ofList s.rules = s := by
  have sorted : s.rules.Pairwise (fun r s => decide (r.rank ≤ s.rank)) :=
    s.ascending.imp (fun h => decide_eq_true (Nat.le_of_lt h))
  have rules : (RuleSet.ofList s.rules).rules = s.rules := by
    simp only [ofList]
    rw [List.mergeSort_of_pairwise sorted, foldl_climb_of_ascending s.ascending (by simp)]
    simp
  cases hlist : RuleSet.ofList s.rules with
  | mk rules' ascending' =>
      rw [hlist] at rules
      cases rules
      rfl

end RuleSet
end Port

namespace Wire

open Json
open Json.Decoder
open Json.Draft

/-!
# Numbers
-/

theorem reread_natural {n : Nat} (fits : n < 0x10000000000000000) :
    ∃ h, reread (natural n) = .number (some (.whole n h)) := by
  have range : -0x8000000000000000 ≤ (n : Int) ∧ (n : Int) < 0x10000000000000000 := by omega
  refine ⟨range, ?_⟩
  rw [natural, integer, dif_pos range, reread, rereadNumber_whole]

theorem natural_reread {bound n : Nat} (fits : n < bound) (width : bound ≤ 0x10000000000000000)
    (room : Nat) : Decoder.natural bound room (reread (natural n)) = .ok n := by
  rcases reread_natural (n := n) (by omega) with ⟨_, read⟩
  have range : 0 ≤ (n : Int) ∧ (n : Int) < bound := by omega
  rw [read, Decoder.natural, if_pos range, Int.toNat_natCast]

theorem readsBack_uint8 (room : Nat) (n : UInt8) : ReadsBack uint8 ofUInt8 room n := by
  unfold ReadsBack uint8 ofUInt8
  rw [natural_reread n.toNat_lt (by decide)]
  exact congrArg Except.ok UInt8.ofNat_toNat

theorem readsBack_uint16 (room : Nat) (n : UInt16) : ReadsBack uint16 ofUInt16 room n := by
  unfold ReadsBack uint16 ofUInt16
  rw [natural_reread n.toNat_lt (by decide)]
  exact congrArg Except.ok UInt16.ofNat_toNat

theorem readsBack_uint32 (room : Nat) (n : UInt32) : ReadsBack uint32 ofUInt32 room n := by
  unfold ReadsBack uint32 ofUInt32
  rw [natural_reread n.toNat_lt (by decide)]
  exact congrArg Except.ok UInt32.ofNat_toNat

theorem readsBack_uint64 (room : Nat) (n : UInt64) : ReadsBack uint64 ofUInt64 room n := by
  unfold ReadsBack uint64 ofUInt64
  rw [natural_reread n.toNat_lt (by decide)]
  exact congrArg Except.ok UInt64.ofNat_toNat

/-!
# Instants and words
-/

theorem readsBack_instant (room : Nat) (t : Time.Instant) :
    ReadsBack instant ofInstant room t := by
  unfold ReadsBack instant ofInstant
  rw [reread, parsed, Time.Stamp.read?_write]

theorem readsBack_word {α : Type} {all : List α} {word : α → String}
    (found : ∀ a, (all.map (fun a => (word a, a))).lookup (word a) = some a) (room : Nat)
    (a : α) : ReadsBack (wordIn all word) (fun a => .text (word a)) room a := by
  unfold ReadsBack wordIn
  rw [reread, choice, wordOf, found]

/-!
# Options

A decoder that refuses `null` reads what stands in its place.
-/

theorem readsBack_option {α : Type} {decode : Decoder α} {write : α → Json} {room : Nat}
    (refuses : ∃ flaw, decode room .null = .error flaw) (h : ∀ a, ReadsBack decode write room a)
    (o : Option α) : ReadsBack (optional decode) (ofOption write) room o := by
  cases o with
  | none => exact readsBack_none decode write room
  | some a =>
      apply readsBack_some
      · intro null
        rcases refuses with ⟨flaw, refused⟩
        have read := h a
        rw [ReadsBack, null, refused] at read
        cases read
      · exact h a

theorem readsBack_text? (room : Nat) (o : Option String) :
    ReadsBack (optional text) ofText? room o :=
  readsBack_option ⟨_, rfl⟩ (readsBack_text room) o

theorem readsBack_instant? (room : Nat) (o : Option Time.Instant) :
    ReadsBack (optional instant) ofInstant? room o :=
  readsBack_option ⟨_, rfl⟩ (readsBack_instant room) o

theorem readsBack_uint8? (room : Nat) (o : Option UInt8) :
    ReadsBack (optional uint8) (ofOption ofUInt8) room o :=
  readsBack_option ⟨_, rfl⟩ (readsBack_uint8 room) o

theorem readsBack_uint32? (room : Nat) (o : Option UInt32) :
    ReadsBack (optional uint32) (ofOption ofUInt32) room o :=
  readsBack_option ⟨_, rfl⟩ (readsBack_uint32 room) o

theorem readsBack_uint64? (room : Nat) (o : Option UInt64) :
    ReadsBack (optional uint64) (ofOption ofUInt64) room o :=
  readsBack_option ⟨_, rfl⟩ (readsBack_uint64 room) o

/-!
# Collections
-/

theorem readsBack_texts (room : Nat) (s : List String) : ReadsBack texts ofTexts (room + 1) s :=
  readsBack_list (fun item _ => readsBack_text room item)

theorem readsBack_names (room : Nat) (s : NameSet) : ReadsBack names ofNames (room + 1) s := by
  have read := readsBack_texts room s.names
  unfold ReadsBack at read ⊢
  rw [names, ofNames, read]
  exact congrArg Except.ok (NameSet.ofList_names s)

theorem readsBack_payload (room : Nat) (t : Table String) :
    ReadsBack payload ofPayload (room + 1) t :=
  readsBack_table (readsBack_text room) t

theorem readsBack_ports (room : Nat) (ports : List UInt16) :
    ReadsBack (listOf uint16) (ofList ofUInt16) (room + 1) ports :=
  readsBack_list (fun port _ => readsBack_uint16 room port)

theorem readsBack_protocol (room : Nat) (p : Port.Protocol) :
    ReadsBack protocol ofProtocol room p :=
  readsBack_word (by intro p; cases p <;> rfl) room p

theorem readsBack_rule (room : Nat) (r : Port.Rule) : ReadsBack rule ofRule (room + 1) r :=
  Record.readsBack_of_yields rfl
    (Record.Yields.start Port.Rule.mk room
      |>.known (readsBack_protocol _ r.protocol)
      |>.known (readsBack_uint16 _ r.port)) (by decide) (by simp)

theorem readsBack_ruleSet (room : Nat) (s : Port.RuleSet) :
    ReadsBack ruleSet ofRuleSet (room + 2) s := by
  have read : ReadsBack (listOf rule) (ofList ofRule) (room + 2) s.rules :=
    readsBack_list (fun r _ => readsBack_rule room r)
  unfold ReadsBack at read ⊢
  rw [ruleSet, ofRuleSet, read]
  exact congrArg Except.ok (Port.RuleSet.ofList_rules s)

end Wire
end FleetControl
