import FleetControl.Proofs.Json.Value
import FleetControl.Wire.Scalar

/-!
# Lists, tables and records read back

What is written part by part is read back when its parts are.  A record that is written
with all its fields in their order is read back field by field.
-/

namespace FleetControl
namespace Json

open Draft

namespace Draft

theorem rereadItems_eq_map (items : List Json) : rereadItems items = items.map reread := by
  induction items with
  | nil =>
      rfl
  | cons item rest ih =>
      rw [rereadItems, ih]
      rfl

theorem rereadFields_eq_map (fields : List (String × Json)) :
    rereadFields fields = fields.map (fun field => (field.1, reread field.2)) := by
  induction fields with
  | nil =>
      rfl
  | cons field rest ih =>
      rw [rereadFields, ih]
      rfl

end Draft

def MembersRestore (room : Nat) (m : Members) : Prop :=
  ∀ entry ∈ m.entries, entry.2.document.Restores room

namespace Decoder

variable {α : Type}

def ReadsBack (decode : Decoder α) (write : α → Json) (room : Nat) (a : α) : Prop :=
  decode room (reread (write a)) = .ok a

theorem readsBack_text (room : Nat) (s : String) : ReadsBack text .text room s :=
  rfl

theorem readsBack_bool (room : Nat) (b : Bool) : ReadsBack bool .bool room b :=
  rfl

theorem readsBack_none (decode : Decoder α) (write : α → Json) (room : Nat) :
    ReadsBack (optional decode) (Wire.ofOption write) room none :=
  rfl

/-- An option is written as its content, and `null` is no content. -/
theorem readsBack_some {decode : Decoder α} {write : α → Json} {room : Nat} {a : α}
    (some? : reread (write a) ≠ .null) (h : ReadsBack decode write room a) :
    ReadsBack (optional decode) (Wire.ofOption write) room (some a) := by
  unfold ReadsBack at h ⊢
  have same : optional decode room (reread (write a)) =
      (decode room (reread (write a))).map some := by
    unfold optional
    split
    · rename_i heq
      exact absurd heq some?
    · rfl
  rw [Wire.ofOption, same, h]
  rfl

/-!
# Lists
-/

theorem mapM_eq_ok_of_forall {decode : Draft → Except Flaw α} {write : α → Json}
    {items : List α} (h : ∀ item ∈ items, decode (reread (write item)) = .ok item) :
    ((items.map write).map reread).mapM decode = .ok items := by
  induction items with
  | nil =>
      rfl
  | cons item rest ih =>
      have first := h item List.mem_cons_self
      have others := ih (fun x hx => h x (List.mem_cons_of_mem _ hx))
      simp only [List.map_cons, List.mapM_cons, first, others]
      rfl

theorem readsBack_list {decode : Decoder α} {write : α → Json} {room : Nat} {items : List α}
    (h : ∀ item ∈ items, ReadsBack decode write room item) :
    ReadsBack (listOf decode) (Wire.ofList write) (room + 1) items := by
  unfold ReadsBack
  rw [Wire.ofList, reread, listOf, rereadItems_eq_map, mapM_eq_ok_of_forall h]
  rfl

/-!
# Tables
-/

theorem entriesOf_eq_ok_iff {decode : Draft → Except Flaw α} {write : α → Json}
    {entries : List (String × α)} :
    entriesOf decode
        (rereadFields (entries.map (fun entry => (entry.1, write entry.2)))) = .ok entries ↔
      ∀ entry ∈ entries, decode (reread (write entry.2)) = .ok entry.2 := by
  induction entries with
  | nil =>
      simp [entriesOf, rereadFields]
  | cons entry rest ih =>
      rcases entry with ⟨key, row⟩
      rw [List.forall_mem_cons, ← ih, List.map_cons, rereadFields, entriesOf]
      constructor
      · intro h
        rcases Refusal.bind_eq_ok.mp h with ⟨a, first, h⟩
        rcases Refusal.bind_eq_ok.mp h with ⟨more, others, h⟩
        cases h
        exact ⟨first, others⟩
      · intro parts
        rcases parts with ⟨first, others⟩
        simp only [first, others]
        rfl

theorem keys_of_entriesOf {decode : Draft → Except Flaw α} {members : List (String × Draft)}
    {all : List (String × α)} (h : entriesOf decode members = .ok all) :
    all.map Prod.fst = members.map Prod.fst := by
  induction members generalizing all with
  | nil =>
      cases h
      rfl
  | cons member rest ih =>
      rcases member with ⟨key, item⟩
      rw [entriesOf] at h
      rcases Refusal.bind_eq_ok.mp h with ⟨a, _, h⟩
      rcases Refusal.bind_eq_ok.mp h with ⟨more, others, h⟩
      cases h
      simp [ih others]

theorem readsBack_table_iff {decode : Decoder α} {write : α → Json} {room : Nat} {t : Table α} :
    ReadsBack (tableOf decode) (Wire.ofTable write) (room + 1) t ↔
      ∀ entry ∈ t.entries, ReadsBack decode write room entry.2 := by
  unfold ReadsBack
  rw [Wire.ofTable, reread, tableOf]
  constructor
  · intro h
    rcases Refusal.bind_eq_ok.mp h with ⟨all, read, h⟩
    have keys : all.map Prod.fst = t.entries.map Prod.fst := by
      rw [keys_of_entriesOf read, rereadFields_eq_map]
      simp [Function.comp_def]
    have built : Table.ofList all = t := Refusal.pure_eq_ok.mp h
    have same : all = t.entries := by
      rw [← built]
      exact (Table.entries_ofList (by rw [keys]; exact t.ascending)).symm
    rw [same] at read
    exact entriesOf_eq_ok_iff.mp read
  · intro h
    rw [entriesOf_eq_ok_iff.mpr h]
    exact congrArg Except.ok (Table.ofList_entries t)

theorem readsBack_table {decode : Decoder α} {write : α → Json} {room : Nat}
    (h : ∀ a, ReadsBack decode write room a) (t : Table α) :
    ReadsBack (tableOf decode) (Wire.ofTable write) (room + 1) t :=
  readsBack_table_iff.mpr (fun entry _ => h entry.2)

theorem readsBack_members_iff {room : Nat} {m : Members} :
    ReadsBack members Wire.ofMembers (room + 1) m ↔ MembersRestore room m := by
  unfold members Wire.ofMembers MembersRestore
  rw [readsBack_table_iff]
  constructor
  · intro h entry hentry
    exact value_reread_iff.mp (h entry hentry)
  · intro h entry hentry
    exact value_reread_iff.mpr (h entry hentry)

end Decoder
end Json
end FleetControl
