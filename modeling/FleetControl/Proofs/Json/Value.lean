import FleetControl.Json.Decode
import FleetControl.Proofs.Json.Pretty
import FleetControl.Proofs.Refusal
import FleetControl.Proofs.Table

/-!
# Values read back

A value is read back from its text as it was, exactly when it is nested no deeper than
there is room for and each of its numbers is read back from its numeral.
-/

namespace FleetControl
namespace Json

/-!
# Depth and numbers
-/

mutual

def nesting : Json → Nat
  | .array items => nestingItems items + 1
  | .object fields => nestingFields fields + 1
  | _ => 0

def nestingItems : List Json → Nat
  | [] => 0
  | item :: rest => max item.nesting (nestingItems rest)

def nestingFields : List (String × Json) → Nat
  | [] => 0
  | (_, item) :: rest => max item.nesting (nestingFields rest)

end

mutual

def numbers : Json → List Number
  | .number n => [n]
  | .array items => numbersItems items
  | .object fields => numbersFields fields
  | _ => []

def numbersItems : List Json → List Number
  | [] => []
  | item :: rest => item.numbers ++ numbersItems rest

def numbersFields : List (String × Json) → List Number
  | [] => []
  | (_, item) :: rest => item.numbers ++ numbersFields rest

end

end Json

namespace Json.Draft

def gives (n : Number) : Draft → Bool
  | .number (some m) => m = n
  | _ => false

theorem gives_iff {n : Number} {d : Draft} : gives n d = true ↔ d = .number (some n) := by
  unfold gives
  split
  · simp
  · rename_i other
    constructor
    · intro h
      cases h
    · intro h
      exact absurd h (other n)

end Json.Draft

namespace Number

/-- The number is what its numeral gives. -/
def Returns (n : Number) : Prop :=
  Json.Draft.rereadNumber n = .number (some n)

instance (n : Number) : Decidable n.Returns :=
  decidable_of_iff (Json.Draft.gives n (Json.Draft.rereadNumber n) = true) Json.Draft.gives_iff

theorem returns_whole (value : Int)
    (fits : -0x8000000000000000 ≤ value ∧ value < 0x10000000000000000) :
    (Number.whole value fits).Returns :=
  Json.Draft.rereadNumber_whole value fits

/-- The numeral `123456789.12345679` gives the next number above. -/
example : ¬ (Number.real (Float.ofBits 0x419d6f34547e6b75)).Returns := by
  decide +kernel

end Number

namespace Json

structure Restores (room : Nat) (doc : Json) : Prop where
  shallow : doc.nesting ≤ room
  returns : ∀ n ∈ doc.numbers, n.Returns

theorem nestingItems_le_iff {room : Nat} {items : List Json} :
    nestingItems items ≤ room ↔ ∀ item ∈ items, item.nesting ≤ room := by
  induction items with
  | nil =>
      simp [nestingItems]
  | cons item rest ih =>
      rw [nestingItems, Nat.max_le, ih, List.forall_mem_cons]

theorem nestingFields_le_iff {room : Nat} {fields : List (String × Json)} :
    nestingFields fields ≤ room ↔ ∀ field ∈ fields, field.2.nesting ≤ room := by
  induction fields with
  | nil =>
      simp [nestingFields]
  | cons field rest ih =>
      rw [nestingFields, Nat.max_le, ih, List.forall_mem_cons]

theorem mem_numbersItems {n : Number} {items : List Json} :
    n ∈ numbersItems items ↔ ∃ item ∈ items, n ∈ item.numbers := by
  induction items with
  | nil =>
      simp [numbersItems]
  | cons item rest ih =>
      simp [numbersItems, ih]

theorem mem_numbersFields {n : Number} {fields : List (String × Json)} :
    n ∈ numbersFields fields ↔ ∃ field ∈ fields, n ∈ field.2.numbers := by
  induction fields with
  | nil =>
      simp [numbersFields]
  | cons field rest ih =>
      rcases field with ⟨key, item⟩
      simp only [numbersFields, List.mem_append, ih, List.mem_cons]
      constructor
      · intro parts
        rcases parts with h | ⟨field, hfield, h⟩
        · exact ⟨(key, item), Or.inl rfl, h⟩
        · exact ⟨field, Or.inr hfield, h⟩
      · intro parts
        rcases parts with ⟨field, rfl | hfield, h⟩
        · exact Or.inl h
        · exact Or.inr ⟨field, hfield, h⟩

theorem restores_array {room : Nat} {items : List Json} :
    (Json.array items).Restores (room + 1) ↔ ∀ item ∈ items, item.Restores room := by
  constructor
  · intro restores item hitem
    rcases restores with ⟨shallow, returns⟩
    constructor
    · exact nestingItems_le_iff.mp (Nat.le_of_succ_le_succ shallow) item hitem
    · intro n hn
      exact returns n (mem_numbersItems.mpr ⟨item, hitem, hn⟩)
  · intro all
    constructor
    · exact Nat.succ_le_succ (nestingItems_le_iff.mpr (fun item hitem => (all item hitem).shallow))
    · intro n hn
      rcases mem_numbersItems.mp hn with ⟨item, hitem, hn⟩
      exact (all item hitem).returns n hn

theorem restores_object {room : Nat} {fields : List (String × Json)} :
    (Json.object fields).Restores (room + 1) ↔ ∀ field ∈ fields, field.2.Restores room := by
  constructor
  · intro restores field hfield
    rcases restores with ⟨shallow, returns⟩
    constructor
    · exact nestingFields_le_iff.mp (Nat.le_of_succ_le_succ shallow) field hfield
    · intro n hn
      exact returns n (mem_numbersFields.mpr ⟨field, hfield, hn⟩)
  · intro all
    constructor
    · exact Nat.succ_le_succ
        (nestingFields_le_iff.mpr (fun field hfield => (all field hfield).shallow))
    · intro n hn
      rcases mem_numbersFields.mp hn with ⟨field, hfield, hn⟩
      exact (all field hfield).returns n hn

theorem not_restores_array_zero {items : List Json} : ¬ (Json.array items).Restores 0 := by
  intro restores
  rcases restores with ⟨shallow, _⟩
  exact Nat.not_succ_le_zero _ shallow

theorem not_restores_object_zero {fields : List (String × Json)} :
    ¬ (Json.object fields).Restores 0 := by
  intro restores
  rcases restores with ⟨shallow, _⟩
  exact Nat.not_succ_le_zero _ shallow

end Json

theorem Value.ext_document {v w : Value} (h : v.document = w.document) : v = w := by
  cases v
  cases w
  cases h
  rfl

namespace Json
namespace Decoder

open Draft

/-!
# Reading back what restores
-/

mutual

theorem value_of_restores (doc : Json) (canonical : doc.isCanonical = true) (room : Nat)
    (restores : doc.Restores room) : value room (reread doc) = .ok ⟨doc, canonical⟩ := by
  cases doc with
  | null => rfl
  | bool b => rfl
  | number n =>
      have same : rereadNumber n = .number (some n) :=
        restores.returns n (by simp [numbers])
      rw [reread, same]
      rfl
  | text s => rfl
  | array items =>
      cases room with
      | zero => exact absurd restores not_restores_array_zero
      | succ room =>
          rcases valueItems_of_restores items
              (by simpa [isCanonical] using canonical) room (restores_array.mp restores) with
            ⟨all, read, same⟩
          rw [reread, value, read]
          apply congrArg Except.ok
          apply Value.ext_document
          show Json.array (all.map Value.document) = Json.array items
          rw [same]
  | object fields =>
      cases room with
      | zero => exact absurd restores not_restores_object_zero
      | succ room =>
          simp only [isCanonical, Bool.and_eq_true, decide_eq_true_eq] at canonical
          rcases valueMembers_of_restores fields canonical.2 room
              (restores_object.mp restores) with
            ⟨all, read, same⟩
          have keys : all.map Prod.fst = fields.map Prod.fst := by
            rw [← same, List.map_map]
            rfl
          have entries : (Table.ofList all).entries = all :=
            Table.entries_ofList (by rw [keys]; exact canonical.1)
          rw [reread, value, read]
          apply congrArg Except.ok
          apply Value.ext_document
          show Json.object ((Table.ofList all).entries.map (fun field =>
            (field.1, field.2.document))) = Json.object fields
          rw [entries, same]

theorem valueItems_of_restores (items : List Json) (canonical : allCanonical items = true)
    (room : Nat) (restores : ∀ item ∈ items, item.Restores room) :
    ∃ all, valueItems room (rereadItems items) = .ok all ∧ all.map Value.document = items := by
  cases items with
  | nil => exact ⟨[], rfl, rfl⟩
  | cons item rest =>
      simp only [allCanonical, Bool.and_eq_true] at canonical
      have first := value_of_restores item canonical.1 room (restores item List.mem_cons_self)
      rcases valueItems_of_restores rest canonical.2 room
          (fun x hx => restores x (List.mem_cons_of_mem _ hx)) with
        ⟨all, others, same⟩
      refine ⟨⟨item, canonical.1⟩ :: all, ?_, ?_⟩
      · rw [rereadItems, valueItems, first, others]
        rfl
      · rw [List.map_cons, same]

theorem valueMembers_of_restores (fields : List (String × Json))
    (canonical : fieldsCanonical fields = true) (room : Nat)
    (restores : ∀ field ∈ fields, field.2.Restores room) :
    ∃ all, valueMembers room (rereadFields fields) = .ok all ∧
      all.map (fun field => (field.1, field.2.document)) = fields := by
  match fields with
  | [] => exact ⟨[], rfl, rfl⟩
  | (key, item) :: rest =>
      simp only [fieldsCanonical, Bool.and_eq_true] at canonical
      have first := value_of_restores item canonical.1 room
        (restores (key, item) List.mem_cons_self)
      rcases valueMembers_of_restores rest canonical.2 room
          (fun x hx => restores x (List.mem_cons_of_mem _ hx)) with
        ⟨all, others, same⟩
      refine ⟨(key, ⟨item, canonical.1⟩) :: all, ?_, ?_⟩
      · rw [rereadFields, valueMembers, first, others]
        rfl
      · rw [List.map_cons, same]

end

/-!
# Restoring what is read back
-/

theorem reread_number_cases (n : Number) :
    rereadNumber n = .null ∨ ∃ m, rereadNumber n = .number m := by
  unfold rereadNumber
  rcases numeral_cases n with ⟨l, sound, hchars⟩ | null
  · exact Or.inr ⟨l.number?, by rw [← hchars, readScalar_literal sound]⟩
  · exact Or.inl (by rw [null]; rfl)

theorem returns_of_value {n : Number} {room : Nat} {v : Value}
    (h : value room (rereadNumber n) = .ok v) (same : v.document = .number n) : n.Returns := by
  rcases reread_number_cases n with null | ⟨m, number⟩
  · rw [null] at h
    cases h
    cases same
  · rw [number] at h
    cases m with
    | none => cases h
    | some m =>
        cases h
        cases same
        exact number

theorem keys_of_valueMembers {room : Nat} {fields : List (String × Json)}
    {all : List (String × Value)} (h : valueMembers room (rereadFields fields) = .ok all) :
    all.map Prod.fst = fields.map Prod.fst := by
  induction fields generalizing all with
  | nil =>
      cases h
      rfl
  | cons field rest ih =>
      rcases field with ⟨key, item⟩
      rw [rereadFields, valueMembers] at h
      rcases Refusal.bind_eq_ok.mp h with ⟨a, _, h⟩
      rcases Refusal.bind_eq_ok.mp h with ⟨more, others, h⟩
      cases h
      simp [ih others]

mutual

theorem restores_of_value (doc : Json) (room : Nat) (v : Value)
    (h : value room (reread doc) = .ok v) (same : v.document = doc) : doc.Restores room := by
  cases doc with
  | null => exact ⟨Nat.zero_le room, by simp [numbers]⟩
  | bool b => exact ⟨Nat.zero_le room, by simp [numbers]⟩
  | number n =>
      constructor
      · exact Nat.zero_le room
      · intro m hm
        simp only [numbers, List.mem_singleton] at hm
        rw [hm]
        exact returns_of_value h same
  | text s => exact ⟨Nat.zero_le room, by simp [numbers]⟩
  | array items =>
      cases room with
      | zero => cases h
      | succ room =>
          rw [reread, value] at h
          rcases Refusal.bind_eq_ok.mp h with ⟨all, read, h⟩
          cases h
          exact restores_array.mpr (restores_of_valueItems items room all read (array.inj same))
  | object fields =>
      cases room with
      | zero => cases h
      | succ room =>
          rw [reread, value] at h
          rcases Refusal.bind_eq_ok.mp h with ⟨all, read, h⟩
          cases h
          have ascending : (fields.map Prod.fst).Pairwise (· < ·) := by
            have canonical := (Value.object (Table.ofList all)).canonical
            rw [same] at canonical
            simp only [isCanonical, Bool.and_eq_true, decide_eq_true_eq] at canonical
            exact canonical.1
          have entries : (Table.ofList all).entries = all :=
            Table.entries_ofList (by rw [keys_of_valueMembers read]; exact ascending)
          have parts := object.inj same
          rw [entries] at parts
          exact restores_object.mpr (restores_of_valueMembers fields room all read parts)

theorem restores_of_valueItems (items : List Json) (room : Nat) (all : List Value)
    (h : valueItems room (rereadItems items) = .ok all)
    (same : all.map Value.document = items) : ∀ item ∈ items, item.Restores room := by
  match items with
  | [] =>
      intro x hx
      cases hx
  | item :: rest =>
      rw [rereadItems, valueItems] at h
      rcases Refusal.bind_eq_ok.mp h with ⟨first, readFirst, h⟩
      rcases Refusal.bind_eq_ok.mp h with ⟨others, readOthers, h⟩
      cases h
      rcases List.cons.inj same with ⟨sameFirst, sameOthers⟩
      intro x hx
      rcases List.mem_cons.mp hx with hx | hx
      · rw [hx]
        exact restores_of_value item room first readFirst sameFirst
      · exact restores_of_valueItems rest room others readOthers sameOthers x hx

theorem restores_of_valueMembers (fields : List (String × Json)) (room : Nat)
    (all : List (String × Value)) (h : valueMembers room (rereadFields fields) = .ok all)
    (same : all.map (fun field => (field.1, field.2.document)) = fields) :
    ∀ field ∈ fields, field.2.Restores room := by
  match fields with
  | [] =>
      intro x hx
      cases hx
  | (key, item) :: rest =>
      rw [rereadFields, valueMembers] at h
      rcases Refusal.bind_eq_ok.mp h with ⟨first, readFirst, h⟩
      rcases Refusal.bind_eq_ok.mp h with ⟨others, readOthers, h⟩
      cases h
      rcases List.cons.inj same with ⟨sameFirst, sameOthers⟩
      intro x hx
      rcases List.mem_cons.mp hx with rfl | hx
      · exact restores_of_value item room first readFirst (Prod.mk.inj sameFirst).2
      · exact restores_of_valueMembers rest room others readOthers sameOthers x hx

end

theorem value_reread_iff {room : Nat} {v : Value} :
    value room (reread v.document) = .ok v ↔ v.document.Restores room := by
  constructor
  · intro h
    exact restores_of_value v.document room v h rfl
  · intro h
    exact value_of_restores v.document v.canonical room h

end Decoder
end Json
end FleetControl
