import FleetControl.Table

/-!
# JSON documents

A document is what is written and read: object fields stand in the order in which
they are given.  A value is what is stored: in every object of it, at every depth,
the keys are in ascending order and each occurs once, so two values are equal
exactly when they have the same members.
-/

namespace FleetControl

/-- A JSON number: a whole number of 64 bits, with or without sign, or a binary64
number. -/
inductive Number where
  | whole (value : Int) (fits : -0x8000000000000000 ≤ value ∧ value < 0x10000000000000000)
  | real (value : Float)
  deriving DecidableEq

namespace Number

def ofUInt64 (n : UInt64) : Number :=
  .whole n.toNat (by
    have h := n.toNat_lt
    constructor <;> omega)

def ofNat? (n : Nat) : Option Number :=
  if h : n < 0x10000000000000000 then some (.whole n (by constructor <;> omega)) else none

/-- The whole number that is not negative, if it is one. -/
def natural? : Number → Option Nat
  | .whole value _ => if 0 ≤ value then some value.toNat else none
  | .real _ => none

/-- The whole number that fits a signed 64-bit number, if it is one. -/
def signed? : Number → Option Int
  | .whole value _ => if value < 0x8000000000000000 then some value else none
  | .real _ => none

def toFloat : Number → Float
  | .whole value _ => if value < 0 then -(Float.ofNat value.natAbs) else Float.ofNat value.natAbs
  | .real value => value

end Number

inductive Json where
  | null
  | bool (b : Bool)
  | number (n : Number)
  | text (s : String)
  | array (items : List Json)
  | object (fields : List (String × Json))
  deriving Inhabited, BEq

/-!
# Canonical documents
-/

namespace Json

mutual

def isCanonical : Json → Bool
  | .array items => allCanonical items
  | .object fields =>
      decide ((fields.map Prod.fst).Pairwise (· < ·)) && fieldsCanonical fields
  | _ => true

def allCanonical : List Json → Bool
  | [] => true
  | item :: rest => item.isCanonical && allCanonical rest

def fieldsCanonical : List (String × Json) → Bool
  | [] => true
  | (_, item) :: rest => item.isCanonical && fieldsCanonical rest

end

theorem allCanonical_iff {items : List Json} :
    allCanonical items = true ↔ ∀ item ∈ items, item.isCanonical = true := by
  induction items with
  | nil =>
      simp [allCanonical]
  | cons item rest ih =>
      simp [allCanonical, ih]

theorem fieldsCanonical_iff {fields : List (String × Json)} :
    fieldsCanonical fields = true ↔
      ∀ field ∈ fields, field.2.isCanonical = true := by
  induction fields with
  | nil =>
      simp [fieldsCanonical]
  | cons field rest ih =>
      obtain ⟨key, item⟩ := field
      simp [fieldsCanonical, ih]

end Json

/-!
# Values

The constructors of a value build canonical documents from canonical parts, and
the views take a value apart into values again.
-/

structure Value where
  document : Json
  canonical : document.isCanonical = true

namespace Value

def null : Value :=
  ⟨.null, rfl⟩

instance : Inhabited Value :=
  ⟨null⟩

instance : BEq Value :=
  ⟨fun a b => a.document == b.document⟩

def bool (b : Bool) : Value :=
  ⟨.bool b, rfl⟩

def number (n : Number) : Value :=
  ⟨.number n, rfl⟩

def text (s : String) : Value :=
  ⟨.text s, rfl⟩

def array (items : List Value) : Value :=
  ⟨.array (items.map Value.document), by
    simp only [Json.isCanonical, Json.allCanonical_iff, List.mem_map]
    rintro _ ⟨item, _, rfl⟩
    exact item.canonical⟩

def object (fields : Table Value) : Value :=
  ⟨.object (fields.entries.map (fun field => (field.1, field.2.document))), by
    simp only [Json.isCanonical, Bool.and_eq_true, decide_eq_true_eq,
      Json.fieldsCanonical_iff, List.mem_map]
    constructor
    · have same : (fields.entries.map
          (fun field => (field.1, field.2.document))).map Prod.fst =
          fields.entries.map Prod.fst := by
        simp [List.map_map, Function.comp_def]
      rw [same]
      exact fields.ascending
    · rintro _ ⟨field, _, rfl⟩
      exact field.2.canonical⟩

/-- A value seen from outside. -/
inductive View where
  | null
  | bool (b : Bool)
  | number (n : Number)
  | text (s : String)
  | array (items : List Value)
  | object (fields : Table Value)

def view (value : Value) : View :=
  match value with
  | ⟨.null, _⟩ => .null
  | ⟨.bool b, _⟩ => .bool b
  | ⟨.number n, _⟩ => .number n
  | ⟨.text s, _⟩ => .text s
  | ⟨.array items, h⟩ =>
      .array (items.attach.map (fun item => ⟨item.1, by
        simp only [Json.isCanonical, Json.allCanonical_iff] at h
        exact h item.1 item.2⟩))
  | ⟨.object fields, h⟩ =>
      .object
        { entries := fields.attach.map (fun field => (field.1.1, ⟨field.1.2, by
            simp only [Json.isCanonical, Bool.and_eq_true,
              Json.fieldsCanonical_iff] at h
            exact h.2 field.1 field.2⟩))
          ascending := by
            simp only [Json.isCanonical, Bool.and_eq_true, decide_eq_true_eq] at h
            have same : (fields.attach.map (fun field =>
                (field.1.1, (⟨field.1.2, by
                  simp only [Json.fieldsCanonical_iff] at h
                  exact h.2 field.1 field.2⟩ : Value)))).map Prod.fst =
                fields.map Prod.fst := by
              rw [List.map_map]
              exact List.attach_map_val (l := fields) (f := Prod.fst)
            rw [same]
            exact h.1 }

def text? (value : Value) : Option String :=
  match value.document with
  | .text s => some s
  | _ => none

end Value

/-- The members of a JSON object. -/
abbrev Members := Table Value

end FleetControl
