/-!
# Tables

A table holds rows under text keys.  Its entries are kept in ascending order of
the keys, each key once, so two tables with the same rows are equal and listing a
table is listing it in key order.  The order of keys is the order of their code
points, which is also the order of their UTF-8 bytes.
-/

namespace FleetControl

theorem key_lt_of_not_lt_of_ne {a b : String} (hlt : ¬ a < b) (hne : a ≠ b) :
    b < a := by
  rcases Decidable.em (b < a) with h | h
  · exact h
  · exact absurd (String.le_antisymm h hlt) hne

structure Table (α : Type) where
  entries : List (String × α)
  ascending : (entries.map Prod.fst).Pairwise (· < ·)
  deriving DecidableEq

namespace Table

variable {α β : Type}

def empty : Table α :=
  { entries := [], ascending := List.Pairwise.nil }

instance : Inhabited (Table α) :=
  ⟨empty⟩

def toList (t : Table α) : List (String × α) :=
  t.entries

def keys (t : Table α) : List String :=
  t.entries.map Prod.fst

def values (t : Table α) : List α :=
  t.entries.map Prod.snd

def size (t : Table α) : Nat :=
  t.entries.length

def isEmpty (t : Table α) : Bool :=
  t.entries.isEmpty

def lookup (key : String) : List (String × α) → Option α
  | [] => none
  | (k, row) :: rest => if key = k then some row else lookup key rest

def get? (t : Table α) (key : String) : Option α :=
  lookup key t.entries

def contains (t : Table α) (key : String) : Bool :=
  (t.get? key).isSome

/-!
# Putting a row in

A row takes its place by its key and replaces the row that was there.
-/

def insertEntry (key : String) (row : α) : List (String × α) → List (String × α)
  | [] => [(key, row)]
  | (k, r) :: rest =>
      if key < k then (key, row) :: (k, r) :: rest
      else if key = k then (key, row) :: rest
      else (k, r) :: insertEntry key row rest

theorem mem_keys_insertEntry {key k : String} {row : α}
    {entries : List (String × α)} :
    k ∈ (insertEntry key row entries).map Prod.fst ↔
      k = key ∨ k ∈ entries.map Prod.fst := by
  induction entries with
  | nil =>
      simp [insertEntry]
  | cons entry rest ih =>
      obtain ⟨k', r⟩ := entry
      unfold insertEntry
      split
      · simp
      · split
        · rename_i heq
          subst heq
          simp
        · simp only [List.map_cons, List.mem_cons, ih]
          constructor
          · rintro (h | h | h) <;> simp [h]
          · rintro (h | h | h) <;> simp [h]

theorem ascending_insertEntry {key : String} {row : α}
    {entries : List (String × α)}
    (h : (entries.map Prod.fst).Pairwise (· < ·)) :
    ((insertEntry key row entries).map Prod.fst).Pairwise (· < ·) := by
  induction entries with
  | nil =>
      simp [insertEntry]
  | cons entry rest ih =>
      obtain ⟨k, r⟩ := entry
      simp only [List.map_cons, List.pairwise_cons] at h
      unfold insertEntry
      split
      · rename_i hlt
        simp only [List.map_cons, List.pairwise_cons, List.mem_cons]
        refine ⟨?_, h.1, h.2⟩
        rintro x (hx | hx)
        · rw [hx]
          exact hlt
        · exact String.lt_trans hlt (h.1 x hx)
      · rename_i hlt
        split
        · rename_i heq
          subst heq
          simpa using h
        · rename_i hne
          simp only [List.map_cons, List.pairwise_cons]
          refine ⟨?_, ih h.2⟩
          intro x hx
          rcases mem_keys_insertEntry.mp hx with hx | hx
          · rw [hx]
            exact key_lt_of_not_lt_of_ne hlt hne
          · exact h.1 x hx

def insert (t : Table α) (key : String) (row : α) : Table α :=
  { entries := insertEntry key row t.entries
    ascending := ascending_insertEntry t.ascending }

/-- The rows one after the other; of two rows with one key the later stays. -/
def ofList (rows : List (String × α)) : Table α :=
  rows.foldl (fun t entry => t.insert entry.1 entry.2) empty

/-!
# Taking rows out and changing them
-/

def filter (keep : String → α → Bool) (t : Table α) : Table α :=
  { entries := t.entries.filter (fun entry => keep entry.1 entry.2)
    ascending := by
      refine List.Pairwise.sublist ?_ t.ascending
      exact List.Sublist.map Prod.fst List.filter_sublist }

def erase (t : Table α) (key : String) : Table α :=
  t.filter (fun k _ => k != key)

def map (change : String → α → β) (t : Table α) : Table β :=
  { entries := t.entries.map (fun entry => (entry.1, change entry.1 entry.2))
    ascending := by
      have same : (t.entries.map (fun entry => (entry.1, change entry.1 entry.2))).map
          Prod.fst = t.entries.map Prod.fst := by
        simp [List.map_map, Function.comp_def]
      rw [same]
      exact t.ascending }

/-- Change the row under `key`; without such a row the table stays as it is. -/
def modify (t : Table α) (key : String) (change : α → α) : Table α :=
  match t.get? key with
  | some row => t.insert key (change row)
  | none => t

/-!
# What the operations do to look-up
-/

theorem lookup_insertEntry (key k : String) (row : α)
    (entries : List (String × α)) :
    lookup k (insertEntry key row entries) =
      if k = key then some row else lookup k entries := by
  induction entries with
  | nil =>
      simp [insertEntry, lookup]
  | cons entry rest ih =>
      obtain ⟨k', r⟩ := entry
      unfold insertEntry
      split
      · simp [lookup]
      · split
        · rename_i heq
          subst heq
          by_cases h : k = key <;> simp [lookup, h]
        · rename_i hne
          simp only [lookup, ih]
          by_cases hk : k = k'
          · subst hk
            have hne' : ¬ k = key := fun e => hne e.symm
            simp [hne']
          · simp [hk]

@[simp] theorem get?_insert (t : Table α) (key k : String) (row : α) :
    (t.insert key row).get? k = if k = key then some row else t.get? k :=
  lookup_insertEntry key k row t.entries

@[simp] theorem get?_empty (k : String) : (empty : Table α).get? k = none := rfl

theorem lookup_map (change : String → α → β) (k : String)
    (entries : List (String × α)) :
    lookup k (entries.map (fun entry => (entry.1, change entry.1 entry.2))) =
      (lookup k entries).map (change k) := by
  induction entries with
  | nil =>
      rfl
  | cons entry rest ih =>
      simp only [List.map_cons, lookup, ih]
      by_cases h : k = entry.1
      · subst h
        simp
      · simp [h]

@[simp] theorem get?_map (change : String → α → β) (t : Table α) (k : String) :
    (t.map change).get? k = (t.get? k).map (change k) :=
  lookup_map change k t.entries

theorem lookup_of_mem {k : String} {row : α} {entries : List (String × α)}
    (asc : (entries.map Prod.fst).Pairwise (· < ·)) (h : (k, row) ∈ entries) :
    lookup k entries = some row := by
  induction entries with
  | nil =>
      simp at h
  | cons entry rest ih =>
      obtain ⟨k', r⟩ := entry
      simp only [List.map_cons, List.pairwise_cons] at asc
      rcases List.mem_cons.mp h with h | h
      · cases h
        simp [lookup]
      · have hlt := asc.1 k (List.mem_map.mpr ⟨(k, row), h, rfl⟩)
        have hne : k ≠ k' := by
          intro e
          subst e
          exact String.lt_irrefl _ hlt
        simp [lookup, hne, ih asc.2 h]

theorem mem_of_lookup {k : String} {row : α} {entries : List (String × α)}
    (h : lookup k entries = some row) : (k, row) ∈ entries := by
  induction entries with
  | nil =>
      simp [lookup] at h
  | cons entry rest ih =>
      obtain ⟨k', r⟩ := entry
      simp only [lookup] at h
      by_cases hk : k = k'
      · subst hk
        simp at h
        simp [h]
      · simp [hk] at h
        exact List.mem_cons_of_mem _ (ih h)

theorem get?_eq_some_iff {t : Table α} {k : String} {row : α} :
    t.get? k = some row ↔ (k, row) ∈ t.entries :=
  ⟨mem_of_lookup, lookup_of_mem t.ascending⟩

@[simp] theorem get?_filter (keep : String → α → Bool) (t : Table α) (k : String) :
    (t.filter keep).get? k = (t.get? k).filter (keep k) := by
  apply Option.ext
  intro row
  rw [get?_eq_some_iff]
  simp only [filter, List.mem_filter, Option.filter_eq_some_iff]
  rw [← get?_eq_some_iff (t := t)]

@[simp] theorem get?_erase (t : Table α) (key k : String) :
    (t.erase key).get? k = if k = key then none else t.get? k := by
  unfold erase
  rw [get?_filter]
  by_cases h : k = key
  · subst h
    cases t.get? k <;> simp
  · cases t.get? k <;> simp [h]

theorem get?_modify (t : Table α) (key k : String) (change : α → α) :
    (t.modify key change).get? k =
      if k = key then (t.get? k).map change else t.get? k := by
  unfold modify
  split
  · rename_i row hrow
    rw [get?_insert]
    by_cases h : k = key
    · subst h
      simp [hrow]
    · simp [h]
  · rename_i hnone
    by_cases h : k = key
    · subst h
      simp [hnone]
    · simp [h]

end Table
end FleetControl
