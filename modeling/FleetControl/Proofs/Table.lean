import Mathlib.Data.List.Nodup
import FleetControl.NameSet

/-!
# Counting and ordering rows

Putting a row in makes a table longer by one row unless its key is taken.  Rows of one kind
are counted by their keys, of which no two are equal.  Rows that are put in in ascending order
stay as they stand.
-/

namespace FleetControl
namespace Table

variable {α : Type}

theorem length_insertEntry_of_lookup_eq_none {key : String} {row : α}
    {entries : List (String × α)} (h : lookup key entries = none) :
    (insertEntry key row entries).length = entries.length + 1 := by
  induction entries with
  | nil =>
      rfl
  | cons entry rest ih =>
      rcases entry with ⟨k, r⟩
      simp only [lookup] at h
      split at h
      · cases h
      · rename_i hne
        unfold insertEntry
        split
        · rfl
        · simp [ih h]

theorem size_insert_of_get?_eq_none {t : Table α} {key : String} {row : α}
    (h : t.get? key = none) : (t.insert key row).size = t.size + 1 :=
  length_insertEntry_of_lookup_eq_none h

/-- The place of a key that is already there is found behind all smaller keys. -/
theorem insertEntry_cons_of_lookup {key k : String} {row r before : α}
    {rest : List (String × α)} (above : ∀ key ∈ rest.map Prod.fst, k < key)
    (h : lookup key rest = some before) :
    insertEntry key row ((k, r) :: rest) = (k, r) :: insertEntry key row rest := by
  have lt : k < key := above key (List.mem_map.mpr ⟨(key, before), mem_of_lookup h, rfl⟩)
  have not_lt : ¬ key < k := fun gt => String.lt_irrefl _ (String.lt_trans lt gt)
  have ne : key ≠ k := fun same => String.lt_irrefl k (same ▸ lt)
  rw [insertEntry, if_neg not_lt, if_neg ne]

theorem length_insertEntry_of_lookup_eq_some {key : String} {row before : α}
    {entries : List (String × α)} (asc : (entries.map Prod.fst).Pairwise (· < ·))
    (h : lookup key entries = some before) :
    (insertEntry key row entries).length = entries.length := by
  induction entries with
  | nil =>
      cases h
  | cons entry rest ih =>
      rcases entry with ⟨k, r⟩
      simp only [List.map_cons, List.pairwise_cons] at asc
      simp only [lookup] at h
      split at h
      · rename_i heq
        subst heq
        rw [insertEntry, if_neg (String.lt_irrefl key), if_pos rfl]
        rfl
      · rw [insertEntry_cons_of_lookup asc.1 h, List.length_cons, List.length_cons, ih asc.2 h]

theorem size_insert_of_get?_eq_some {t : Table α} {key : String} {row before : α}
    (h : t.get? key = some before) : (t.insert key row).size = t.size :=
  length_insertEntry_of_lookup_eq_some t.ascending h

theorem size_insert_le (t : Table α) (key : String) (row : α) :
    t.size ≤ (t.insert key row).size := by
  cases h : t.get? key with
  | none =>
      rw [size_insert_of_get?_eq_none h]
      exact Nat.le_succ _
  | some before =>
      exact Nat.le_of_eq (size_insert_of_get?_eq_some h).symm

theorem insertEntry_of_lookup_eq_some {key : String} {row : α} {entries : List (String × α)}
    (asc : (entries.map Prod.fst).Pairwise (· < ·)) (h : lookup key entries = some row) :
    insertEntry key row entries = entries := by
  induction entries with
  | nil =>
      cases h
  | cons entry rest ih =>
      rcases entry with ⟨k, r⟩
      simp only [List.map_cons, List.pairwise_cons] at asc
      simp only [lookup] at h
      split at h
      · rename_i heq
        cases h
        rw [insertEntry, heq, if_neg (String.lt_irrefl k), if_pos rfl]
      · rw [insertEntry_cons_of_lookup asc.1 h, ih asc.2 h]

theorem names_of_values_ascending {t : Table α} {name : α → String}
    (h : ∀ key row, t.get? key = some row → name row = key) :
    (t.values.map name).Pairwise (· < ·) := by
  have same : t.values.map name = t.keys := by
    unfold values keys
    rw [List.map_map]
    apply List.map_congr_left
    intro entry hentry
    exact h entry.1 entry.2 (get?_eq_some_iff.mpr hentry)
  rw [same]
  exact t.ascending

theorem mem_values_iff {t : Table α} {row : α} :
    row ∈ t.values ↔ ∃ key, t.get? key = some row := by
  unfold values
  constructor
  · intro h
    rcases List.mem_map.mp h with ⟨entry, hentry, rfl⟩
    exact ⟨entry.1, get?_eq_some_iff.mpr hentry⟩
  · intro parts
    rcases parts with ⟨key, h⟩
    exact List.mem_map.mpr ⟨(key, row), get?_eq_some_iff.mp h, rfl⟩

/-!
# Rows of one kind
-/

def keysWhere (t : Table α) (p : α → Bool) : List String :=
  (t.entries.filter (fun entry => p entry.2)).map Prod.fst

theorem mem_keysWhere {t : Table α} {p : α → Bool} {key : String} :
    key ∈ t.keysWhere p ↔ ∃ row, t.get? key = some row ∧ p row = true := by
  unfold keysWhere
  constructor
  · intro h
    rcases List.mem_map.mp h with ⟨entry, hentry, rfl⟩
    rcases List.mem_filter.mp hentry with ⟨member, kind⟩
    exact ⟨entry.2, get?_eq_some_iff.mpr member, kind⟩
  · intro h
    rcases h with ⟨row, found, kind⟩
    exact List.mem_map.mpr
      ⟨(key, row), List.mem_filter.mpr ⟨get?_eq_some_iff.mp found, kind⟩, rfl⟩

theorem nodup_keysWhere (t : Table α) (p : α → Bool) : (t.keysWhere p).Nodup := by
  have sub : (t.keysWhere p).Sublist t.keys := List.Sublist.map Prod.fst List.filter_sublist
  refine (t.ascending.sublist sub).imp ?_
  intro a b hlt heq
  rw [heq] at hlt
  exact String.lt_irrefl b hlt

theorem count_keysWhere (t : Table α) (p : α → Bool) (key : String) :
    (t.keysWhere p).count key = ((t.get? key).any p).toNat := by
  by_cases mem : key ∈ t.keysWhere p
  · rcases mem_keysWhere.mp mem with ⟨row, found, kind⟩
    rw [List.count_eq_one_of_mem (t.nodup_keysWhere p) mem, found, Option.any_some, kind]
    rfl
  · rw [List.count_eq_zero_of_not_mem mem]
    cases found : t.get? key with
    | none => rfl
    | some row =>
        cases kind : p row with
        | true => exact absurd (mem_keysWhere.mpr ⟨row, found, kind⟩) mem
        | false => rw [Option.any_some, kind]; rfl

theorem length_keysWhere (t : Table α) (p : α → Bool) :
    (t.keysWhere p).length = (t.values.filter p).length := by
  rw [keysWhere, values, List.filter_map, List.length_map, List.length_map]
  rfl

theorem names_of_filter_values {t : Table α} {name : α → String} {p : α → Bool}
    (h : ∀ key row, t.get? key = some row → p row = true → name row = key) :
    (t.values.filter p).map name = t.keysWhere p := by
  rw [keysWhere, values, List.filter_map, List.map_map]
  apply List.map_congr_left
  intro entry hentry
  rcases List.mem_filter.mp hentry with ⟨member, kind⟩
  exact h entry.1 entry.2 (get?_eq_some_iff.mpr member) kind

theorem length_filter_values_le {s t : Table α} {p q : α → Bool}
    (h : ∀ key row, t.get? key = some row → p row = true →
      ∃ before, s.get? key = some before ∧ q before = true) :
    (t.values.filter p).length ≤ (s.values.filter q).length := by
  rw [← length_keysWhere, ← length_keysWhere]
  apply (t.nodup_keysWhere p).length_le_of_subset
  intro key hkey
  rcases mem_keysWhere.mp hkey with ⟨row, found, kind⟩
  exact mem_keysWhere.mpr (h key row found kind)

/-- If that holds of all rows but one, there is at most one more of them. -/
theorem length_filter_values_le_succ {s t : Table α} {p q : α → Bool} (key : String)
    (h : ∀ k row, k ≠ key → t.get? k = some row → p row = true →
      ∃ before, s.get? k = some before ∧ q before = true) :
    (t.values.filter p).length ≤ (s.values.filter q).length + 1 := by
  rw [← length_keysWhere, ← length_keysWhere, ← List.length_cons (a := key)]
  apply (t.nodup_keysWhere p).length_le_of_subset
  intro k hk
  rcases mem_keysWhere.mp hk with ⟨row, found, kind⟩
  by_cases here : k = key
  · exact List.mem_cons.mpr (Or.inl here)
  · exact List.mem_cons.mpr (Or.inr (mem_keysWhere.mpr (h k row here found kind)))

theorem filter_insertEntry (key : String) (row : α) (entries : List (String × α)) :
    (insertEntry key row entries).filter (fun entry => entry.1 != key) =
      entries.filter (fun entry => entry.1 != key) := by
  induction entries with
  | nil =>
      simp [insertEntry]
  | cons entry rest ih =>
      rcases entry with ⟨k, other⟩
      unfold insertEntry
      split
      · simp
      · split
        · rename_i here
          simp [here]
        · rw [List.filter_cons, List.filter_cons, ih]

theorem erase_insert (t : Table α) (key : String) (row : α) :
    (t.insert key row).erase key = t.erase key := by
  simp only [erase, filter, insert, filter_insertEntry]

/-!
# Rows in order
-/

theorem insertEntry_of_above {key : String} {row : α} {entries : List (String × α)}
    (h : ∀ k ∈ entries.map Prod.fst, k < key) :
    insertEntry key row entries = entries ++ [(key, row)] := by
  induction entries with
  | nil =>
      rfl
  | cons entry rest ih =>
      rcases entry with ⟨k, r⟩
      have above : k < key := h k (by simp)
      have hnot : ¬ key < k := fun hgt => String.lt_irrefl _ (String.lt_trans above hgt)
      have hne : key ≠ k := by
        intro heq
        rw [heq] at above
        exact String.lt_irrefl _ above
      have tail := ih (fun k' hk' => h k' (List.mem_cons_of_mem _ hk'))
      simp [insertEntry, hnot, hne, tail]

theorem entries_foldl_insert (t : Table α) {rows : List (String × α)}
    (asc : ((t.entries ++ rows).map Prod.fst).Pairwise (· < ·)) :
    (rows.foldl (fun t entry => t.insert entry.1 entry.2) t).entries = t.entries ++ rows := by
  induction rows generalizing t with
  | nil =>
      simp
  | cons entry rest ih =>
      rcases entry with ⟨key, row⟩
      have above : ∀ k ∈ t.entries.map Prod.fst, k < key := by
        intro k hk
        rw [List.map_append, List.pairwise_append] at asc
        exact asc.2.2 k hk key (by simp)
      have inserted : (t.insert key row).entries = t.entries ++ [(key, row)] :=
        insertEntry_of_above above
      have next : ((t.insert key row).entries ++ rest).map Prod.fst =
          (t.entries ++ (key, row) :: rest).map Prod.fst := by
        rw [inserted]
        simp
      rw [List.foldl_cons, ih (t.insert key row) (by rw [next]; exact asc), inserted]
      simp

theorem entries_ofList {rows : List (String × α)}
    (asc : (rows.map Prod.fst).Pairwise (· < ·)) : (ofList rows).entries = rows :=
  entries_foldl_insert empty asc

theorem ext_entries {s t : Table α} (h : s.entries = t.entries) : s = t := by
  cases s
  cases t
  cases h
  rfl

theorem insert_of_get?_eq_some {t : Table α} {key : String} {row : α}
    (h : t.get? key = some row) : t.insert key row = t :=
  ext_entries (insertEntry_of_lookup_eq_some t.ascending h)

@[simp] theorem ofList_entries (t : Table α) : ofList t.entries = t :=
  ext_entries (entries_ofList t.ascending)

theorem mem_keys_foldl_insert (t : Table α) {rows : List (String × α)} {key : String} :
    key ∈ (rows.foldl (fun t entry => t.insert entry.1 entry.2) t).keys ↔
      key ∈ t.keys ∨ key ∈ rows.map Prod.fst := by
  induction rows generalizing t with
  | nil => simp
  | cons entry rest ih =>
      have inserted : key ∈ (t.insert entry.1 entry.2).keys ↔ key = entry.1 ∨ key ∈ t.keys :=
        mem_keys_insertEntry
      rw [List.foldl_cons, ih, inserted, List.map_cons, List.mem_cons, or_assoc, or_left_comm]

theorem mem_keys_ofList {rows : List (String × α)} {key : String} :
    key ∈ (ofList rows).keys ↔ key ∈ rows.map Prod.fst :=
  (mem_keys_foldl_insert empty).trans (by simp [keys, empty])

end Table

theorem NameSet.mem_names_ofList {names : List String} {name : String} :
    name ∈ (NameSet.ofList names).names ↔ name ∈ names := by
  unfold NameSet.names NameSet.ofList
  rw [Table.mem_keys_ofList, List.map_map]
  exact iff_of_eq (congrArg (name ∈ ·) (List.map_id names))

end FleetControl
