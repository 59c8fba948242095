import FleetControl.Text.Ascii
import FleetControl.Text.Blank
import Mathlib.Data.List.DropRight

/-!
# Texts that are joined and cut again

A text without blanks is not changed by trimming.  Items that are neither empty nor have
a comma or a blank in them are joined by commas and found again.

Trimming takes blanks away at both ends and nothing else, so a text with blanks put around it is
trimmed to the same.  Cutting a text at a character that is not blank leaves the blanks where
they are.
-/

namespace FleetControl
namespace Text

theorem dropBlanks_of_plain {cs : List Char} (plain : ∀ c ∈ cs, isBlank c = false) :
    dropBlanks cs = cs := by
  cases cs with
  | nil => rfl
  | cons c rest =>
      refine List.dropWhile_cons_of_neg ?_
      rw [plain c List.mem_cons_self]
      exact Bool.false_ne_true

theorem trimChars_of_plain {cs : List Char} (plain : ∀ c ∈ cs, isBlank c = false) :
    trimChars cs = cs := by
  have reversed : dropBlanks cs.reverse = cs.reverse :=
    dropBlanks_of_plain fun c hc => plain c (List.mem_reverse.mp hc)
  rw [trimChars, dropBlanks_of_plain plain, reversed, List.reverse_reverse]

theorem trimChars_eq (cs : List Char) :
    trimChars cs = (cs.dropWhile isBlank).rdropWhile isBlank :=
  rfl

theorem trimChars_trimChars (cs : List Char) : trimChars (trimChars cs) = trimChars cs := by
  have front : (trimChars cs).dropWhile isBlank = trimChars cs := by
    rw [List.dropWhile_eq_self_iff]
    intro some_
    have lead : trimChars cs <+: cs.dropWhile isBlank := List.rdropWhile_prefix isBlank _
    rw [lead.getElem some_]
    exact List.dropWhile_get_zero_not _ _ _
  rw [trimChars_eq (trimChars cs), front, trimChars_eq cs, List.rdropWhile_idempotent]

theorem trim_trim (s : String) : trim (trim s) = trim s := by
  simp only [trim, String.toList_ofList, trimChars_trimChars]

/-!
# Cutting
-/

variable {sep : Char}

theorem cutAt_append {front : List Char} (h : sep ∉ front) (rest : List Char) :
    cutAt sep (front ++ sep :: rest) = some (front, rest) := by
  have other : ∀ c ∈ front, (c != sep) = true := by
    intro c hc
    rw [bne_iff_ne]
    intro same
    exact h (same ▸ hc)
  rw [cutAt, List.dropWhile_append_of_pos other, List.takeWhile_append_of_pos other]
  simp

theorem pieces_of_not_mem {piece : List Char} (h : sep ∉ piece) : pieces sep piece = [piece] := by
  induction piece with
  | nil => rfl
  | cons c rest ih =>
      rcases List.ne_and_not_mem_of_not_mem_cons h with ⟨other, h⟩
      rw [pieces, if_neg other.symm, ih h]

theorem pieces_append {piece : List Char} (h : sep ∉ piece) (rest : List Char) :
    pieces sep (piece ++ sep :: rest) = piece :: pieces sep rest := by
  induction piece with
  | nil =>
      rw [List.nil_append, pieces, if_pos rfl]
  | cons c more ih =>
      rcases List.ne_and_not_mem_of_not_mem_cons h with ⟨other, h⟩
      rw [List.cons_append, pieces, if_neg other.symm, ih h]

theorem pieces_intercalate {items : List (List Char)} (some_ : items ≠ [])
    (apart : ∀ item ∈ items, sep ∉ item) : pieces sep ([sep].intercalate items) = items := by
  induction items with
  | nil => exact absurd rfl some_
  | cons item rest ih =>
      have head : sep ∉ item := apart item List.mem_cons_self
      cases rest with
      | nil =>
          rw [List.intercalate_singleton]
          exact pieces_of_not_mem head
      | cons next more =>
          rw [List.intercalate_cons_cons, List.append_assoc, List.singleton_append,
            pieces_append head, ih (List.cons_ne_nil next more)]
          exact fun item h => apart item (List.mem_cons_of_mem _ h)

/-!
# Items
-/

structure IsItem (cs : List Char) : Prop where
  some_ : cs ≠ []
  plain : ∀ c ∈ cs, isBlank c = false
  apart : ',' ∉ cs

theorem listItems_intercalate {items : List (List Char)} (h : ∀ item ∈ items, IsItem item) :
    listItems ([','].intercalate items) = items := by
  cases items with
  | nil => rfl
  | cons item rest =>
      have cut := pieces_intercalate (List.cons_ne_nil item rest) fun i hi => (h i hi).apart
      rw [listItems, cut, List.map_congr_left fun i hi => trimChars_of_plain (h i hi).plain,
        List.map_id', List.filter_eq_self]
      intro i hi
      simpa using (h i hi).some_

theorem plain_intercalate {items : List (List Char)} (h : ∀ item ∈ items, IsItem item) :
    ∀ c ∈ [','].intercalate items, isBlank c = false := by
  induction items with
  | nil => simp
  | cons item rest ih =>
      have head := (h item List.mem_cons_self).plain
      cases rest with
      | nil =>
          rw [List.intercalate_singleton]
          exact head
      | cons next more =>
          have comma : ∀ c ∈ [','], isBlank c = false := List.forall_mem_singleton.mpr rfl
          rw [List.intercalate_cons_cons, List.append_assoc]
          refine List.forall_mem_append.mpr ⟨head, List.forall_mem_append.mpr ⟨comma, ?_⟩⟩
          exact ih fun i hi => h i (List.mem_cons_of_mem _ hi)

/-!
# Blanks put around a text
-/

def AllBlank (cs : List Char) : Prop :=
  ∀ c ∈ cs, isBlank c = true

instance (cs : List Char) : Decidable (AllBlank cs) :=
  decidable_of_iff (cs.all isBlank = true) List.all_eq_true

variable {front core back cs : List Char}

theorem trimChars_eq_nil_iff : trimChars cs = [] ↔ AllBlank cs := by
  rw [trimChars_eq, List.rdropWhile_eq_nil_iff]
  constructor
  · intro blank c hc
    rw [← List.takeWhile_append_dropWhile (p := isBlank) (l := cs)] at hc
    rcases List.mem_append.mp hc with hc | hc
    · exact List.mem_takeWhile_imp hc
    · exact blank c hc
  · intro blank c hc
    exact blank c ((List.dropWhile_sublist isBlank).subset hc)

theorem trimChars_blank_append (blank : AllBlank front) (cs : List Char) :
    trimChars (front ++ cs) = trimChars cs := by
  rw [trimChars_eq, List.dropWhile_append_of_pos blank, trimChars_eq]

theorem rdropWhile_append_blank (blank : AllBlank back) (cs : List Char) :
    (cs ++ back).rdropWhile isBlank = cs.rdropWhile isBlank := by
  have reversed : ∀ c ∈ back.reverse, isBlank c = true := fun c hc =>
    blank c (List.mem_reverse.mp hc)
  rw [List.rdropWhile, List.reverse_append, List.dropWhile_append_of_pos reversed,
    List.rdropWhile]

theorem trimChars_append_blank (blank : AllBlank back) (cs : List Char) :
    trimChars (cs ++ back) = trimChars cs := by
  rw [trimChars_eq, trimChars_eq, List.dropWhile_append]
  split
  · rename_i none_
    have nothing : back.dropWhile isBlank = [] := List.dropWhile_eq_nil_iff.mpr blank
    rw [nothing, List.isEmpty_iff.mp none_]
  · exact rdropWhile_append_blank blank _

theorem trimChars_surround (blank : AllBlank front) (blank' : AllBlank back)
    (cs : List Char) : trimChars (front ++ cs ++ back) = trimChars cs := by
  rw [trimChars_append_blank blank', trimChars_blank_append blank]

theorem exists_surround (cs : List Char) :
    ∃ front back, AllBlank front ∧ AllBlank back ∧ cs = front ++ trimChars cs ++ back := by
  refine ⟨cs.takeWhile isBlank, (cs.dropWhile isBlank).rtakeWhile isBlank,
    fun c hc => List.mem_takeWhile_imp hc, fun c hc => List.mem_rtakeWhile_imp hc, ?_⟩
  rw [trimChars_eq, List.append_assoc, List.rdropWhile_append_rtakeWhile,
    List.takeWhile_append_dropWhile]

def Padded (P : List Char → Prop) (cs : List Char) : Prop :=
  ∃ front core back, AllBlank front ∧ AllBlank back ∧ cs = front ++ core ++ back ∧ P core

theorem padded_iff {P : List Char → Prop} (tight : ∀ core, P core → trimChars core = core) :
    Padded P cs ↔ P (trimChars cs) := by
  constructor
  · rintro ⟨front, core, back, blank, blank', rfl, holds⟩
    rw [trimChars_surround blank blank', tight core holds]
    exact holds
  · intro holds
    rcases exists_surround cs with ⟨front, back, blank, blank', same⟩
    exact ⟨front, trimChars cs, back, blank, blank', same, holds⟩

theorem Padded.of_same {P : List Char → Prop} {other : List Char} (padded : Padded P cs)
    (tight : ∀ core, P core → trimChars core = core) (same : trimChars other = trimChars cs) :
    Padded P other := by
  rw [padded_iff tight] at padded ⊢
  rwa [same]

theorem Padded.not_mem {P : List Char → Prop} {c : Char} (padded : Padded P cs)
    (plain : isBlank c = false) (never : ∀ core, P core → c ∉ core) : c ∉ cs := by
  rcases padded with ⟨front, core, back, blank, blank', rfl, holds⟩
  simp only [List.mem_append, not_or]
  refine ⟨⟨?_, never core holds⟩, ?_⟩
  · exact fun mem => Bool.false_ne_true (plain.symm.trans (blank c mem))
  · exact fun mem => Bool.false_ne_true (plain.symm.trans (blank' c mem))

theorem trimChars_dropWhile (cs : List Char) :
    trimChars (cs.dropWhile isBlank) = trimChars cs := by
  rw [trimChars_eq, List.dropWhile_idempotent, trimChars_eq]

theorem trimChars_rdropWhile (cs : List Char) :
    trimChars (cs.rdropWhile isBlank) = trimChars cs := by
  have blank : AllBlank (cs.rtakeWhile isBlank) := fun c hc => List.mem_rtakeWhile_imp hc
  rw [← trimChars_append_blank blank, List.rdropWhile_append_rtakeWhile]

theorem dropBlanks_append_cons (plain : isBlank sep = false) (front after : List Char) :
    dropBlanks (front ++ sep :: after) = dropBlanks front ++ sep :: after := by
  have stop : (sep :: after).dropWhile isBlank = sep :: after :=
    List.dropWhile_cons_of_neg (by simp [plain])
  rw [dropBlanks, List.dropWhile_append, stop, dropBlanks]
  split
  · rename_i none_
    rw [List.isEmpty_iff.mp none_, List.nil_append]
  · rfl

/-- Trimming stops at what is not blank. -/
theorem trimChars_append_cons (plain : isBlank sep = false) (front after : List Char) :
    trimChars (front ++ sep :: after) =
      front.dropWhile isBlank ++ sep :: after.rdropWhile isBlank := by
  have reversed : (dropBlanks front ++ sep :: after).reverse =
      after.reverse ++ sep :: (dropBlanks front).reverse := by
    simp
  rw [trimChars, dropBlanks_append_cons plain, reversed, dropBlanks_append_cons plain]
  simp [List.rdropWhile, dropBlanks]

/-!
# Cutting with blanks around
-/

theorem cutAt_eq_some_iff {after : List Char} :
    cutAt sep cs = some (front, after) ↔ sep ∉ front ∧ cs = front ++ sep :: after := by
  constructor
  · intro h
    have whole := List.takeWhile_append_dropWhile (p := (· != sep)) (l := cs)
    unfold cutAt at h
    split at h
    · cases h
    · rename_i c rest dropped
      cases h
      have stop := List.head?_dropWhile_not (· != sep) cs
      rw [dropped] at stop whole
      cases bne_eq_false_iff_eq.mp stop
      refine ⟨?_, whole.symm⟩
      intro mem
      exact absurd (List.mem_takeWhile_imp mem) (by simp)
  · rintro ⟨apart, rfl⟩
    exact cutAt_append apart after

theorem cutAt_eq_none_iff : cutAt sep cs = none ↔ sep ∉ cs := by
  constructor
  · intro h mem
    rcases List.eq_append_cons_of_mem mem with ⟨front, after, rfl, apart⟩
    rw [cutAt_append apart] at h
    cases h
  · intro apart
    cases h : cutAt sep cs with
    | none => rfl
    | some parts =>
        rcases cutAt_eq_some_iff.mp h with ⟨_, rfl⟩
        simp at apart

theorem pieces_eq_splitOn (sep : Char) (cs : List Char) : pieces sep cs = cs.splitOn sep := by
  rw [List.splitOn_eq_splitOnP]
  induction cs with
  | nil => rw [List.splitOnP_nil, pieces]
  | cons c rest ih =>
      rw [List.splitOnP_cons_eq_if_modifyHead, ← ih, pieces]
      by_cases same : c = sep
      · simp [same]
      · cases more : pieces sep rest with
        | nil => exact absurd more (pieces_ne_nil sep rest)
        | cons piece others => simp [same]

theorem pieces_append_front (apart : sep ∉ front) (cs : List Char) :
    ∃ first others, pieces sep cs = first :: others ∧
      pieces sep (front ++ cs) = (front ++ first) :: others := by
  induction front with
  | nil =>
      cases more : pieces sep cs with
      | nil => exact absurd more (pieces_ne_nil sep cs)
      | cons first others => exact ⟨first, others, rfl, more⟩
  | cons c rest ih =>
      rcases List.ne_and_not_mem_of_not_mem_cons apart with ⟨other, apart⟩
      rcases ih apart with ⟨first, others, cut, longer⟩
      refine ⟨first, others, cut, ?_⟩
      rw [List.cons_append, pieces, if_neg other.symm, longer]
      rfl

theorem pieces_append_back (apart : sep ∉ back) (cs : List Char) :
    ∃ others last, pieces sep cs = others ++ [last] ∧
      pieces sep (cs ++ back) = others ++ [last ++ back] := by
  induction cs with
  | nil => exact ⟨[], [], rfl, pieces_of_not_mem apart⟩
  | cons c rest ih =>
      rcases ih with ⟨others, last, cut, longer⟩
      rw [List.cons_append, pieces, pieces, cut, longer]
      by_cases same : c = sep
      · exact ⟨[] :: others, last, if_pos same, if_pos same⟩
      · cases others with
        | nil => exact ⟨[], c :: last, if_neg same, if_neg same⟩
        | cons piece more => exact ⟨(c :: piece) :: more, last, if_neg same, if_neg same⟩

theorem not_mem_of_allBlank (plain : isBlank sep = false) (blank : AllBlank cs) : sep ∉ cs := by
  intro mem
  rw [blank sep mem] at plain
  cases plain

theorem map_trimChars_pieces (plain : isBlank sep = false) (blank : AllBlank front)
    (blank' : AllBlank back) (cs : List Char) :
    (pieces sep (front ++ cs ++ back)).map trimChars = (pieces sep cs).map trimChars := by
  rcases pieces_append_back (not_mem_of_allBlank plain blank') (front ++ cs) with
    ⟨others, last, cut, longer⟩
  have behind : (pieces sep (front ++ cs ++ back)).map trimChars =
      (pieces sep (front ++ cs)).map trimChars := by
    rw [longer, cut, List.map_append, List.map_append, List.map_singleton, List.map_singleton,
      trimChars_append_blank blank']
  rcases pieces_append_front (not_mem_of_allBlank plain blank) cs with
    ⟨first, others, cut, longer⟩
  rw [behind, longer, cut, List.map_cons, List.map_cons, trimChars_blank_append blank]

theorem listItems_trimChars (cs : List Char) : listItems (trimChars cs) = listItems cs := by
  rcases exists_surround cs with ⟨front, back, blank, blank', same⟩
  have pieces := map_trimChars_pieces (by decide : isBlank ',' = false) blank blank' (trimChars cs)
  rw [← same] at pieces
  rw [listItems, listItems, pieces]

/-!
# Lines

A line without the blanks around it is the same whether the text has carriage returns at the
ends of lines or not.
-/

/-- The lines that say something, without the blanks around them. -/
def contentLines (cs : List Char) : List (List Char) :=
  ((cs.splitOn '\n').map trimChars).filter (fun line => !line.isEmpty)

theorem trimChars_dropReturn (line : List Char) :
    trimChars (dropReturn line) = trimChars line := by
  unfold dropReturn
  split
  · rename_i last
    rcases List.getLast?_eq_some_iff.mp last with ⟨front, rfl⟩
    have blank : AllBlank ['\r'] := by decide
    rw [List.dropLast_concat, trimChars_append_blank blank]
  · rfl

theorem contentLines_eq (cs : List Char) :
    ((lineChars cs).map trimChars).filter (fun line => !line.isEmpty) = contentLines cs := by
  rw [contentLines, ← pieces_eq_splitOn, lineChars]
  rcases List.eq_nil_or_concat (pieces '\n' cs) with none_ | ⟨closed, last, all⟩
  · exact absurd none_ (pieces_ne_nil '\n' cs)
  · have trimmed : (closed.map dropReturn).map trimChars = closed.map trimChars := by
      rw [List.map_map]
      exact List.map_congr_left fun line _ => trimChars_dropReturn line
    rw [all, List.concat_eq_append, List.dropLast_concat, List.getLast?_concat]
    cases last with
    | nil => simp [trimmed, trimChars, dropBlanks]
    | cons c rest => simp [trimmed]

theorem contentLines_append (front cs : List Char) :
    contentLines (front ++ '\n' :: cs) = contentLines front ++ contentLines cs := by
  rw [contentLines, List.splitOn_append_cons_self, List.map_append, List.filter_append]
  rfl

theorem contentLines_intercalate (texts : List (List Char)) :
    contentLines (['\n'].intercalate texts) = texts.flatMap contentLines := by
  induction texts with
  | nil => rfl
  | cons text rest ih =>
      cases rest with
      | nil => simp
      | cons next more =>
          rw [List.intercalate_cons_cons, List.append_assoc, List.singleton_append,
            contentLines_append, ih]
          rfl

theorem not_mem_of_mem_pieces {piece : List Char} (h : piece ∈ pieces sep cs) : sep ∉ piece := by
  induction cs generalizing piece with
  | nil =>
      rw [List.mem_singleton.mp h]
      exact List.not_mem_nil
  | cons c rest ih =>
      rw [pieces] at h
      split at h
      · rcases List.mem_cons.mp h with rfl | h
        · exact List.not_mem_nil
        · exact ih h
      · rename_i other
        cases more : pieces sep rest with
        | nil => exact absurd more (pieces_ne_nil sep rest)
        | cons first others =>
            rw [more] at h ih
            rcases List.mem_cons.mp h with rfl | h
            · rw [List.mem_cons, not_or]
              exact ⟨Ne.symm other, ih List.mem_cons_self⟩
            · exact ih (List.mem_cons_of_mem first h)

theorem trimChars_subset (cs : List Char) : trimChars cs ⊆ cs :=
  ((List.rdropWhile_prefix isBlank _).sublist.trans (List.dropWhile_sublist isBlank)).subset

theorem of_mem_contentLines {line : List Char} (h : line ∈ contentLines cs) :
    line ≠ [] ∧ trimChars line = line ∧ '\n' ∉ line := by
  rw [contentLines, ← pieces_eq_splitOn, List.mem_filter, List.mem_map] at h
  rcases h with ⟨⟨piece, cut, rfl⟩, some_⟩
  refine ⟨by simpa using some_, trimChars_trimChars piece, ?_⟩
  exact fun mem => not_mem_of_mem_pieces cut (trimChars_subset piece mem)

theorem trimChars_of_ends {first last : Char} (plain : isBlank first = false)
    (plain' : isBlank last = false) (cs : List Char) :
    trimChars (first :: cs ++ [last]) = first :: cs ++ [last] := by
  rw [trimChars_eq, List.cons_append, List.dropWhile_cons_of_neg (by simp [plain]),
    ← List.cons_append, List.rdropWhile_concat_neg _ _ _ (by simp [plain'])]

end Text
end FleetControl
