import Mathlib
import FleetControl.Proofs.Port.Rule
import FleetControl.Proofs.Text.Blank

/-!
# How rules may be spelled

A rule is read from its protocol and its port with a separator between them, in two orders, with
blanks around both parts, the protocol in letters of either case, and the port with zeros and a
plus in front.  From nothing else is a rule read.  In a list there may be blank entries, which
mean nothing.
-/

namespace FleetControl

open Text

theorem Text.isBlank_toLower {c : Char} (blank : isBlank c = true) :
    isBlank c.toLower = true := by
  have notUpper : ¬ c.isUpper = true := by
    intro upper
    simp only [Char.isUpper, decide_eq_true_eq] at upper
    have low : 65 ≤ c.toNat := UInt32.le_iff_toNat_le.mp upper.1
    have high : c.toNat ≤ 90 := UInt32.le_iff_toNat_le.mp upper.2
    simp only [isBlank, Bool.or_eq_true, Bool.and_eq_true, decide_eq_true_eq, beq_iff_eq] at blank
    omega
  rw [Char.toLower_eq_of_not_isUpper notUpper]
  exact blank

namespace Port

/-!
# Protocols
-/

def Protocol.IsName (p : Protocol) (cs : List Char) : Prop :=
  cs.map Char.toLower = p.name.toList

namespace Protocol

variable {p : Protocol} {cs : List Char}

theorem IsName.plain (name : p.IsName cs) : ∀ c ∈ cs, isBlank c = false := by
  intro c hc
  have mem : c.toLower ∈ p.name.toList := by
    rw [← name]
    exact List.mem_map_of_mem hc
  rw [← Bool.not_eq_true]
  intro blank
  cases (isBlank_toLower blank).symm.trans (Rule.isBlank_of_mem_name c.toLower mem)

theorem IsName.tight (core : List Char) (name : p.IsName core) : trimChars core = core :=
  trimChars_of_plain name.plain

theorem IsName.not_mem {c : Char} (name : p.IsName cs) (same : c.toLower = c)
    (other : ∀ p : Protocol, c ∉ p.name.toList) : c ∉ cs := by
  intro hc
  refine other p ?_
  rw [← name, ← same]
  exact List.mem_map_of_mem hc

theorem ofWord?_eq_some_iff {word : String} : ofWord? word = some p ↔ word = p.name := by
  unfold ofWord?
  split
  · rename_i tcp
    rw [tcp]
    cases p <;> decide
  · split
    · rename_i udp
      rw [udp]
      cases p <;> decide
    · rename_i notTcp notUdp
      cases p with
      | tcp => exact iff_of_false nofun notTcp
      | udp => exact iff_of_false nofun notUdp

theorem readChars_eq_ok_iff : readChars cs = .ok p ↔ Padded p.IsName cs := by
  have word : ofWord? (lower (String.ofList (trimChars cs))) = some p ↔
      p.IsName (trimChars cs) := by
    rw [ofWord?_eq_some_iff, lower, String.toList_ofList, ← String.toList_inj,
      String.toList_ofList]
    rfl
  rw [padded_iff IsName.tight, ← word]
  unfold readChars
  dsimp only
  split
  · rename_i found
    rw [found, Except.ok.injEq, Option.some_inj]
  · rename_i none_
    rw [none_]
    exact iff_of_false nofun nofun

end Protocol

/-!
# Rules
-/

/-- The text spells the rule, in one of two orders. -/
inductive Rule.Spells (r : Rule) : List Char → Prop
  | nameFirst {name number : List Char} (positive : r.port ≠ 0)
      (protocol : Padded r.protocol.IsName name)
      (port : Padded (Numeral.Writes r.port.toNat) number) : r.Spells (name ++ ':' :: number)
  | portFirst {name number : List Char} (positive : r.port ≠ 0)
      (protocol : Padded r.protocol.IsName name)
      (port : Padded (Numeral.Writes r.port.toNat) number) : r.Spells (number ++ '/' :: name)

namespace Rule

variable {r : Rule} {cs name number : List Char}

theorem plain_of_writes {n : Nat} (writes : Numeral.Writes n cs) :
    ∀ c ∈ cs, isBlank c = false := by
  intro c hc
  rcases writes.of_mem hc with rfl | digit
  · decide
  · exact Numeral.isBlank_of_isDigit digit

theorem tight_of_writes {n : Nat} (core : List Char) (writes : Numeral.Writes n core) :
    trimChars core = core :=
  trimChars_of_plain (plain_of_writes writes)

theorem not_mem_of_writes {n : Nat} {c : Char} (writes : Numeral.Writes n cs) (notPlus : c ≠ '+')
    (noDigit : Numeral.isDigit c = false) : c ∉ cs := by
  intro hc
  rcases writes.of_mem hc with plus | digit
  · exact notPlus plus
  · cases noDigit.symm.trans digit

theorem padded_writes_iff {n : UInt16} :
    Padded (Numeral.Writes n.toNat) cs ↔ Numeral.uint16? (trimChars cs) = some n := by
  rw [padded_iff tight_of_writes, Numeral.uint16?_eq_some_iff]

theorem parts?_eq_some_iff :
    parts? cs = some (name, number) ↔
      ':' ∉ name ∧ cs = name ++ ':' :: number ∨
        ':' ∉ cs ∧ '/' ∉ number ∧ cs = number ++ '/' :: name := by
  unfold parts?
  cases colon : cutAt ':' cs with
  | some parts =>
      rcases parts with ⟨front, after⟩
      rcases cutAt_eq_some_iff.mp colon with ⟨apart, same⟩
      have mem : ':' ∈ cs := by simp [same]
      simp only [Option.some.injEq, mem, not_true_eq_false, false_and, or_false]
      rw [← cutAt_eq_some_iff, colon, Option.some.injEq]
  | none =>
      have apart := cutAt_eq_none_iff.mp colon
      have notFirst : ¬ (':' ∉ name ∧ cs = name ++ ':' :: number) := by
        rintro ⟨_, rfl⟩
        simp at apart
      simp only [notFirst, apart, not_false_eq_true, true_and, false_or]
      rw [← cutAt_eq_some_iff]
      cases cutAt '/' cs with
      | none => exact iff_of_false nofun nofun
      | some parts => simp [Prod.ext_iff, and_comm]

theorem readChars_eq_ok :
    readChars cs = .ok r ↔ ∃ name number, parts? (trimChars cs) = some (name, number) ∧
      r.port ≠ 0 ∧ Padded r.protocol.IsName name ∧
      Padded (Numeral.Writes r.port.toNat) number := by
  unfold readChars
  dsimp only
  cases cut : parts? (trimChars cs) with
  | none => exact iff_of_false nofun (by simp)
  | some parts =>
      rcases parts with ⟨name, number⟩
      simp only [Option.some.injEq, Prod.mk.injEq, and_assoc, exists_and_left, exists_eq_left',
        padded_writes_iff, ← Protocol.readChars_eq_ok_iff]
      cases Numeral.uint16? (trimChars number) with
      | none => exact iff_of_false nofun (by simp)
      | some port =>
          dsimp only
          split
          · rename_i zero
            refine iff_of_false nofun ?_
            rintro ⟨positive, _, same⟩
            exact positive ((Option.some.inj same).symm.trans zero)
          · rename_i positive
            rw [Refusal.map_eq_ok]
            constructor
            · rintro ⟨p, read, rfl⟩
              exact ⟨positive, read, rfl⟩
            · rintro ⟨_, read, same⟩
              cases same
              exact ⟨r.protocol, read, rfl⟩

theorem colon_not_mem_name {p : Protocol} (padded : Padded p.IsName cs) : ':' ∉ cs := by
  refine padded.not_mem (by decide) fun core name => name.not_mem (by decide) ?_
  intro p
  cases p <;> decide

theorem not_mem_number {n : Nat} {c : Char} (padded : Padded (Numeral.Writes n) cs)
    (plain : isBlank c = false) (notPlus : c ≠ '+') (noDigit : Numeral.isDigit c = false) :
    c ∉ cs :=
  padded.not_mem plain fun _ writes => not_mem_of_writes writes notPlus noDigit

/-- A text is read as a rule exactly when it spells the rule. -/
theorem readChars_eq_ok_iff : readChars cs = .ok r ↔ r.Spells cs := by
  rw [readChars_eq_ok]
  constructor
  · rintro ⟨name, number, cut, positive, protocol, port⟩
    rcases exists_surround cs with ⟨front, back, blank, blank', same⟩
    rcases parts?_eq_some_iff.mp cut with ⟨_, parts⟩ | ⟨_, _, parts⟩
    · have whole : cs = (front ++ name) ++ ':' :: (number ++ back) := by
        rw [same, parts]
        simp
      rw [whole]
      exact .nameFirst positive
        (protocol.of_same Protocol.IsName.tight (trimChars_blank_append blank name))
        (port.of_same tight_of_writes (trimChars_append_blank blank' number))
    · have whole : cs = (front ++ number) ++ '/' :: (name ++ back) := by
        rw [same, parts]
        simp
      rw [whole]
      exact .portFirst positive
        (protocol.of_same Protocol.IsName.tight (trimChars_append_blank blank' name))
        (port.of_same tight_of_writes (trimChars_blank_append blank number))
  · intro spells
    cases spells with
    | @nameFirst name number positive protocol port =>
        have protocol : Padded r.protocol.IsName (name.dropWhile isBlank) :=
          protocol.of_same Protocol.IsName.tight (trimChars_dropWhile name)
        refine ⟨name.dropWhile isBlank, number.rdropWhile isBlank,
          parts?_eq_some_iff.mpr (Or.inl ⟨colon_not_mem_name protocol, ?_⟩), positive, protocol,
          port.of_same tight_of_writes (trimChars_rdropWhile number)⟩
        exact trimChars_append_cons (by decide) name number
    | @portFirst name number positive protocol port =>
        have protocol : Padded r.protocol.IsName (name.rdropWhile isBlank) :=
          protocol.of_same Protocol.IsName.tight (trimChars_rdropWhile name)
        have port : Padded (Numeral.Writes r.port.toNat) (number.dropWhile isBlank) :=
          port.of_same tight_of_writes (trimChars_dropWhile number)
        rw [trimChars_append_cons (by decide)]
        refine ⟨name.rdropWhile isBlank, number.dropWhile isBlank,
          parts?_eq_some_iff.mpr (Or.inr ⟨?_, ?_, rfl⟩), positive, protocol, port⟩
        · have left : ':' ∉ number.dropWhile isBlank :=
            not_mem_number port (by decide) (by decide) (by decide)
          simp [left, colon_not_mem_name protocol]
        · exact not_mem_number port (by decide) (by decide) (by decide)

theorem readChars_trimChars (cs : List Char) : readChars (trimChars cs) = readChars cs := by
  unfold readChars
  rw [trimChars_trimChars]

theorem Spells.comma_not_mem (spells : r.Spells cs) : ',' ∉ cs := by
  have name : ∀ {name : List Char}, Padded r.protocol.IsName name → ',' ∉ name := by
    intro name padded
    refine padded.not_mem (by decide) fun core name => name.not_mem (by decide) ?_
    intro p
    cases p <;> decide
  have number : ∀ {number : List Char}, Padded (Numeral.Writes r.port.toNat) number →
      ',' ∉ number :=
    fun padded => not_mem_number padded (by decide) (by decide) (by decide)
  cases spells with
  | nameFirst _ protocol port => simp [name protocol, number port]
  | portFirst _ protocol port => simp [name protocol, number port]

theorem spells_textChars (positive : r.port ≠ 0) : r.Spells r.textChars :=
  readChars_eq_ok_iff.mp (readChars_textChars positive)

end Rule

/-!
# Lists
-/

inductive Entries : List (List Char) → List Rule → Prop
  | nil : Entries [] []
  | blank {entry : List Char} {entries : List (List Char)} {rules : List Rule}
      (blank : AllBlank entry) (others : Entries entries rules) :
      Entries (entry :: entries) rules
  | rule {entry : List Char} {entries : List (List Char)} {r : Rule} {rules : List Rule}
      (spells : r.Spells entry) (others : Entries entries rules) :
      Entries (entry :: entries) (r :: rules)

/-- The text is made of entries for these rules, with commas between them. -/
def SpellsList (rules : List Rule) (cs : List Char) : Prop :=
  ∃ entries, cs = [','].intercalate entries ∧ Entries entries rules

variable {entries : List (List Char)} {rules : List Rule} {cs : List Char}

theorem Entries.comma_not_mem (h : Entries entries rules) : ∀ entry ∈ entries, ',' ∉ entry := by
  induction h with
  | nil => simp
  | blank blank _ ih =>
      exact List.forall_mem_cons.mpr ⟨not_mem_of_allBlank (by decide) blank, ih⟩
  | rule spells _ ih => exact List.forall_mem_cons.mpr ⟨spells.comma_not_mem, ih⟩

theorem spellsList_iff : SpellsList rules cs ↔ Entries (cs.splitOn ',') rules := by
  constructor
  · rintro ⟨entries, rfl, spelled⟩
    cases entries with
    | nil =>
        cases spelled
        exact .blank (by simp [AllBlank]) .nil
    | cons entry rest =>
        rw [List.splitOn_intercalate ',' spelled.comma_not_mem (List.cons_ne_nil entry rest)]
        exact spelled
  · intro spelled
    exact ⟨cs.splitOn ',', (List.intercalate_splitOn ',').symm, spelled⟩

theorem Entries.of_mem (h : Entries entries rules) {entry : List Char} (mem : entry ∈ entries)
    (some_ : ¬ AllBlank entry) : ∃ r ∈ rules, r.Spells entry := by
  induction h with
  | nil => cases mem
  | blank blank _ ih =>
      rcases List.mem_cons.mp mem with rfl | mem
      · exact absurd blank some_
      · exact ih mem
  | @rule _ _ r _ spells _ ih =>
      rcases List.mem_cons.mp mem with rfl | mem
      · exact ⟨r, List.mem_cons_self, spells⟩
      · rcases ih mem with ⟨r, hr, spells⟩
        exact ⟨r, List.mem_cons_of_mem _ hr, spells⟩

theorem Rule.Spells.not_blank {r : Rule} (spells : r.Spells cs) : ¬ AllBlank cs := by
  intro blank
  have sep : ∀ {c : Char}, isBlank c = false → c ∉ cs := fun plain =>
    not_mem_of_allBlank plain blank
  cases spells with
  | nameFirst _ _ _ => exact sep (c := ':') (by decide) (by simp)
  | portFirst _ _ _ => exact sep (c := '/') (by decide) (by simp)

theorem Entries.cons_blank_iff {entry : List Char} (blank : AllBlank entry) :
    Entries (entry :: entries) rules ↔ Entries entries rules := by
  constructor
  · intro h
    cases h with
    | blank _ others => exact others
    | rule spells _ => exact absurd blank spells.not_blank
  · exact .blank blank

theorem Entries.cons_iff {entry : List Char} (some_ : ¬ AllBlank entry) :
    Entries (entry :: entries) rules ↔
      ∃ r others, r.Spells entry ∧ Entries entries others ∧ rules = r :: others := by
  constructor
  · intro h
    cases h with
    | blank blank _ => exact absurd blank some_
    | @rule _ _ r others spells spelled => exact ⟨r, others, spells, spelled, rfl⟩
  · rintro ⟨r, others, spells, spelled, rfl⟩
    exact .rule spells spelled

theorem entries_iff :
    List.Forall₂ (fun item r => Rule.readChars item = .ok r)
      ((entries.map trimChars).filter (fun item => !item.isEmpty)) rules ↔
    Entries entries rules := by
  induction entries generalizing rules with
  | nil =>
      rw [List.map_nil, List.filter_nil, List.forall₂_nil_left_iff]
      constructor
      · rintro rfl
        exact .nil
      · intro h
        cases h
        rfl
  | cons entry rest ih =>
      rw [List.map_cons]
      by_cases blank : AllBlank entry
      · have dropped : (!(trimChars entry).isEmpty) = false := by
          rw [trimChars_eq_nil_iff.mpr blank]
          rfl
        rw [List.filter_cons, dropped, if_neg Bool.false_ne_true, ih, Entries.cons_blank_iff blank]
      · have kept : (!(trimChars entry).isEmpty) = true := by
          simpa [trimChars_eq_nil_iff] using blank
        rw [List.filter_cons, kept, if_pos rfl, List.forall₂_cons_left_iff,
          Entries.cons_iff blank]
        refine exists_congr fun r => exists_congr fun others => ?_
        rw [Rule.readChars_trimChars, Rule.readChars_eq_ok_iff, ih]

end Port
end FleetControl
