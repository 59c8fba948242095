import FleetControl.Json.Draft
import FleetControl.Json.Render
import FleetControl.Proofs.Decimal.Layout

/-!
# Documents read back

Every text is read back from its quoted form, whatever follows the closing quote.  So an
indented text is read back as the document that was written, up to its numbers: each stands for
what its own numeral gives.
-/

namespace FleetControl
namespace Json

namespace Draft

/-!
# Texts
-/

theorem readText_plain {r : Reading} {c : Char} {cs : List Char} (quote : c ≠ '"')
    (slash : c ≠ '\\') (high : ¬ c.toNat < 0x20) :
    readText r (c :: cs) = readText (r.push c) cs := by
  rw [readText.eq_5 r c cs quote (fun _ _ _ _ _ h _ => slash h) (fun _ _ h _ => slash h)]
  simp [slash, high]

theorem readText_escaped {r : Reading} {letter c : Char} {cs : List Char}
    (h : escaped? letter = some c) :
    readText r ('\\' :: letter :: cs) = readText (r.push c) cs := by
  have unicode : letter ≠ 'u' := by
    intro heq
    subst heq
    simp [escaped?] at h
  rw [readText.eq_4 r letter cs (fun _ _ _ _ _ heq _ => unicode heq), h]

theorem unit?_control {n : Nat} (h : n < 0x20) :
    unit? '0' '0' (Text.Hex.digit (n / 16)) (Text.Hex.digit (n % 16)) = some n := by
  have all : ∀ k : Fin 0x20, unit? '0' '0' (Text.Hex.digit (k.val / 16))
      (Text.Hex.digit (k.val % 16)) = some k.val := by decide
  exact all ⟨n, h⟩

theorem readText_control {r : Reading} {c : Char} {cs : List Char} (h : c.toNat < 0x20) :
    readText r ('\\' :: 'u' :: '0' :: '0' :: Text.Hex.digit (c.toNat / 16) ::
      Text.Hex.digit (c.toNat % 16) :: cs) = readText (r.push c) cs := by
  rw [readText, unit?_control h]
  have upper : isUpper c.toNat = false := by
    simp [isUpper]
    omega
  have lower : isLower c.toNat = false := by
    simp [isLower]
    omega
  simp [Reading.pushUnit, upper, lower, Char.ofNat_toNat]

theorem readText_escape (r : Reading) (c : Char) (cs : List Char) :
    readText r (escape c ++ cs) = readText (r.push c) cs := by
  unfold escape
  split
  · exact readText_escaped rfl
  · exact readText_escaped rfl
  · exact readText_escaped rfl
  · exact readText_escaped rfl
  · exact readText_escaped rfl
  · exact readText_escaped rfl
  · exact readText_escaped rfl
  · split
    · rename_i low
      exact readText_control low
    · rename_i high
      exact readText_plain (by assumption) (by assumption) high

theorem readText_flatMap_escape (r : Reading) (s rest : List Char) :
    readText r (s.flatMap escape ++ '"' :: rest) =
      some ((s.foldl Reading.push r).result, rest) := by
  induction s generalizing r with
  | nil =>
      rfl
  | cons c s ih =>
      rw [List.flatMap_cons, List.append_assoc, readText_escape, ih]
      rfl

theorem foldl_push {r : Reading} (upper : r.upper = none) (sound : r.sound = true)
    (s : List Char) :
    s.foldl Reading.push r = { done := s.reverse ++ r.done, upper := none, sound := true } := by
  induction s generalizing r with
  | nil =>
      cases r
      simp_all
  | cons c s ih =>
      rw [List.foldl_cons, ih rfl (by simp [Reading.push, upper, sound])]
      simp [Reading.push]

theorem readText_quoted (s : String) (rest : List Char) :
    readText .start (s.toList.flatMap escape ++ '"' :: rest) = some (some s, rest) := by
  rw [readText_flatMap_escape, foldl_push rfl rfl]
  simp [Reading.result, Reading.start]

/-!
# What is read back
-/

open Text

def rereadNumber (n : Number) : Draft :=
  (readScalar (numeral n)).1

mutual

/-- What the text of a document gives. -/
def reread : Json → Draft
  | .null => .null
  | .bool b => .bool b
  | .number n => rereadNumber n
  | .text s => .text (some s)
  | .array items => .array (rereadItems items) true
  | .object fields => .object (rereadFields fields) true

def rereadItems : List Json → List Draft
  | [] => []
  | item :: rest => reread item :: rereadItems rest

def rereadFields : List (String × Json) → List (String × Draft)
  | [] => []
  | (key, item) :: rest => (key, reread item) :: rereadFields rest

end

/-!
# First characters
-/

def StartsNumeral (c : Char) : Prop :=
  c = '-' ∨ Numeral.isDigit c = true

theorem StartsNumeral.ne {c d : Char} (h : StartsNumeral c) (minus : d ≠ '-')
    (digit : Numeral.isDigit d = false) : c ≠ d := by
  intro heq
  subst heq
  rcases h with h | h
  · exact minus h
  · rw [digit] at h
    cases h

theorem StartsNumeral.isSpace {c : Char} (h : StartsNumeral c) : isSpace c = false := by
  have blank := h.ne (d := ' ') (by decide) (by decide)
  have feed := h.ne (d := '\n') (by decide) (by decide)
  have tab := h.ne (d := '\t') (by decide) (by decide)
  have back := h.ne (d := '\r') (by decide) (by decide)
  simp [Draft.isSpace, blank, feed, tab, back]

theorem startsNumeral_chars {l : Literal} (sound : l.IsSound) :
    ∃ c cs, l.chars = c :: cs ∧ StartsNumeral c := by
  let tail := Literal.fractionChars l.fraction ++ Literal.exponentChars l.exponent
  cases hneg : l.negative with
  | true =>
      refine ⟨'-', l.whole ++ tail, ?_, Or.inl rfl⟩
      simp [Literal.chars, hneg, tail]
  | false =>
      rcases List.exists_cons_of_ne_nil sound.whole.1 with ⟨d, more, hwhole⟩
      have digit : Numeral.isDigit d = true := sound.whole.2 d (by rw [hwhole]; simp)
      refine ⟨d, more ++ tail, ?_, Or.inr digit⟩
      simp [Literal.chars, hneg, hwhole, tail]

theorem readScalar_of_startsNumeral {c : Char} {cs : List Char} (h : StartsNumeral c) :
    readScalar (c :: cs) =
      match Literal.take? (c :: cs) with
      | some (l, rest) => (.number l.number?, some rest)
      | none => (.broken, none) := by
  have n := h.ne (d := 'n') (by decide) (by decide)
  have t := h.ne (d := 't') (by decide) (by decide)
  have f := h.ne (d := 'f') (by decide) (by decide)
  have q := h.ne (d := '"') (by decide) (by decide)
  unfold readScalar
  split
  · rename_i heq
    exact absurd (List.cons.inj heq).1 n
  · rename_i heq
    exact absurd (List.cons.inj heq).1 t
  · rename_i heq
    exact absurd (List.cons.inj heq).1 f
  · rename_i heq
    exact absurd (List.cons.inj heq).1 q
  · rfl

/-!
# Scalars
-/

theorem readScalar_chars {l : Literal} {rest : List Char} (sound : l.IsSound)
    (ends : Literal.Ends rest) :
    readScalar (l.chars ++ rest) = (.number l.number?, some rest) := by
  rcases startsNumeral_chars sound with ⟨c, cs, hchars, starts⟩
  have taken := Literal.take?_chars sound ends
  rw [hchars, List.cons_append] at taken ⊢
  rw [readScalar_of_startsNumeral starts, taken]

/-- A number is written by the rules of numerals, or has no numeral at all. -/
theorem numeral_cases (n : Number) :
    (∃ l : Literal, l.IsSound ∧ l.chars = numeral n) ∨ numeral n = "null".toList := by
  cases n with
  | whole value fits =>
      exact Or.inl ⟨_, Literal.isSound_ofWhole value, Literal.chars_ofWhole value fits⟩
  | real value =>
      simp only [numeral]
      split
      · exact Or.inl (Decimal.exists_literal_ofFloat value)
      · exact Or.inr rfl

theorem readScalar_literal {l : Literal} (sound : l.IsSound) :
    readScalar l.chars = (.number l.number?, some []) := by
  have whole := readScalar_chars sound (show Literal.Ends [] from trivial)
  rw [List.append_nil] at whole
  exact whole

theorem readScalar_numeral (n : Number) {rest : List Char} (ends : Literal.Ends rest) :
    readScalar (numeral n ++ rest) = (rereadNumber n, some rest) := by
  unfold rereadNumber
  rcases numeral_cases n with ⟨l, sound, hchars⟩ | null
  · rw [← hchars, readScalar_chars sound ends, readScalar_literal sound]
  · rw [null]
    rfl

theorem rereadNumber_whole (value : Int)
    (fits : -0x8000000000000000 ≤ value ∧ value < 0x10000000000000000) :
    rereadNumber (.whole value fits) = .number (some (.whole value fits)) := by
  rw [rereadNumber, ← Literal.chars_ofWhole value fits,
    readScalar_literal (Literal.isSound_ofWhole value), Literal.number?_ofWhole value fits]

theorem numeral_head (n : Number) :
    ∃ c cs, numeral n = c :: cs ∧ isSpace c = false ∧ c ≠ '[' ∧ c ≠ '\x7b' ∧ c ≠ ']' := by
  rcases numeral_cases n with ⟨l, sound, hchars⟩ | null
  · rcases startsNumeral_chars sound with ⟨c, cs, hhead, starts⟩
    exact ⟨c, cs, hchars.symm.trans hhead, starts.isSpace, starts.ne (by decide) (by decide),
      starts.ne (by decide) (by decide), starts.ne (by decide) (by decide)⟩
  · exact ⟨'n', _, null, by decide, by decide, by decide, by decide⟩

/-!
# Blanks
-/

theorem skipSpace_of_head {c : Char} {cs : List Char} (h : isSpace c = false) :
    skipSpace (c :: cs) = c :: cs := by
  simp [skipSpace, h]

@[simp] theorem skipSpace_newLine (depth : Nat) (cs : List Char) :
    skipSpace (newLine depth ++ cs) = skipSpace cs := by
  have blanks : ∀ c ∈ newLine depth, isSpace c = true := by
    intro c hc
    rcases List.mem_cons.mp hc with feed | blank
    · rw [feed]
      rfl
    · rw [(List.mem_replicate.mp blank).2]
      rfl
  exact List.dropWhile_append_of_pos blanks

theorem readItem_newLine (fuel depth : Nat) (cs : List Char) :
    readItem fuel (newLine depth ++ cs) = readItem fuel cs := by
  cases fuel with
  | zero => rfl
  | succ fuel => simp only [readItem, skipSpace_newLine]

theorem readItem_blank (fuel : Nat) (cs : List Char) :
    readItem fuel (' ' :: cs) = readItem fuel cs := by
  cases fuel with
  | zero => rfl
  | succ fuel =>
      have skip : skipSpace (' ' :: cs) = skipSpace cs := rfl
      simp only [readItem, skip]

theorem readMembers_newLine (fuel depth : Nat) (cs : List Char) :
    readMembers fuel (newLine depth ++ cs) = readMembers fuel cs := by
  cases fuel with
  | zero => rfl
  | succ fuel => simp only [readMembers, skipSpace_newLine]

theorem ends_newLine (depth : Nat) (cs : List Char) : Literal.Ends (newLine depth ++ cs) := by
  refine ⟨?_, ?_, ?_, ?_⟩ <;> decide

theorem ends_comma (cs : List Char) : Literal.Ends (',' :: cs) := by
  refine ⟨?_, ?_, ?_, ?_⟩ <;> decide

/-!
# Items
-/

theorem readItem_scalar {c : Char} {cs : List Char} (fuel : Nat) (space : isSpace c = false)
    (square : c ≠ '[') (curly : c ≠ '\x7b') :
    readItem (fuel + 1) (c :: cs) = readScalar (c :: cs) := by
  rw [readItem, skipSpace_of_head space]
  split
  · rename_i heq
    exact absurd (List.cons.inj heq).1 square
  · rename_i heq
    exact absurd (List.cons.inj heq).1 curly
  · rfl

theorem readItem_numeral (fuel : Nat) (n : Number) {rest : List Char}
    (ends : Literal.Ends rest) :
    readItem (fuel + 1) (numeral n ++ rest) = (rereadNumber n, some rest) := by
  rcases numeral_head n with ⟨c, cs, hhead, space, square, curly, _⟩
  have scalar := readScalar_numeral n ends
  rw [hhead, List.cons_append] at scalar ⊢
  rw [readItem_scalar fuel space square curly, scalar]

theorem readItem_quote (fuel : Nat) (s : String) (rest : List Char) :
    readItem (fuel + 1) (quote s ++ rest) = (.text (some s), some rest) := by
  rw [quote, List.cons_append, List.append_assoc,
    readItem_scalar fuel (by decide) (by decide) (by decide)]
  simp only [readScalar, List.singleton_append, readText_quoted]

theorem prettyChars_head (doc : Json) (depth : Nat) :
    ∃ c cs, doc.prettyChars depth = c :: cs ∧ isSpace c = false ∧ c ≠ ']' := by
  cases doc with
  | null => exact ⟨'n', _, rfl, by decide, by decide⟩
  | bool b =>
      cases b with
      | true => exact ⟨'t', _, rfl, by decide, by decide⟩
      | false => exact ⟨'f', _, rfl, by decide, by decide⟩
  | number n =>
      rcases numeral_head n with ⟨c, cs, hhead, space, _, _, close⟩
      exact ⟨c, cs, hhead, space, close⟩
  | text s => exact ⟨'"', _, rfl, by decide, by decide⟩
  | array items =>
      cases items with
      | nil => exact ⟨'[', _, rfl, by decide, by decide⟩
      | cons item rest => exact ⟨'[', _, rfl, by decide, by decide⟩
  | object fields =>
      cases fields with
      | nil => exact ⟨'\x7b', _, rfl, by decide, by decide⟩
      | cons field rest => exact ⟨'\x7b', _, rfl, by decide, by decide⟩

/-!
# Documents

The fuel need only reach for the characters of an item, since each level of an item takes
at least one of them.
-/

theorem prettyItems_head (depth : Nat) (item : Json) (items : List Json) :
    ∃ c tail, prettyItems depth (item :: items) = newLine depth ++ c :: tail ∧
      isSpace c = false ∧ c ≠ ']' := by
  rcases prettyChars_head item depth with ⟨c, cs, hhead, space, close⟩
  cases items with
  | nil =>
      refine ⟨c, cs, ?_, space, close⟩
      rw [prettyItems, hhead]
  | cons next more =>
      refine ⟨c, cs ++ ',' :: prettyItems depth (next :: more), ?_, space, close⟩
      rw [prettyItems, hhead, List.append_assoc, List.cons_append]
      intro h
      cases h

theorem prettyFields_head (depth : Nat) (field : String × Json) (fields : List (String × Json)) :
    ∃ tail, prettyFields depth (field :: fields) = newLine depth ++ '"' :: tail := by
  rcases field with ⟨key, item⟩
  cases fields with
  | nil => exact ⟨_, by rw [prettyFields, quote, List.append_assoc, List.cons_append]⟩
  | cons next more =>
      exact ⟨_, by rw [prettyFields, quote, List.append_assoc, List.cons_append]; simp⟩

theorem readItem_array (fuel depth : Nat) (item : Json) (items : List Json) {rest : List Char}
    (h : readItems fuel
      (prettyItems (depth + 1) (item :: items) ++ (newLine depth ++ ']' :: rest)) =
        (rereadItems (item :: items), some rest)) :
    readItem (fuel + 1) ((Json.array (item :: items)).prettyChars depth ++ rest) =
      (reread (.array (item :: items)), some rest) := by
  rcases prettyItems_head (depth + 1) item items with ⟨c, tail, hitems, space, close⟩
  simp only [prettyChars, List.cons_append, List.append_assoc, List.nil_append]
  rw [readItem, skipSpace_of_head (by decide)]
  simp only
  have spaces : skipSpace (prettyItems (depth + 1) (item :: items) ++
      (newLine depth ++ ']' :: rest)) = c :: (tail ++ (newLine depth ++ ']' :: rest)) := by
    rw [hitems, List.append_assoc, skipSpace_newLine, List.cons_append, skipSpace_of_head space]
  rw [spaces]
  split
  · rename_i heq
    exact absurd (List.cons.inj heq).1 close
  · rw [h]
    rfl

theorem readItem_object (fuel depth : Nat) (field : String × Json)
    (fields : List (String × Json)) {rest : List Char}
    (h : readMembers fuel
      (prettyFields (depth + 1) (field :: fields) ++ (newLine depth ++ '\x7d' :: rest)) =
        (rereadFields (field :: fields), some rest)) :
    readItem (fuel + 1) ((Json.object (field :: fields)).prettyChars depth ++ rest) =
      (reread (.object (field :: fields)), some rest) := by
  rcases prettyFields_head (depth + 1) field fields with ⟨tail, hfields⟩
  simp only [prettyChars, List.cons_append, List.append_assoc, List.nil_append]
  rw [readItem, skipSpace_of_head (by decide)]
  simp only
  have spaces : skipSpace (prettyFields (depth + 1) (field :: fields) ++
      (newLine depth ++ '\x7d' :: rest)) = '"' :: (tail ++ (newLine depth ++ '\x7d' :: rest)) := by
    rw [hfields, List.append_assoc, skipSpace_newLine, List.cons_append,
      skipSpace_of_head (by decide)]
  rw [spaces, h]
  rfl

/-- Behind a member with an item that is read there are other members, or no more of them. -/
theorem readMembers_member (fuel depth : Nat) (key : String) {cs rest : List Char} {item : Draft}
    (h : readItem fuel cs = (item, some rest)) :
    (∀ more, skipSpace rest = ',' :: more →
      readMembers (fuel + 1) (newLine depth ++ (quote key ++ ':' :: ' ' :: cs)) =
        ((key, item) :: (readMembers fuel more).1, (readMembers fuel more).2)) ∧
    ∀ more, skipSpace rest = '\x7d' :: more →
      readMembers (fuel + 1) (newLine depth ++ (quote key ++ ':' :: ' ' :: cs)) =
        ([(key, item)], some more) := by
  rw [readMembers_newLine, quote, List.cons_append, List.append_assoc, List.singleton_append,
    readMembers, skipSpace_of_head (by decide)]
  simp only [readText_quoted]
  rw [skipSpace_of_head (by decide)]
  constructor
  · intro more next
    simp only [readItem_blank, h, next]
  · intro more next
    simp only [readItem_blank, h, next]

mutual

theorem readItem_pretty (doc : Json) (depth fuel : Nat)
    (enough : (doc.prettyChars depth).length ≤ fuel) {rest : List Char}
    (ends : Literal.Ends rest) :
    readItem fuel (doc.prettyChars depth ++ rest) = (reread doc, some rest) := by
  rcases prettyChars_head doc depth with ⟨c, cs, hhead, _, _⟩
  have positive : 0 < (doc.prettyChars depth).length := by simp [hhead]
  rcases Nat.exists_eq_succ_of_ne_zero (Nat.ne_of_gt (Nat.lt_of_lt_of_le positive enough)) with
    ⟨fuel, rfl⟩
  cases doc with
  | null => rfl
  | bool b =>
      cases b with
      | true => rfl
      | false => rfl
  | number n => exact readItem_numeral fuel n ends
  | text s => exact readItem_quote fuel s rest
  | array items =>
      cases items with
      | nil => rfl
      | cons item items =>
          apply readItem_array
          apply readItems_pretty item items
          simp only [prettyChars, List.length_cons, List.length_append] at enough
          omega
  | object fields =>
      cases fields with
      | nil => rfl
      | cons field fields =>
          apply readItem_object
          apply readMembers_pretty field fields
          simp only [prettyChars, List.length_cons, List.length_append] at enough
          omega
termination_by fuel

theorem readItems_pretty (item : Json) (items : List Json) (depth inner fuel : Nat)
    (enough : (prettyItems depth (item :: items)).length ≤ fuel) (rest : List Char) :
    readItems fuel (prettyItems depth (item :: items) ++ (newLine inner ++ ']' :: rest)) =
      (rereadItems (item :: items), some rest) := by
  cases items with
  | nil =>
      simp only [prettyItems, List.length_append] at enough
      have feed : 0 < (newLine depth).length := by simp [newLine]
      rcases Nat.exists_eq_succ_of_ne_zero (n := fuel) (by omega) with ⟨fuel, rfl⟩
      have first := readItem_pretty item depth fuel (by omega)
        (ends_newLine inner (']' :: rest))
      rw [prettyItems, List.append_assoc, readItems, readItem_newLine, first]
      simp only [skipSpace_newLine]
      rfl
  | cons next items =>
      rw [prettyItems] at enough ⊢
      · simp only [List.length_append, List.length_cons] at enough
        have feed : 0 < (newLine depth).length := by simp [newLine]
        rcases Nat.exists_eq_succ_of_ne_zero (n := fuel) (by omega) with ⟨fuel, rfl⟩
        have others := readItems_pretty next items depth inner fuel (by omega) rest
        have first := readItem_pretty item depth fuel (by omega)
          (ends_comma (prettyItems depth (next :: items) ++ (newLine inner ++ ']' :: rest)))
        rw [List.append_assoc, List.append_assoc, List.cons_append, readItems,
          readItem_newLine, first]
        simp only [skipSpace_of_head (c := ',') (by decide), others]
        rfl
      · intro h
        cases h
      · intro h
        cases h
termination_by fuel

theorem readMembers_pretty (field : String × Json) (fields : List (String × Json))
    (depth inner fuel : Nat) (enough : (prettyFields depth (field :: fields)).length ≤ fuel)
    (rest : List Char) :
    readMembers fuel (prettyFields depth (field :: fields) ++ (newLine inner ++ '\x7d' :: rest)) =
      (rereadFields (field :: fields), some rest) := by
  rcases field with ⟨key, item⟩
  have feed : 0 < (newLine depth).length := by simp [newLine]
  cases fields with
  | nil =>
      simp only [prettyFields, List.length_append, List.length_cons] at enough
      rcases Nat.exists_eq_succ_of_ne_zero (n := fuel) (by omega) with ⟨fuel, rfl⟩
      have first := readItem_pretty item depth fuel (by omega)
        (ends_newLine inner ('\x7d' :: rest))
      rw [prettyFields, List.append_assoc, List.append_assoc, List.cons_append, List.cons_append,
        (readMembers_member fuel depth key first).2 rest (skipSpace_newLine _ _)]
      rfl
  | cons next fields =>
      rw [prettyFields] at enough ⊢
      · simp only [List.length_append, List.length_cons] at enough
        rcases Nat.exists_eq_succ_of_ne_zero (n := fuel) (by omega) with ⟨fuel, rfl⟩
        have others := readMembers_pretty next fields depth inner fuel (by omega) rest
        have first := readItem_pretty item depth fuel (by omega)
          (ends_comma (prettyFields depth (next :: fields) ++ (newLine inner ++ '\x7d' :: rest)))
        rw [List.append_assoc, List.append_assoc, List.cons_append, List.cons_append,
          List.append_assoc, List.cons_append,
          (readMembers_member fuel depth key first).1 _ (skipSpace_of_head (by decide)), others]
        rfl
      · intro h
        cases h
      · intro h
        cases h
termination_by fuel

end

theorem read_pretty (doc : Json) : read doc.pretty.toList = (reread doc, true) := by
  have whole := readItem_pretty doc 0 (2 * (doc.prettyChars 0).length + 2) (by omega)
    (show Literal.Ends [] from trivial)
  rw [List.append_nil] at whole
  rw [pretty, String.toList_ofList, read, whole]
  rfl

end Draft
end Json
end FleetControl
