import FleetControl.Port.Rule
import FleetControl.Proofs.Refusal
import FleetControl.Proofs.Text.Blank
import FleetControl.Proofs.Text.Numeral

/-!
# Rules read back

No rule that is read has port zero.  All other rules are read as they are written, one by
one or in a list.
-/

namespace FleetControl
namespace Port
namespace Rule

open Text

theorem isBlank_of_mem_name {p : Protocol} : ∀ c ∈ p.name.toList, isBlank c = false := by
  have none_ : p.name.toList.all (fun c => !isBlank c) = true := by
    cases p <;> rfl
  simpa using none_

theorem isBlank_of_mem_textChars {r : Rule} {c : Char} (h : c ∈ r.textChars) :
    isBlank c = false := by
  rcases List.mem_append.mp h with h | h
  · exact isBlank_of_mem_name c h
  · rcases List.mem_cons.mp h with rfl | h
    · decide
    · exact Numeral.isBlank_of_isDigit (Numeral.isDigit_of_mem_ofNat h)

theorem comma_not_mem_textChars (r : Rule) : ',' ∉ r.textChars := by
  intro h
  rcases List.mem_append.mp h with h | h
  · revert h
    cases r.protocol <;> decide
  · rcases List.mem_cons.mp h with h | h
    · cases h
    · cases Numeral.isDigit_of_mem_ofNat h

theorem isItem_textChars (r : Rule) : IsItem r.textChars where
  some_ := by simp [textChars]
  plain := fun _ h => isBlank_of_mem_textChars h
  apart := r.comma_not_mem_textChars

theorem readChars_name (p : Protocol) : Protocol.readChars p.name.toList = .ok p := by
  cases p <;> rfl

theorem readChars_textChars {r : Rule} (positive : r.port ≠ 0) :
    readChars r.textChars = .ok r := by
  have colon : ':' ∉ r.protocol.name.toList := by
    cases r.protocol <;> decide
  have digits : trimChars (Numeral.ofNat r.port.toNat) = Numeral.ofNat r.port.toNat :=
    trimChars_of_plain fun c hc =>
      Numeral.isBlank_of_isDigit (Numeral.isDigit_of_mem_ofNat hc)
  have cut : parts? r.textChars =
      some (r.protocol.name.toList, Numeral.ofNat r.port.toNat) := by
    rw [parts?, textChars, cutAt_append colon]
  rw [readChars, trimChars_of_plain fun c hc => isBlank_of_mem_textChars hc]
  simp only [cut, digits, Numeral.uint16?_ofNat, positive, if_false, readChars_name]
  rfl

@[simp] theorem read_text {r : Rule} (positive : r.port ≠ 0) : read r.text = .ok r := by
  rw [read, text, String.toList_ofList, readChars_textChars positive]

theorem positive_of_readChars {cs : List Char} {r : Rule} (h : readChars cs = .ok r) :
    r.port ≠ 0 := by
  unfold readChars at h
  simp only at h
  split at h
  · cases h
  · split at h
    · cases h
    · rename_i port _
      split at h
      · cases h
      · rename_i positive
        rcases Refusal.map_eq_ok.mp h with ⟨p, _, rfl⟩
        exact positive

end Rule

open Text

theorem toList_listText (rules : List Rule) :
    (listText rules).toList = [','].intercalate (rules.map Rule.textChars) := by
  rw [listText, joined, String.toList_intercalate, List.map_map]
  congr 2
  funext r
  exact String.toList_ofList

theorem trim_listText (rules : List Rule) : trim (listText rules) = listText rules := by
  rw [trim, toList_listText, trimChars_of_plain, ← toList_listText, String.ofList_toList]
  refine plain_intercalate fun item h => ?_
  rcases List.mem_map.mp h with ⟨r, _, rfl⟩
  exact r.isItem_textChars

theorem listItems_listText (rules : List Rule) :
    (listItems (listText rules).toList).map String.ofList = rules.map Rule.text := by
  rw [toList_listText, listItems_intercalate, List.map_map]
  · rfl
  · intro item h
    rcases List.mem_map.mp h with ⟨r, _, rfl⟩
    exact r.isItem_textChars

theorem listText_ne_empty {rules : List Rule} (some_ : rules ≠ []) : listText rules ≠ "" := by
  intro h
  have items := listItems_listText rules
  rw [h] at items
  exact some_ (List.map_eq_nil_iff.mp items.symm)

end Port
end FleetControl
