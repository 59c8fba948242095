import Mathlib
import FleetControl.Text.Ascii

/-!
# Letter case that is ignored

Two texts are the same but for the case of their letters exactly when they are the same in
capitals.  A character that is no letter stays where it is.
-/

namespace FleetControl
namespace Text

theorem lower_upper (s : String) : lower (upper s) = lower s := by
  rw [lower, upper, String.toList_ofList, List.map_map, lower]
  exact congrArg String.ofList (List.map_congr_left fun c _ => c.toLower_toUpper_eq_toLower)

theorem upper_lower (s : String) : upper (lower s) = upper s := by
  rw [upper, lower, String.toList_ofList, List.map_map, upper]
  exact congrArg String.ofList (List.map_congr_left fun c _ => c.toUpper_toLower_eq_toUpper)

theorem sameIgnoringCase_iff {a b : String} :
    sameIgnoringCase a b = true ↔ upper a = upper b := by
  rw [sameIgnoringCase, beq_iff_eq]
  constructor
  · intro same
    rw [← upper_lower a, same, upper_lower]
  · intro same
    rw [← lower_upper a, same, lower_upper]

theorem mem_of_mem_upper {c : Char} {s : String} (other : c.isAlpha = false)
    (h : c ∈ (upper s).toList) : c ∈ s.toList := by
  rw [upper, String.toList_ofList] at h
  rcases List.mem_map.mp h with ⟨d, hd, rfl⟩
  rw [Char.isAlpha_toUpper_eq_isAlpha, Char.isAlpha, Bool.or_eq_false_iff] at other
  rwa [Char.toUpper_eq_of_not_isLower (by rw [other.2]; exact Bool.false_ne_true)]

end Text
end FleetControl
