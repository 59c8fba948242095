import FleetControl.Text.Numeral

/-!
# Readers

A reader takes what it reads from the front of a text and returns it together
with the characters that follow.
-/

namespace FleetControl
namespace Text

abbrev Reader (α : Type) := List Char → Option (α × List Char)

namespace Reader

/-- From `least` to `most` digits, as a number. -/
def digits (least most : Nat) : Reader Nat :=
  fun cs =>
    let run := (cs.take most).takeWhile Numeral.isDigit
    if run.length < least then none
    else some (Numeral.value 0 run, cs.drop run.length)

def exactly (c : Char) : Reader Unit
  | d :: rest => if c = d then some ((), rest) else none
  | [] => none

/-- The characters of a word, one after the other. -/
def word (w : List Char) : Reader Unit :=
  fun cs => if w.isPrefixOf cs then some ((), cs.drop w.length) else none

end Reader
end Text
end FleetControl
