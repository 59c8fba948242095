/-!
# Blank characters

Which characters count as blank, and what it means to trim a text or to cut it
into lines.  A character is blank when it carries the Unicode property
`White_Space`, so the no-break space and the ideographic space are blank and the
zero-width space is not.
-/

namespace FleetControl
namespace Text

def isBlank (c : Char) : Bool :=
  let n := c.toNat
  (9 ≤ n && n ≤ 13) || n == 0x20 || n == 0x85 || n == 0xA0 || n == 0x1680 ||
    (0x2000 ≤ n && n ≤ 0x200A) || n == 0x2028 || n == 0x2029 || n == 0x202F ||
    n == 0x205F || n == 0x3000

theorem isBlank_of_isWhitespace {c : Char} (h : c.isWhitespace = true) :
    isBlank c = true := by
  simp only [Char.isWhitespace, Bool.or_eq_true, decide_eq_true_eq] at h
  rcases h with ((h | h) | h) | h <;> subst h <;> decide

/-!
# Trimming

Blank characters are removed at both ends and kept in between.
-/

def dropBlanks (cs : List Char) : List Char :=
  cs.dropWhile isBlank

def trimChars (cs : List Char) : List Char :=
  (dropBlanks (dropBlanks cs).reverse).reverse

def trim (s : String) : String :=
  String.ofList (trimChars s.toList)

/-!
# Pieces and lines

`pieces sep` cuts a text at every `sep`; there is always at least one piece.  A
line ends at a line feed, and a carriage return just before that line feed
belongs to the line end.  What follows the last line feed is a line only when it
is not empty.
-/

def pieces (sep : Char) : List Char → List (List Char)
  | [] => [[]]
  | c :: rest =>
      if c = sep then
        [] :: pieces sep rest
      else
        match pieces sep rest with
        | [] => [[c]]
        | piece :: more => (c :: piece) :: more

theorem pieces_ne_nil (sep : Char) (cs : List Char) : pieces sep cs ≠ [] := by
  cases cs with
  | nil =>
      simp [pieces]
  | cons c rest =>
      unfold pieces
      split
      · simp
      · split <;> simp

def dropReturn (line : List Char) : List Char :=
  if line.getLast? = some '\r' then line.dropLast else line

def lineChars (cs : List Char) : List (List Char) :=
  let all := pieces '\n' cs
  let closed := all.dropLast.map dropReturn
  match all.getLast? with
  | some (c :: rest) => closed ++ [c :: rest]
  | _ => closed

/-- Cut at the first `sep`, which belongs to neither part. -/
def cutAt (sep : Char) (cs : List Char) : Option (List Char × List Char) :=
  match cs.dropWhile (· != sep) with
  | [] => none
  | _ :: after => some (cs.takeWhile (· != sep), after)

/-- The trimmed, non-blank parts of a comma separated text. -/
def listItems (cs : List Char) : List (List Char) :=
  ((pieces ',' cs).map trimChars).filter (fun item => !item.isEmpty)

end Text
end FleetControl
