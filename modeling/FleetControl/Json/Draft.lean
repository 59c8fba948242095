import FleetControl.Json.Numeral
import FleetControl.Text.Hex

/-!
# Drafts of documents

A draft is what reading a text gives before anyone asks for a certain shape.  It
keeps the members of objects as they stand, also when a key occurs twice, and it
keeps everything in front of a fault: an item that cannot be read is `broken`, and
a container whose end is never reached is not `closed`.  So one who takes a draft
apart from left to right meets a fault exactly where the text has it.

Two faults show only to one who wants the contents: a numeral beyond all numbers,
and a text with half of a surrogate pair.  One who skips the item passes over them.
-/

namespace FleetControl
namespace Json

open Text

inductive Draft where
  | null
  | bool (b : Bool)
  | number (n : Option Number)
  | text (s : Option String)
  | array (items : List Draft) (closed : Bool)
  | object (members : List (String × Draft)) (closed : Bool)
  | broken
  deriving Inhabited

namespace Draft

/-!
# Characters of a text

Behind a backslash stands one of nine letters.  The letter `u` stands for a UTF-16
unit in four hexadecimal digits; a unit from the upper surrogates forms a character
with a unit from the lower surrogates just behind it.
-/

def escaped? (letter : Char) : Option Char :=
  match letter with
  | '"' => some '"'
  | '\\' => some '\\'
  | '/' => some '/'
  | 'b' => some '\x08'
  | 'f' => some '\x0c'
  | 'n' => some '\n'
  | 'r' => some '\r'
  | 't' => some '\t'
  | _ => none

def unit? (a b c d : Char) : Option Nat := do
  let p ← Hex.value? a
  let q ← Hex.value? b
  let r ← Hex.value? c
  let s ← Hex.value? d
  return 4096 * p + 256 * q + 16 * r + s

def isUpper (unit : Nat) : Bool :=
  0xD800 ≤ unit && unit < 0xDC00

def isLower (unit : Nat) : Bool :=
  0xDC00 ≤ unit && unit < 0xE000

/-- The characters read so far, last first, and an upper surrogate that waits for
its partner.  `sound` is lost with a surrogate that has none. -/
structure Reading where
  done : List Char
  upper : Option Nat
  sound : Bool

namespace Reading

def start : Reading :=
  { done := [], upper := none, sound := true }

def push (r : Reading) (c : Char) : Reading :=
  { done := c :: r.done, upper := none, sound := r.sound && r.upper.isNone }

def pushUnit (r : Reading) (unit : Nat) : Reading :=
  if isUpper unit then
    { done := r.done, upper := some unit, sound := r.sound && r.upper.isNone }
  else if isLower unit then
    match r.upper with
    | some high =>
        { done := Char.ofNat (0x10000 + 1024 * (high - 0xD800) + (unit - 0xDC00)) :: r.done
          upper := none, sound := r.sound }
    | none => { r with sound := false }
  else r.push (Char.ofNat unit)

def result (r : Reading) : Option String :=
  if r.sound && r.upper.isNone then some (String.ofList r.done.reverse) else none

end Reading

/-- The text up to the closing quote, and what follows the quote. -/
def readText (r : Reading) : List Char → Option (Option String × List Char)
  | [] => none
  | '"' :: rest => some (r.result, rest)
  | '\\' :: 'u' :: a :: b :: c :: d :: rest =>
      match unit? a b c d with
      | some unit => readText (r.pushUnit unit) rest
      | none => none
  | '\\' :: letter :: rest =>
      match escaped? letter with
      | some c => readText (r.push c) rest
      | none => none
  | c :: rest => if c.toNat < 0x20 || c = '\\' then none else readText (r.push c) rest

/-!
# Items

Blanks, line feeds, carriage returns and tabs may stand around every item.
-/

def isSpace (c : Char) : Bool :=
  c = ' ' || c = '\n' || c = '\t' || c = '\r'

def skipSpace (cs : List Char) : List Char :=
  cs.dropWhile isSpace

def readScalar (cs : List Char) : Draft × Option (List Char) :=
  match cs with
  | 'n' :: 'u' :: 'l' :: 'l' :: rest => (.null, some rest)
  | 't' :: 'r' :: 'u' :: 'e' :: rest => (.bool true, some rest)
  | 'f' :: 'a' :: 'l' :: 's' :: 'e' :: rest => (.bool false, some rest)
  | '"' :: rest =>
      match readText .start rest with
      | some (s, rest) => (.text s, some rest)
      | none => (.broken, none)
  | _ =>
      match Literal.take? cs with
      | some (l, rest) => (.number l.number?, some rest)
      | none => (.broken, none)

mutual

/-- An item, and what follows it unless the item has a fault. -/
def readItem : Nat → List Char → Draft × Option (List Char)
  | 0, _ => (.broken, none)
  | fuel + 1, cs =>
      match skipSpace cs with
      | '[' :: rest =>
          match skipSpace rest with
          | ']' :: rest => (.array [] true, some rest)
          | _ =>
              let (items, rest) := readItems fuel rest
              (.array items rest.isSome, rest)
      | '\x7b' :: rest =>
          match skipSpace rest with
          | '\x7d' :: rest => (.object [] true, some rest)
          | _ =>
              let (members, rest) := readMembers fuel rest
              (.object members rest.isSome, rest)
      | rest => readScalar rest

def readItems : Nat → List Char → List Draft × Option (List Char)
  | 0, _ => ([], none)
  | fuel + 1, cs =>
      match readItem fuel cs with
      | (item, none) => ([item], none)
      | (item, some rest) =>
          match skipSpace rest with
          | ',' :: rest =>
              let (items, rest) := readItems fuel rest
              (item :: items, rest)
          | ']' :: rest => ([item], some rest)
          | _ => ([item], none)

def readMembers : Nat → List Char → List (String × Draft) × Option (List Char)
  | 0, _ => ([], none)
  | fuel + 1, cs =>
      match skipSpace cs with
      | '"' :: rest =>
          match readText .start rest with
          | some (some key, rest) =>
              match skipSpace rest with
              | ':' :: rest =>
                  match readItem fuel rest with
                  | (item, none) => ([(key, item)], none)
                  | (item, some rest) =>
                      match skipSpace rest with
                      | ',' :: rest =>
                          let (members, rest) := readMembers fuel rest
                          ((key, item) :: members, rest)
                      | '\x7d' :: rest => ([(key, item)], some rest)
                      | _ => ([(key, item)], none)
              | _ => ([(key, .broken)], none)
          | _ => ([], none)
      | _ => ([], none)

end

/-- The draft of a whole text.  The second part tells whether the text holds
nothing behind the item. -/
def read (cs : List Char) : Draft × Bool :=
  match readItem (2 * cs.length + 2) cs with
  | (item, some rest) => (item, (skipSpace rest).isEmpty)
  | (item, none) => (item, false)

/-!
# Skipping
-/

mutual

/-- The item can be skipped: it is complete, whatever it holds. -/
def isComplete : Draft → Bool
  | .broken => false
  | .array items closed => allComplete items && closed
  | .object members closed => membersComplete members && closed
  | _ => true

def allComplete : List Draft → Bool
  | [] => true
  | item :: rest => item.isComplete && allComplete rest

def membersComplete : List (String × Draft) → Bool
  | [] => true
  | (_, item) :: rest => item.isComplete && membersComplete rest

end

/-!
# Drafts of finished documents
-/

mutual

def ofJson : Json → Draft
  | .null => .null
  | .bool b => .bool b
  | .number n => .number (some n)
  | .text s => .text (some s)
  | .array items => .array (ofItems items) true
  | .object fields => .object (ofFields fields) true

def ofItems : List Json → List Draft
  | [] => []
  | item :: rest => ofJson item :: ofItems rest

def ofFields : List (String × Json) → List (String × Draft)
  | [] => []
  | (key, item) :: rest => (key, ofJson item) :: ofFields rest

end

end Draft
end Json
end FleetControl
