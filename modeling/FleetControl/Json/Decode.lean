import FleetControl.Json.Draft

/-!
# Taking drafts apart

A decoder asks for a certain shape.  It fails in one of two ways: the text is not
JSON, or it is JSON of the wrong shape.  Whichever fault stands first in the text
decides.

Arrays and objects may be nested 127 deep; `room` is how much of that is left.
Members that nobody asks for are skipped and have no limit.
-/

namespace FleetControl
namespace Json

inductive Flaw where
  | notJson
  | wrongShape
  deriving DecidableEq, Repr

abbrev Decoder (α : Type) := Nat → Draft → Except Flaw α

namespace Decoder

def depthLimit : Nat := 127

/-- What is wrong with an item of another kind than the one asked for. -/
def mismatch : Draft → Flaw
  | .broken => .notJson
  | .text none => .notJson
  | .number none => .notJson
  | _ => .wrongShape

/-!
# Scalars
-/

def bool : Decoder Bool
  | _, .bool b => .ok b
  | _, d => .error (mismatch d)

def text : Decoder String
  | _, .text (some s) => .ok s
  | _, d => .error (mismatch d)

/-- A text that some other reader understands. -/
def parsed {α : Type} (read? : String → Option α) : Decoder α
  | _, .text (some s) =>
      match read? s with
      | some a => .ok a
      | none => .error .wrongShape
  | _, d => .error (mismatch d)

def integer (lo hi : Int) : Decoder Int
  | _, .number (some (.whole n _)) =>
      if lo ≤ n ∧ n ≤ hi then .ok n else .error .wrongShape
  | _, d => .error (mismatch d)

/-- A whole number below `bound`. -/
def natural (bound : Nat) : Decoder Nat
  | _, .number (some (.whole n _)) =>
      if 0 ≤ n ∧ n < bound then .ok n.toNat else .error .wrongShape
  | _, d => .error (mismatch d)

def uint8 : Decoder UInt8 :=
  fun room d => (natural UInt8.size room d).map UInt8.ofNat

def uint16 : Decoder UInt16 :=
  fun room d => (natural UInt16.size room d).map UInt16.ofNat

def uint32 : Decoder UInt32 :=
  fun room d => (natural UInt32.size room d).map UInt32.ofNat

def uint64 : Decoder UInt64 :=
  fun room d => (natural UInt64.size room d).map UInt64.ofNat

def float : Decoder Float
  | _, .number (some n) => .ok n.toFloat
  | _, d => .error (mismatch d)

/-!
# Choices

One of several words, written as a text or as an object with the word as its only
key and `null` as its value.
-/

def wordOf {α : Type} (words : List (String × α)) (s : String) : Except Flaw α :=
  match words.lookup s with
  | some a => .ok a
  | none => .error .wrongShape

def choice {α : Type} (words : List (String × α)) : Decoder α
  | _, .text (some s) => wordOf words s
  | 0, .object _ _ => .error .notJson
  | _ + 1, .object members closed =>
      match members with
      | [] => .error .notJson
      | (key, item) :: rest => do
          let a ← wordOf words key
          match item with
          | .null => if rest.isEmpty && closed then return a else throw .notJson
          | other => throw (mismatch other)
  | _, _ => .error .notJson

/-!
# Options, lists and tables
-/

def optional {α : Type} (decode : Decoder α) : Decoder (Option α)
  | _, .null => .ok none
  | room, d => (decode room d).map some

def listOf {α : Type} (decode : Decoder α) : Decoder (List α)
  | 0, .array _ _ => .error .notJson
  | room + 1, .array items closed => do
      let all ← items.mapM (decode room)
      if closed then return all else throw .notJson
  | _, d => .error (mismatch d)

def entriesOf {α : Type} (decode : Draft → Except Flaw α) :
    List (String × Draft) → Except Flaw (List (String × α))
  | [] => .ok []
  | (key, item) :: rest => do
      let a ← decode item
      let more ← entriesOf decode rest
      return (key, a) :: more

def tableOf {α : Type} (decode : Decoder α) : Decoder (Table α)
  | 0, .object _ _ => .error .notJson
  | room + 1, .object members closed => do
      let all ← entriesOf (decode room) members
      if closed then return Table.ofList all else throw .notJson
  | _, d => .error (mismatch d)

/-!
# Values
-/

mutual

def value : Nat → Draft → Except Flaw Value
  | _, .null => .ok .null
  | _, .bool b => .ok (.bool b)
  | _, .number (some n) => .ok (.number n)
  | _, .text (some s) => .ok (.text s)
  | 0, .array _ _ => .error .notJson
  | room + 1, .array items closed => do
      let all ← valueItems room items
      if closed then return .array all else throw .notJson
  | 0, .object _ _ => .error .notJson
  | room + 1, .object members closed => do
      let all ← valueMembers room members
      if closed then return .object (Table.ofList all) else throw .notJson
  | _, d => .error (mismatch d)

def valueItems : Nat → List Draft → Except Flaw (List Value)
  | _, [] => .ok []
  | room, item :: rest => do
      let a ← value room item
      let more ← valueItems room rest
      return a :: more

def valueMembers : Nat → List (String × Draft) → Except Flaw (List (String × Value))
  | _, [] => .ok []
  | room, (key, item) :: rest => do
      let a ← value room item
      let more ← valueMembers room rest
      return (key, a) :: more

end

def members : Decoder Members :=
  tableOf value

end Decoder

/-!
# Records

A record is an object with named fields, or an array with the fields in their
order.  Fields that nobody asks for are skipped in an object and refused in an
array; a field given twice is refused.  Each field is looked at where it stands,
so each fault has a place in the text, and the first place decides.  A missing
field shows only at the end.
-/

structure Stop where
  place : Nat
  flaw : Flaw

namespace Stop

/-- The first of two faults; of two at one place the one given first. -/
def first (a b : Stop) : Stop :=
  if b.place < a.place then b else a

end Stop

structure Source where
  room : Nat
  /-- The item of the field with this index and name, and its place. -/
  find : Nat → String → Option (Nat × Draft)
  named : Bool
  size : Nat

structure Record (α : Type) where
  names : List String
  build : Source → Nat → Except Stop α

namespace Record

variable {α β : Type}

def field (name : String) (decode : Decoder α) (absent : Bool → Option α) : Record α :=
  { names := [name]
    build := fun source index =>
      match source.find index name with
      | some (place, item) =>
          match decode source.room item with
          | .ok a => .ok a
          | .error flaw => .error { place := place, flaw := flaw }
      | none =>
          match absent source.named with
          | some a => .ok a
          | none => .error { place := source.size, flaw := .wrongShape } }

def required (name : String) (decode : Decoder α) : Record α :=
  field name decode (fun _ => none)

/-- A field that may be missing where fields are named. -/
def optional (name : String) (decode : Decoder α) : Record (Option α) :=
  field name (Decoder.optional decode) (fun named => if named then some none else none)

/-- A field that may be missing. -/
def defaulted (name : String) (decode : Decoder α) (value : α) : Record α :=
  field name decode (fun _ => some value)

def defaultedOption (name : String) (decode : Decoder α) : Record (Option α) :=
  defaulted name (Decoder.optional decode) none

def both (f : Record (α → β)) (x : Record α) : Record β :=
  { names := f.names ++ x.names
    build := fun source index =>
      match f.build source index, x.build source (index + f.names.length) with
      | .ok g, .ok a => .ok (g a)
      | .error s, .ok _ => .error s
      | .ok _, .error t => .error t
      | .error s, .error t => .error (s.first t) }

def constant (a : α) : Record α :=
  { names := [], build := fun _ _ => .ok a }

instance : Seq Record where
  seq f x := both f (x ())

instance : Functor Record where
  map g x := both (constant g) x

/-!
# Faults of the frame
-/

def findMember (name : String) : Nat → List (String × Draft) → Option (Nat × Draft)
  | _, [] => none
  | place, (key, item) :: rest =>
      if key = name then some (place, item) else findMember name (place + 1) rest

/-- The first field given twice, item that cannot be skipped, or missing end. -/
def frameStop (names seen : List String) (closed : Bool) :
    Nat → List (String × Draft) → Option Stop
  | place, [] => if closed then none else some { place := place, flaw := .notJson }
  | place, (key, item) :: rest =>
      if names.contains key then
        if seen.contains key then some { place := place, flaw := .wrongShape }
        else frameStop names (key :: seen) closed (place + 1) rest
      else if item.isComplete then frameStop names seen closed (place + 1) rest
      else some { place := place, flaw := .notJson }

def finish (built : Except Stop α) (frame : Option Stop) : Except Flaw α :=
  match built, frame with
  | .ok a, none => .ok a
  | .ok _, some s => .error s.flaw
  | .error s, none => .error s.flaw
  | .error s, some t => .error (t.first s).flaw

def decode (r : Record α) : Decoder α
  | 0, .object _ _ => .error .notJson
  | room + 1, .object members closed =>
      finish
        (r.build
          { room := room
            find := fun _ name => findMember name 0 members
            named := true
            size := members.length } 0)
        (frameStop r.names [] closed 0 members)
  | 0, .array _ _ => .error .notJson
  | room + 1, .array items closed =>
      finish
        (r.build
          { room := room
            find := fun index _ => items[index]?.map (fun item => (index, item))
            named := false
            size := items.length } 0)
        (if r.names.length < items.length then
          some { place := r.names.length, flaw := .notJson }
        else if closed then none
        else some { place := items.length, flaw := .notJson })
  | _, d => .error (Decoder.mismatch d)

end Record

/-!
# Whole texts
-/

namespace Decoder

/-- Decode a text that holds one item and nothing else. -/
def run {α : Type} (decode : Decoder α) (s : String) : Except Flaw α := do
  let (item, alone) := Draft.read s.toList
  let a ← decode depthLimit item
  if alone then return a else throw .notJson

/-- Decode the item that a text starts with. -/
def runLead {α : Type} (decode : Decoder α) (s : String) : Except Flaw α :=
  decode depthLimit (Draft.read s.toList).1

/-- Decode a document at hand; its nesting has no limit. -/
def ofJson? {α : Type} (decode : Decoder α) (document : Json) : Option α :=
  (decode UInt32.size (Draft.ofJson document)).toOption

end Decoder
end Json
end FleetControl
