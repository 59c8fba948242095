import FleetControl.Toml.Number
import FleetControl.Toml.Text

/-!
# Reading TOML

A document is a list of statements: `key = value`, the head of a table, or the head
of one table of a list.  Putting the statements together refuses every attempt to
define something twice.
-/

namespace FleetControl
namespace Toml

open Text

/-!
# Trees

While a document is put together, a table remembers how it came about.  A table
that is only passed through on the way to another is implied; one that is made by a
key with points is dotted; the rest have a head of their own.
-/

inductive Origin where
  | implied
  | dotted
  | headed
  deriving DecidableEq

inductive Tree where
  | value (v : Toml)
  | table (origin : Origin) (entries : List (String × Tree))
  | tables (items : List (List (String × Tree)))

abbrev Entries := List (String × Tree)

/-- Change the entry under a key, or add one. -/
def alter (key : String) (change : Option Tree → Option Tree) : Entries → Option Entries
  | [] => (change none).map (fun tree => [(key, tree)])
  | (k, tree) :: rest =>
      if k = key then (change (some tree)).map (fun after => (k, after) :: rest)
      else (alter key change rest).map (fun after => (k, tree) :: after)

def changeLast (change : Entries → Option Entries) : List Entries → Option (List Entries)
  | [] => none
  | [last] => (change last).map (fun after => [after])
  | item :: rest => (changeLast change rest).map (fun after => item :: after)

/-- Go down a path of tables, making those that are missing, and change the entries
at its end.  With points in a key only tables without a head may be entered. -/
def descend (origin : Origin) (change : Entries → Option Entries) :
    List String → Entries → Option Entries
  | [] => change
  | key :: path =>
      alter key (fun found =>
        match found with
        | none => (descend origin change path []).map (.table origin)
        | some (.table o entries) =>
            if origin = .dotted ∧ o = .headed then none
            else (descend origin change path entries).map (.table o)
        | some (.tables items) => (changeLast (descend origin change path) items).map .tables
        | some (.value _) => none)

def addNew (key : String) (tree : Tree) : Entries → Option Entries :=
  alter key (fun found =>
    match found with
    | none => some tree
    | some _ => none)

/-- The last table of a dotted path must itself be dotted. -/
def endsDotted : List String → Entries → Bool
  | [], _ => true
  | [key], entries =>
      match entries.lookup key with
      | some (.table .implied _) => false
      | some (.tables _) => false
      | _ => true
  | key :: path, entries =>
      match entries.lookup key with
      | some (.table _ inner) => endsDotted path inner
      | some (.tables items) => endsDotted path (items.getLastD [])
      | _ => true

def addValue (path : List String) (v : Toml) (entries : Entries) : Option Entries :=
  match path.getLast? with
  | none => none
  | some key =>
      if endsDotted path.dropLast entries then
        descend .dotted (addNew key (.value v)) path.dropLast entries
      else none

mutual

/-- The values of a tree, without the memory of how they came about. -/
def Tree.toToml : Tree → Toml
  | .value v => v
  | .table _ entries => .table (entriesToml entries)
  | .tables items => .array (itemsToml items)

def entriesToml : List (String × Tree) → List (String × Toml)
  | [] => []
  | (key, tree) :: rest => (key, tree.toToml) :: entriesToml rest

def itemsToml : List (List (String × Tree)) → List Toml
  | [] => []
  | entries :: rest => .table (entriesToml entries) :: itemsToml rest

end

/-!
# Values
-/

def comment? (cs : List Char) : Option (List Char) :=
  match cs with
  | '#' :: rest => some (rest.dropWhile isPlain)
  | _ => some cs

/-- Blanks, comments and line ends between the items of an array. -/
def skipFiller (fuel : Nat) (cs : List Char) : List Char :=
  match fuel with
  | 0 => cs
  | fuel + 1 =>
      let cs := (comment? (skipGap cs)).getD cs
      match lineEnd? cs with
      | some rest => skipFiller fuel rest
      | none => cs

def bool? (cs : List Char) : Option (Toml × List Char) :=
  match Reader.word "true".toList cs with
  | some ((), rest) => some (.bool true, rest)
  | none => (Reader.word "false".toList cs).map (fun (_, rest) => (.bool false, rest))

def scalarValue? (cs : List Char) : Option (Toml × List Char) :=
  match cs with
  | [] => none
  | c :: _ =>
      if c = '"' || c = '\'' then (text? cs).map (fun (s, rest) => (.text s, rest))
      else if c = 't' || c = 'f' then bool? cs
      else if looksLikeTime cs then time? cs
      else number? cs

mutual

def value? : Nat → List Char → Option (Toml × List Char)
  | 0, _ => none
  | fuel + 1, cs =>
      match cs with
      | '[' :: rest => (items? fuel rest).map (fun (items, rest) => (.array items, rest))
      | '\x7b' :: rest =>
          match skipGap rest with
          | '\x7d' :: rest => some (.table [], rest)
          | rest => do
              let (entries, rest) ← inline? fuel [] rest
              return (.table (entriesToml entries), rest)
      | _ => scalarValue? cs

/-- The items of an array up to its closing bracket; a comma may follow the last. -/
def items? : Nat → List Char → Option (List Toml × List Char)
  | 0, _ => none
  | fuel + 1, cs =>
      match skipFiller (cs.length + 1) cs with
      | ']' :: rest => some ([], rest)
      | cs => do
          let (item, rest) ← value? fuel cs
          match skipFiller (rest.length + 1) rest with
          | ',' :: rest =>
              let (more, rest) ← items? fuel rest
              return (item :: more, rest)
          | ']' :: rest => return ([item], rest)
          | _ => none

/-- The entries of a table in one line. -/
def inline? : Nat → Entries → List Char → Option (Entries × List Char)
  | 0, _, _ => none
  | fuel + 1, entries, cs => do
      let (path, rest) ← key? (cs.length + 1) cs
      match rest with
      | '=' :: rest =>
          let (v, rest) ← value? fuel (skipGap rest)
          let entries ← addValue path v entries
          match skipGap rest with
          | ',' :: rest => inline? fuel entries rest
          | '\x7d' :: rest => return (entries, rest)
          | _ => none
      | _ => none

end

/-!
# Statements
-/

inductive Statement where
  | assign (path : List String) (v : Toml)
  | head (path : List String)
  | listHead (path : List String)

def statement? (cs : List Char) : Option (Statement × List Char) :=
  let fuel := 2 * cs.length + 2
  match cs with
  | '[' :: '[' :: rest => do
      let (path, rest) ← key? fuel rest
      let ((), rest) ← Reader.word [']', ']'] rest
      return (.listHead path, rest)
  | '[' :: rest => do
      let (path, rest) ← key? fuel rest
      let ((), rest) ← Reader.exactly ']' rest
      return (.head path, rest)
  | _ => do
      let (path, rest) ← key? fuel cs
      let ((), rest) ← Reader.exactly '=' rest
      let (v, rest) ← value? fuel (skipGap rest)
      return (.assign path v, rest)

/-- The end of a line behind a statement or in its place. -/
def finishLine? (cs : List Char) : Option (List Char) := do
  let cs ← comment? (skipGap cs)
  match cs with
  | [] => some []
  | _ => lineEnd? cs

def statements? (fuel : Nat) (cs : List Char) : Option (List Statement) :=
  match fuel with
  | 0 => if cs.isEmpty then some [] else none
  | fuel + 1 =>
      match cs with
      | [] => some []
      | _ =>
          match finishLine? cs with
          | some rest => statements? fuel rest
          | none => do
              let (s, rest) ← statement? (skipGap cs)
              let rest ← finishLine? rest
              let more ← statements? fuel rest
              return s :: more

/-!
# Documents
-/

/-- Open a table under a head: a new one, or one that was only implied. -/
def openTable (key : String) : Entries → Option Entries :=
  alter key (fun found =>
    match found with
    | none => some (.table .headed [])
    | some (.table .implied entries) => some (.table .headed entries)
    | some _ => none)

def openListed (key : String) : Entries → Option Entries :=
  alter key (fun found =>
    match found with
    | none => some (.tables [[]])
    | some (.tables items) => some (.tables (items ++ [[]]))
    | some _ => none)

/-- Change the table that the last head opened. -/
def within (head : List String) (change : Entries → Option Entries) (root : Entries) :
    Option Entries :=
  descend .headed change head root

def assemble (head : List String) (root : Entries) : List Statement → Option Entries
  | [] => some root
  | .assign path v :: rest => do
      let root ← within head (addValue path v) root
      assemble head root rest
  | .head path :: rest => do
      let key ← path.getLast?
      let root ← descend .implied (openTable key) path.dropLast root
      assemble path root rest
  | .listHead path :: rest => do
      let key ← path.getLast?
      let root ← descend .implied (openListed key) path.dropLast root
      assemble path root rest

/-- The entries of a document. -/
def read? (s : String) : Option (List (String × Toml)) := do
  let cs :=
    match s.toList with
    | '\uFEFF' :: rest => rest
    | cs => cs
  let all ← statements? (cs.length + 1) cs
  let root ← assemble [] [] all
  return entriesToml root

end Toml
end FleetControl
