import FleetControl.Json.Render
import FleetControl.Wire.State

/-!
# The store

The store holds the state of the moment and, if it is persistent, a file with a
state that was committed before.  Committing and saving are two steps: a commit
counts the revision up and fixes the snapshot to save, and a save that comes too
late, after one with a higher revision, does nothing.
-/

namespace FleetControl

/-!
# Snapshots
-/

/-- A committed state as it stands in a file. -/
structure Snapshot where
  revision : UInt64
  text : String
  deriving DecidableEq

namespace Snapshot

def ofState (s : State) : Snapshot :=
  { revision := s.revision, text := (Wire.ofState s).pretty }

def read? (text : String) : Option State :=
  (Wire.state.run text).toOption

end Snapshot

structure Disk where
  /-- The text of the file, if there is one. -/
  file : Option String
  /-- The revision saved or loaded last. -/
  written : UInt64
  deriving DecidableEq

namespace Disk

def fresh (file : Option String) : Disk :=
  { file := file, written := 0 }

def save (d : Disk) (snapshot : Snapshot) : Disk :=
  if snapshot.revision ≤ d.written then d
  else { file := some snapshot.text, written := snapshot.revision }

end Disk

/-!
# Committing
-/

/-- What a transaction did to the state. -/
inductive Change where
  /-- At most signs of life; they are saved with the next durable change. -/
  | volatile
  | durable
  deriving DecidableEq, Repr

namespace Change

def durableIf (changed : Bool) : Change :=
  if changed then .durable else .volatile

end Change

structure Store where
  state : State
  persistent : Bool
  disk : Disk

namespace Store

/-- A store with an empty state that does not save anything. -/
def inMemory : Store :=
  { state := .empty, persistent := false, disk := .fresh none }

/-- Put a state into the store; the snapshot is what is to be saved. -/
def commit (store : Store) (change : Change) (s : State) : Option Snapshot × Store :=
  match change with
  | .volatile => (none, { store with state := s })
  | .durable =>
      let s := { s with revision := s.revision + 1 }
      (if store.persistent then some (.ofState s) else none, { store with state := s })

def save (store : Store) (snapshot : Option Snapshot) : Store :=
  match snapshot with
  | some snapshot => { store with disk := store.disk.save snapshot }
  | none => store

/-- Commit, and save at once. -/
def apply (store : Store) (change : Change) (s : State) : Store :=
  let (snapshot, store) := store.commit change s
  store.save snapshot

/-- The store over a file.  A missing file means an empty state; a file that does not
read as a state means none. -/
def load? (file : Option String) : Option Store :=
  match file with
  | none => some { state := .empty, persistent := true, disk := .fresh none }
  | some text => do
      let s ← Snapshot.read? text
      return { state := s, persistent := true, disk := { file := file, written := s.revision } }

end Store
end FleetControl
