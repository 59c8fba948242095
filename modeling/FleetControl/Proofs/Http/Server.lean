import FleetControl.Proofs.Plane.Transactions
import FleetControl.Proofs.Store.Reload

/-!
# The server over a file

A server answers requests and sweeps from time to time.  What it commits durably is
written to the file later than it is committed: the writes of two commits may change
places, and a write may fail.  So a commit leaves a snapshot behind, and writing one of
the snapshots left behind is an event of its own, which may come at any time or never.
-/

namespace FleetControl

open Time

structure Commit where
  state : State
  snapshot : Snapshot

structure Server where
  plane : Plane
  disk : Disk
  /-- The last commit comes first. -/
  commits : List Commit

namespace Server

inductive Event where
  | request (fresh : Fresh) (now : Instant) (req : Http.Request)
  | sweep (now : Instant)
  /-- The snapshot of one of the commits is written. -/
  | write (index : Nat)

def withTray (p : Plane) : Plane :=
  { p with store := { p.store with disk := .fresh none } }

def start (p : Plane) : Server :=
  { plane := withTray p, disk := p.store.disk, commits := [] }

def settle (server : Server) (p : Plane) : Server :=
  { plane := withTray p
    disk := server.disk
    commits :=
      match p.store.disk.file with
      | none => server.commits
      | some text =>
          { state := p.state, snapshot := { revision := p.store.disk.written, text := text } } ::
            server.commits }

def next (server : Server) : Event → Server
  | .request fresh now req => server.settle (Http.respond server.plane fresh now req).plane
  | .sweep now => server.settle (server.plane.expireStale now).plane
  | .write index =>
      match server.commits[index]? with
      | none => server
      | some commit => { server with disk := server.disk.save commit.snapshot }

def after (server : Server) : List Event → Server
  | [] => server
  | event :: rest => (server.next event).after rest

theorem after_append (server : Server) (first second : List Event) :
    server.after (first ++ second) = (server.after first).after second := by
  induction first generalizing server with
  | nil =>
      rfl
  | cons event rest ih =>
      exact ih (server.next event)

end Server

/-!
# What lies on the tray
-/

theorem Store.apply_tray {store : Store} (tray : store.disk = .fresh none) (change : Change)
    (s : State) :
    (store.apply change s).disk = .fresh none ∨
      (store.apply change s).disk = .holding (store.apply change s).state := by
  cases change with
  | volatile => exact Or.inl tray
  | durable =>
      unfold apply commit
      cases store.persistent with
      | false => exact Or.inl tray
      | true =>
          simp only [save, tray, if_true]
          exact Disk.save_cases _ _

/-- A transaction leaves the tray empty, or with the snapshot of the state that it
committed. -/
theorem Store.Goes.tray {a b : Store} (goes : a.Goes b) (tray : a.disk = .fresh none) :
    b.disk = .fresh none ∨ b.disk = .holding b.state := by
  rcases goes with ⟨change, s, rfl⟩
  exact Store.apply_tray tray change s

namespace Server

/-!
# Every moment of a run
-/

/-- The snapshots left behind are those of the states that were committed, and the file is
as it was at first or holds one of these states. -/
structure Kept (first : Disk) (server : Server) : Prop where
  tray : server.plane.store.disk = .fresh none
  snapshots : ∀ commit ∈ server.commits, commit.snapshot = .ofState commit.state
  file : server.disk = first ∨
    ∃ commit ∈ server.commits, server.disk = .holding commit.state

theorem kept_start (p : Plane) : (start p).Kept p.store.disk :=
  ⟨rfl, fun _ h => absurd h List.not_mem_nil, Or.inl rfl⟩

theorem commits_settle_empty {server : Server} {p : Plane}
    (empty : p.store.disk = .fresh none) : (server.settle p).commits = server.commits := by
  simp only [settle, empty, Disk.fresh]

theorem commits_settle_holding (server : Server) {p : Plane}
    (holding : p.store.disk = .holding p.store.state) :
    (server.settle p).commits =
      { state := p.store.state, snapshot := .ofState p.store.state } :: server.commits := by
  simp only [settle, holding, Disk.holding]
  rfl

theorem Kept.settle {first : Disk} {server : Server} (kept : server.Kept first) {p : Plane}
    (goes : server.plane.store.Goes p.store) : (server.settle p).Kept first := by
  rcases goes.tray kept.tray with empty | holding
  · refine ⟨rfl, ?_, ?_⟩
    · rw [commits_settle_empty empty]
      exact kept.snapshots
    · rw [commits_settle_empty empty]
      exact kept.file
  · refine ⟨rfl, ?_, ?_⟩
    · rw [commits_settle_holding server holding]
      intro commit hcommit
      rcases List.mem_cons.mp hcommit with rfl | old
      · rfl
      · exact kept.snapshots commit old
    · rw [commits_settle_holding server holding]
      rcases kept.file with same | ⟨commit, old, held⟩
      · exact Or.inl same
      · exact Or.inr ⟨commit, List.mem_cons_of_mem _ old, held⟩

theorem Kept.write {first : Disk} {server : Server} (kept : server.Kept first) (index : Nat) :
    (server.next (.write index)).Kept first := by
  unfold next
  simp only
  split
  · exact kept
  · rename_i commit hcommit
    have member : commit ∈ server.commits := List.mem_of_getElem? hcommit
    refine ⟨kept.tray, kept.snapshots, ?_⟩
    rw [kept.snapshots commit member]
    rcases server.disk.save_cases commit.state with same | held
    · rw [same]
      exact kept.file
    · exact Or.inr ⟨commit, member, held⟩

theorem Kept.next {first : Disk} {server : Server} (kept : server.Kept first) (event : Event) :
    (server.next event).Kept first := by
  cases event with
  | request fresh now req => exact kept.settle (Http.goes_respond req)
  | sweep now => exact kept.settle Plane.transacts_expireStale.goes
  | write index => exact kept.write index

theorem Kept.after {first : Disk} {server : Server} (kept : server.Kept first)
    (events : List Event) : (server.after events).Kept first := by
  induction events generalizing server with
  | nil => exact kept
  | cons event rest ih => exact ih (kept.next event)

theorem kept_after (p : Plane) (events : List Event) :
    ((start p).after events).Kept p.store.disk :=
  (kept_start p).after events

end Server
end FleetControl
