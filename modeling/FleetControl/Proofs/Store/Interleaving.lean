import FleetControl.Proofs.InPlace.Basic
import FleetControl.Proofs.Plane.Routing
import FleetControl.Proofs.Plane.Run

/-!
# Transactions that overlap

A transaction commits under the lock of the state, and saves under the lock of the file.  In
between, others commit and save: snapshots reach the file in any order, and some have not
reached it yet.  A transaction has returned when its snapshot has had its turn at the file.
-/

namespace FleetControl

/-- What a transaction does to the state in place.  The revision is not its business. -/
structure Transaction where
  run : InPlace State Change
  revision_run : ∀ s, (InPlace.on run s).2.revision = s.revision

namespace Transaction

def refused (e : Error) : Transaction where
  run := throw e
  revision_run := fun _ => rfl

def writing (change : Change) (s : State) : Transaction where
  run := fun now => (.ok change, { s with revision := now.revision })
  revision_run := fun _ => rfl

end Transaction

structure Traffic where
  store : Store
  /-- The states that were committed durably; the last one comes first. -/
  committed : List State
  /-- The snapshots that are on their way to the file. -/
  waiting : List Snapshot
  /-- The snapshots whose transactions have returned. -/
  returned : List Snapshot

namespace Traffic

inductive Event where
  | commit (t : Transaction)
  /-- One of the snapshots on their way has its turn at the file. -/
  | save (place : Nat)

def start (store : Store) : Traffic :=
  { store := store, committed := [], waiting := [], returned := [] }

def next (traffic : Traffic) : Event → Traffic
  | .commit t =>
      match InPlace.on t.run traffic.store.state with
      | (.error _, s) => { traffic with store := { traffic.store with state := s } }
      | (.ok change, s) =>
          match traffic.store.commit change s with
          | (none, store) => { traffic with store := store }
          | (some snapshot, store) =>
              { traffic with
                store := store
                committed := store.state :: traffic.committed
                waiting := snapshot :: traffic.waiting }
  | .save place =>
      match traffic.waiting[place]? with
      | none => traffic
      | some snapshot =>
          { traffic with
            store := traffic.store.save (some snapshot)
            waiting := traffic.waiting.eraseIdx place
            returned := snapshot :: traffic.returned }

def after (traffic : Traffic) : List Event → Traffic
  | [] => traffic
  | event :: rest => (traffic.next event).after rest

/-!
# One event
-/

variable {traffic : Traffic} {s : State}

def quietly (traffic : Traffic) (s : State) : Traffic :=
  { traffic with store := { traffic.store with state := s } }

def durably (traffic : Traffic) (s : State) : Traffic :=
  { traffic with
    store := { traffic.store with state := s }
    committed := s :: traffic.committed
    waiting := .ofState s :: traffic.waiting }

def saved (traffic : Traffic) (snapshot : Snapshot) (waiting : List Snapshot) : Traffic :=
  { store := { traffic.store with disk := traffic.store.disk.save snapshot }
    committed := traffic.committed
    waiting := waiting
    returned := snapshot :: traffic.returned }

/-- What an event comes to.  A commit that is to be saved counts the revision up by one, and no
other does. -/
inductive Moves (traffic : Traffic) : Traffic → Prop
  | stays : Moves traffic traffic
  | quietly {s : State}
      (kept : traffic.store.persistent = true →
        s.revision = traffic.store.state.revision) :
      Moves traffic (traffic.quietly s)
  | durably {s : State} (raised : s.revision = traffic.store.state.revision + 1) :
      Moves traffic (traffic.durably s)
  | saved {snapshot : Snapshot} {waiting : List Snapshot}
      (onTheWay : snapshot ∈ traffic.waiting) (rest : waiting ⊆ traffic.waiting) :
      Moves traffic (traffic.saved snapshot waiting)

theorem moves_commit (traffic : Traffic) (t : Transaction) :
    traffic.Moves (traffic.next (.commit t)) := by
  rcases traffic with ⟨⟨state, persistent, disk⟩, committed, waiting, returned⟩
  have kept := t.revision_run state
  rw [next]
  simp only
  rcases h : InPlace.on t.run state with ⟨result, s⟩
  rw [h] at kept
  match result with
  | .error e => exact .quietly fun _ => kept
  | .ok .volatile => exact .quietly fun _ => kept
  | .ok .durable =>
      have raised : s.revision + 1 = state.revision + 1 := congrArg (· + 1) kept
      cases persistent with
      | false => exact .quietly (s := { s with revision := s.revision + 1 }) nofun
      | true => exact .durably raised

theorem moves_next (traffic : Traffic) (event : Event) : traffic.Moves (traffic.next event) := by
  cases event with
  | commit t => exact traffic.moves_commit t
  | save place =>
      rw [next]
      split
      · exact .stays
      · rename_i snapshot found
        exact .saved (List.mem_of_getElem? found) List.eraseIdx_subset

end Traffic

/-!
# The revision in the file
-/

theorem Disk.written_le_save (d : Disk) (snapshot : Snapshot) :
    d.written ≤ (d.save snapshot).written := by
  unfold save
  split
  · exact UInt64.le_refl _
  · rename_i later
    exact UInt64.le_of_lt (UInt64.not_le.mp later)

/-- A snapshot that was skipped is older than what is in the file. -/
theorem Disk.revision_le_save (d : Disk) (snapshot : Snapshot) :
    snapshot.revision ≤ (d.save snapshot).written := by
  unfold save
  split
  · assumption
  · exact UInt64.le_refl _

namespace Traffic

variable {traffic : Traffic}

theorem Moves.written_le {other : Traffic} (moves : traffic.Moves other) :
    traffic.store.disk.written ≤ other.store.disk.written := by
  cases moves with
  | stays => exact UInt64.le_refl _
  | quietly _ => exact UInt64.le_refl _
  | durably _ => exact UInt64.le_refl _
  | saved _ _ => exact traffic.store.disk.written_le_save _

theorem written_le_after (traffic : Traffic) (events : List Event) :
    traffic.store.disk.written ≤ (traffic.after events).store.disk.written := by
  induction events generalizing traffic with
  | nil => exact UInt64.le_refl _
  | cons event rest ih => exact UInt64.le_trans (traffic.moves_next event).written_le (ih _)

/-!
# Every moment
-/

/-- Whatever is on its way or has had its turn is a snapshot of a committed state; the file is
as it was at first or holds a committed state, and no transaction that has returned is ahead
of it. -/
structure Kept (first : Disk) (traffic : Traffic) : Prop where
  persistent : traffic.store.persistent = true
  waiting : ∀ snapshot ∈ traffic.waiting, ∃ s ∈ traffic.committed, snapshot = .ofState s
  returned : ∀ snapshot ∈ traffic.returned,
    (∃ s ∈ traffic.committed, snapshot = .ofState s) ∧
      snapshot.revision ≤ traffic.store.disk.written
  file : traffic.store.disk = first ∨ ∃ s ∈ traffic.committed, traffic.store.disk = .holding s

theorem kept_start {store : Store} (persistent : store.persistent = true) :
    (start store).Kept store.disk where
  persistent := persistent
  waiting := fun _ h => absurd h List.not_mem_nil
  returned := fun _ h => absurd h List.not_mem_nil
  file := Or.inl rfl

variable {first : Disk}

theorem Kept.durably (kept : traffic.Kept first) (s : State) : (traffic.durably s).Kept first where
  persistent := kept.persistent
  waiting := by
    intro snapshot h
    rcases List.mem_cons.mp h with rfl | h
    · exact ⟨s, List.mem_cons_self, rfl⟩
    · rcases kept.waiting snapshot h with ⟨t, known, same⟩
      exact ⟨t, List.mem_cons_of_mem s known, same⟩
  returned := by
    intro snapshot h
    rcases kept.returned snapshot h with ⟨⟨t, known, same⟩, behind⟩
    exact ⟨⟨t, List.mem_cons_of_mem s known, same⟩, behind⟩
  file := by
    rcases kept.file with same | ⟨t, known, held⟩
    · exact Or.inl same
    · exact Or.inr ⟨t, List.mem_cons_of_mem s known, held⟩

theorem Kept.saved (kept : traffic.Kept first) {snapshot : Snapshot} {waiting : List Snapshot}
    (onTheWay : snapshot ∈ traffic.waiting) (rest : waiting ⊆ traffic.waiting) :
    (traffic.saved snapshot waiting).Kept first := by
  rcases kept.waiting snapshot onTheWay with ⟨s, known, rfl⟩
  constructor
  · exact kept.persistent
  · exact fun other h => kept.waiting other (rest h)
  · intro other h
    rcases List.mem_cons.mp h with rfl | h
    · exact ⟨⟨s, known, rfl⟩, traffic.store.disk.revision_le_save _⟩
    · rcases kept.returned other h with ⟨committed, behind⟩
      exact ⟨committed, UInt64.le_trans behind (traffic.store.disk.written_le_save _)⟩
  · show traffic.store.disk.save _ = first ∨ _
    rcases traffic.store.disk.save_cases s with unchanged | held
    · rw [unchanged]
      rcases kept.file with same | ⟨t, older, holds⟩
      · exact Or.inl same
      · exact Or.inr ⟨t, older, unchanged.trans holds⟩
    · exact Or.inr ⟨s, known, held⟩

theorem Kept.moves (kept : traffic.Kept first) {other : Traffic}
    (moves : traffic.Moves other) : other.Kept first := by
  cases moves with
  | stays => exact kept
  | quietly _ => exact ⟨kept.persistent, kept.waiting, kept.returned, kept.file⟩
  | durably _ => exact kept.durably _
  | saved onTheWay rest => exact kept.saved onTheWay rest

theorem Kept.after (kept : traffic.Kept first) (events : List Event) :
    (traffic.after events).Kept first := by
  induction events generalizing traffic with
  | nil => exact kept
  | cons event rest ih => exact ih (kept.moves (traffic.moves_next event))

/-!
# The count of revisions

As long as the count does not start over, the states that are committed have higher and higher
revisions.
-/

/-- The revisions of the committed states, counted from the one at first. -/
structure Counted (origin : UInt64) (traffic : Traffic) : Prop where
  count : traffic.store.state.revision.toNat = origin.toNat + traffic.committed.length
  range : ∀ s ∈ traffic.committed, origin < s.revision ∧ s.revision ≤ traffic.store.state.revision
  order : traffic.committed.Pairwise (fun newer older => older.revision < newer.revision)

theorem counted_start (store : Store) : (start store).Counted store.state.revision where
  count := rfl
  range := fun _ h => absurd h List.not_mem_nil
  order := List.Pairwise.nil

variable {origin : UInt64}

theorem Counted.quietly (counted : traffic.Counted origin) {s : State}
    (same : s.revision = traffic.store.state.revision) : (traffic.quietly s).Counted origin where
  count := (congrArg UInt64.toNat same).trans counted.count
  range := by
    intro t known
    show origin < t.revision ∧ t.revision ≤ s.revision
    rw [same]
    exact counted.range t known
  order := counted.order

theorem Counted.durably (counted : traffic.Counted origin) {s : State}
    (raised : s.revision = traffic.store.state.revision + 1)
    (room : origin.toNat + (traffic.committed.length + 1) < UInt64.size) :
    (traffic.durably s).Counted origin := by
  have count := counted.count
  have next : s.revision.toNat = traffic.store.state.revision.toNat + 1 := by
    rw [raised]
    exact toNat_next (by omega)
  have above : traffic.store.state.revision < s.revision := by
    rw [UInt64.lt_iff_toNat_lt, next]
    exact Nat.lt_succ_self _
  constructor
  · show s.revision.toNat = origin.toNat + (traffic.committed.length + 1)
    omega
  · intro t known
    rcases List.mem_cons.mp known with rfl | known
    · refine ⟨?_, UInt64.le_refl _⟩
      rw [UInt64.lt_iff_toNat_lt]
      omega
    · rcases counted.range t known with ⟨low, high⟩
      exact ⟨low, UInt64.le_of_lt (UInt64.lt_of_le_of_lt high above)⟩
  · apply List.Pairwise.cons
    · intro t known
      exact UInt64.lt_of_le_of_lt (counted.range t known).2 above
    · exact counted.order

theorem Moves.committed_le {other : Traffic} (moves : traffic.Moves other) :
    traffic.committed.length ≤ other.committed.length := by
  cases moves with
  | stays => exact Nat.le_refl _
  | quietly _ => exact Nat.le_refl _
  | durably _ => exact Nat.le_succ _
  | saved _ _ => exact Nat.le_refl _

theorem committed_le_after (traffic : Traffic) (events : List Event) :
    traffic.committed.length ≤ (traffic.after events).committed.length := by
  induction events generalizing traffic with
  | nil => exact Nat.le_refl _
  | cons event rest ih => exact Nat.le_trans (traffic.moves_next event).committed_le (ih _)

theorem Counted.moves (counted : traffic.Counted origin)
    (persistent : traffic.store.persistent = true) {other : Traffic}
    (moves : traffic.Moves other)
    (room : origin.toNat + other.committed.length < UInt64.size) : other.Counted origin := by
  cases moves with
  | stays => exact counted
  | quietly kept => exact counted.quietly (kept persistent)
  | durably raised => exact counted.durably raised room
  | saved _ _ => exact ⟨counted.count, counted.range, counted.order⟩

theorem Counted.after (counted : traffic.Counted origin) (kept : traffic.Kept first)
    (events : List Event)
    (room : origin.toNat + (traffic.after events).committed.length < UInt64.size) :
    (traffic.after events).Counted origin := by
  induction events generalizing traffic with
  | nil => exact counted
  | cons event rest ih =>
      have moves := traffic.moves_next event
      have fewer := (traffic.next event).committed_le_after rest
      have here : origin.toNat + (traffic.next event).committed.length < UInt64.size :=
        Nat.lt_of_le_of_lt (Nat.add_le_add_left fewer _) room
      exact ih (counted.moves kept.persistent moves here) (kept.moves moves) room

/-!
# Nothing that was confirmed is lost
-/

theorem persistent_of_load {file : Option String} {store : Store}
    (loaded : Store.load? file = some store) : store.persistent = true := by
  have writes : store.Writes 0 := Store.writes_of_load loaded (UInt64.toNat_lt_size _)
  exact writes.persistent

theorem disk_of_load {file : Option String} {store : Store}
    (loaded : Store.load? file = some store) :
    store.disk = { file := file, written := store.state.revision } := by
  cases file with
  | none =>
      cases loaded
      rfl
  | some text =>
      rcases Option.bind_eq_some_iff.mp loaded with ⟨s, _, same⟩
      cases same
      rfl

/-- The revision in the file never goes back; the file is the one that was loaded, or holds a
state that was committed, with its revision; and whoever has returned finds a revision there
that is no lower than his own.  So the file holds what he committed, or something that was
committed after it. -/
theorem file_keeps_up {file : Option String} {store : Store}
    (loaded : Store.load? file = some store) {events : List Event} {moment : Traffic}
    (reached : (start store).after events = moment) :
    (∀ later, moment.store.disk.written ≤ (moment.after later).store.disk.written) ∧
    (moment.store.disk = { file := file, written := store.state.revision } ∨
      ∃ s ∈ moment.committed, moment.store.disk = .holding s) ∧
    (∀ snapshot ∈ moment.returned,
      (∃ s ∈ moment.committed, snapshot = .ofState s) ∧
        snapshot.revision ≤ moment.store.disk.written) ∧
    (store.state.revision.toNat + moment.committed.length < UInt64.size →
      moment.committed.Pairwise (fun newer older => older.revision < newer.revision) ∧
      ∀ snapshot ∈ moment.returned, ∃ newer s older,
        moment.committed = newer ++ s :: older ∧ snapshot = .ofState s ∧
          ∃ t ∈ newer ++ [s], moment.store.disk = .holding t) := by
  have disk := disk_of_load loaded
  have atFirst := kept_start (persistent_of_load loaded)
  have kept : moment.Kept store.disk := by
    rw [← reached]
    exact atFirst.after events
  refine ⟨fun later => moment.written_le_after later, ?_, kept.returned, ?_⟩
  · rw [← disk]
    exact kept.file
  · intro room
    have counted : moment.Counted store.state.revision := by
      rw [← reached] at room ⊢
      exact (counted_start store).after atFirst events room
    refine ⟨counted.order, ?_⟩
    intro snapshot confirmed
    rcases kept.returned snapshot confirmed with ⟨⟨s, known, same⟩, behind⟩
    rcases List.append_of_mem known with ⟨newer, older, split⟩
    refine ⟨newer, s, older, split, same, ?_⟩
    have revision : snapshot.revision = s.revision := congrArg Snapshot.revision same
    rw [revision] at behind
    rcases kept.file with first | ⟨t, committed, held⟩
    · -- The file that was loaded is older than anything that was committed.
      rw [first, disk] at behind
      exact absurd behind (UInt64.not_le.mpr (counted.range s known).1)
    · refine ⟨t, ?_, held⟩
      rw [held] at behind
      have order := counted.order
      rw [split] at committed order
      rcases List.mem_append.mp committed with later | notLater
      · exact List.mem_append_left _ later
      · rcases List.mem_cons.mp notLater with rfl | earlier
        · exact List.mem_append_right _ List.mem_cons_self
        · have lower : t.revision < s.revision :=
            (List.pairwise_cons.mp (List.pairwise_append.mp order).2.1).1 t earlier
          exact absurd behind (UInt64.not_le.mpr lower)

def raise : Transaction where
  run := InPlace.take (fun s => (.durable, { s with lastSeq := s.lastSeq + 1 }))
  revision_run := fun _ => rfl

def overtaking : List Event :=
  [.commit raise, .commit raise, .save 0, .save 0]

/-- When both have returned, the file holds the state that was committed last. -/
theorem file_keeps_up_overtaking :
    ∃ store moment, Store.load? none = some store ∧ (start store).after overtaking = moment ∧
      moment.returned.map Snapshot.revision = [1, 2] ∧
      (∀ snapshot ∈ moment.returned, snapshot.revision ≤ moment.store.disk.written) ∧
      moment.store.disk = .holding moment.store.state := by
  have loaded : Store.load? none =
      some { state := .empty, persistent := true, disk := .fresh none } := rfl
  rcases file_keeps_up loaded (Eq.refl ((start _).after overtaking)) with
    ⟨_, _, confirmed, _⟩
  exact ⟨_, _, loaded, rfl, rfl, fun snapshot h => (confirmed snapshot h).2, rfl⟩

end Traffic

/-!
# Operations one after the other

A run of the plane is traffic in which every snapshot has its turn at the file at once.
-/

namespace Plane

open Traffic

theorem exists_transaction (p : Plane) (step : Step) {traffic : Traffic}
    (same : traffic.store = p.store) (idle : traffic.waiting = []) :
    ∃ t, ((traffic.next (.commit t)).next (.save 0)).store = (p.next step).store ∧
      ((traffic.next (.commit t)).next (.save 0)).waiting = [] := by
  rcases traffic with ⟨store, committed, waiting, returned⟩
  cases same
  cases idle
  rw [Plane.next, perform]
  have ends :=
    ends_run { p with observers := step.observers } step.fresh step.now step.operation
  generalize (Plane.run _ step.fresh step.now step.operation).plane = q at ends
  cases ends with
  | unchanged => exact ⟨.refused .badBootstrapToken, rfl, rfl⟩
  | @committed change s commits =>
      have kept : s.revision = p.state.revision := commits.roster.revision
      have written : { s with revision := p.state.revision } = s := by
        rw [← kept]
      have commit : InPlace.on (Transaction.writing change s).run p.store.state =
          (.ok change, s) :=
        congrArg (Prod.mk (Except.ok change)) written
      refine ⟨.writing change s, ?_⟩
      simp only [Traffic.next, commit]
      cases change with
      | volatile => exact ⟨rfl, rfl⟩
      | durable =>
          simp only [Store.apply, Store.commit]
          cases p.store.persistent <;> exact ⟨rfl, rfl⟩

theorem exists_transactions (p : Plane) (steps : List Step) {traffic : Traffic}
    (same : traffic.store = p.store) (idle : traffic.waiting = []) :
    ∃ ts : List Transaction, ts.length = steps.length ∧
      (traffic.after (ts.flatMap fun t => [.commit t, .save 0])).store =
        (p.after steps).store := by
  induction steps generalizing p traffic with
  | nil => exact ⟨[], rfl, same⟩
  | cons step rest ih =>
      rcases p.exists_transaction step same idle with ⟨t, store, waiting⟩
      rcases ih (p.next step) store waiting with ⟨ts, length, ends⟩
      exact ⟨t :: ts, congrArg Nat.succ length, ends⟩

end Plane
end FleetControl
