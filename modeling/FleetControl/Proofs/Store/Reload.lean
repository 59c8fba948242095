import FleetControl.Proofs.Wire.Rows
import FleetControl.Store.Basic

/-!
# Snapshots loaded again

The text of a snapshot nests the values of agents deeper than the requests that brought
them.  A state is loaded again from its snapshot exactly when these values are nested no
deeper than the state leaves room for, and their numbers are read back.
-/

namespace FleetControl

open Json

/-- The state takes four levels of nesting for itself: the state, a table, a row, and the
members of the row. -/
def State.valueRoom : Nat := Decoder.depthLimit - 4

/-- What agents filled in can be read back from where it stands in a snapshot. -/
structure State.Restorable (s : State) : Prop where
  outputs : ∀ jobId result, s.results.get? jobId = some result →
    MembersRestore State.valueRoom result.output
  stats : ∀ agentId agent, s.agents.get? agentId = some agent →
    MembersRestore State.valueRoom agent.lastHeartbeatStats
  metadata : ∀ agentId agent, s.agents.get? agentId = some agent →
    MembersRestore State.valueRoom agent.metadata

theorem Wire.readsBack_state_iff {s : State} :
    Decoder.ReadsBack state ofState Decoder.depthLimit s ↔ s.Restorable := by
  show Decoder.ReadsBack state ofState (122 + 5) s ↔ s.Restorable
  rw [readsBack_state_iff_tables, Decoder.readsBack_table_iff, Decoder.readsBack_table_iff]
  constructor
  · intro parts
    rcases parts with ⟨results, agents⟩
    constructor
    · intro jobId result h
      exact readsBack_result_iff.mp (results (jobId, result) (Table.get?_eq_some_iff.mp h))
    · intro agentId agent h
      exact (readsBack_agent_iff.mp (agents (agentId, agent) (Table.get?_eq_some_iff.mp h))).1
    · intro agentId agent h
      exact (readsBack_agent_iff.mp (agents (agentId, agent) (Table.get?_eq_some_iff.mp h))).2
  · intro parts
    rcases parts with ⟨outputs, stats, metadata⟩
    constructor
    · intro entry hentry
      have h := Table.get?_eq_some_iff.mpr hentry
      exact readsBack_result_iff.mpr (outputs entry.1 entry.2 h)
    · intro entry hentry
      have h := Table.get?_eq_some_iff.mpr hentry
      exact readsBack_agent_iff.mpr ⟨stats entry.1 entry.2 h, metadata entry.1 entry.2 h⟩

/-!
# Plain members

Members without numbers that are not nested too deep can be read back.
-/

def State.holdsPlain (members : Members) : Bool :=
  members.entries.all (fun entry =>
    decide (entry.2.document.nesting ≤ valueRoom) && entry.2.document.numbers.isEmpty)

theorem State.membersRestore_of_holdsPlain {members : Members}
    (plain : holdsPlain members = true) : Json.MembersRestore valueRoom members := by
  intro entry hentry
  have here := List.all_eq_true.mp plain entry hentry
  simp only [Bool.and_eq_true, decide_eq_true_eq, List.isEmpty_iff] at here
  constructor
  · exact here.1
  · rw [here.2]
    exact fun n hn => absurd hn List.not_mem_nil

theorem State.restorable_of_holdsPlain {s : State} (results : s.results.entries = [])
    (plain : s.agents.entries.all (fun entry =>
      holdsPlain entry.2.lastHeartbeatStats && holdsPlain entry.2.metadata) = true) :
    s.Restorable := by
  have rows : ∀ id agent, s.agents.get? id = some agent →
      holdsPlain agent.lastHeartbeatStats = true ∧ holdsPlain agent.metadata = true := by
    intro id agent found
    exact Bool.and_eq_true_iff.mp
      (List.all_eq_true.mp plain (id, agent) (Table.get?_eq_some_iff.mp found))
  constructor
  · intro jobId result found
    have row := Table.get?_eq_some_iff.mp found
    rw [results] at row
    cases row
  · intro id agent found
    exact membersRestore_of_holdsPlain (rows id agent found).1
  · intro id agent found
    exact membersRestore_of_holdsPlain (rows id agent found).2

/-!
# Snapshots
-/

theorem Json.Decoder.run_pretty {α : Type} (decode : Decoder α) (doc : Json) :
    decode.run doc.pretty = decode depthLimit (Draft.reread doc) := by
  rw [run, Draft.read_pretty]
  simp only [if_true]
  cases decode depthLimit (Draft.reread doc) with
  | ok a => rfl
  | error flaw => rfl

namespace Snapshot

theorem read?_ofState_iff {s : State} : read? (ofState s).text = some s ↔ s.Restorable := by
  rw [← Wire.readsBack_state_iff]
  unfold read? ofState
  rw [Refusal.toOption_eq_some, Decoder.run_pretty]
  exact Iff.rfl

end Snapshot

namespace Disk

def holding (s : State) : Disk :=
  { file := some (Snapshot.ofState s).text, written := s.revision }

theorem save_cases (d : Disk) (s : State) :
    d.save (.ofState s) = d ∨ d.save (.ofState s) = holding s := by
  unfold save
  split
  · exact Or.inl rfl
  · exact Or.inr rfl

theorem save_fresh {file : Option String} {s : State} (later : ¬ s.revision ≤ 0) :
    (fresh file).save (.ofState s) = holding s := by
  rw [save, if_neg (show ¬ (Snapshot.ofState s).revision ≤ (fresh file).written from later)]
  rfl

theorem holding_ne_fresh {s : State} : holding s ≠ fresh none := by
  intro same
  cases congrArg Disk.file same

end Disk

namespace Store

def holding (s : State) : Store :=
  { state := s, persistent := true, disk := .holding s }

theorem load?_holding_iff {s : State} :
    load? (Disk.holding s).file = some (holding s) ↔ s.Restorable := by
  rw [← Snapshot.read?_ofState_iff]
  simp only [load?, Disk.holding]
  constructor
  · intro h
    rcases Option.bind_eq_some_iff.mp h with ⟨t, read, same⟩
    have state : t = s := congrArg Store.state (Option.some.inj same)
    rw [read, state]
  · intro h
    rw [h]
    rfl

end Store
end FleetControl
