import FleetControl.Proofs.Plane.Roster
import FleetControl.Proofs.JobStore.Lifecycle
import FleetControl.Proofs.Store.Reload

/-!
# Routing inputs in the file

Four things about an agent decide which jobs it may be given: its status, its roles, how many
jobs it runs at a time, and whether its system is one that has job types of its own.  They are
in the file as they are in memory, unless a heartbeat that looks like a mere sign of life
reports another system: that is not saved until something else is.
-/

namespace FleetControl

open Refusal
open Time

/-- What decides which jobs an agent may be given. -/
structure Agent.Routing where
  status : Agent.Status
  roles : NameSet
  jobConcurrency : UInt32
  isWindows : Bool

def Agent.routing (agent : Agent) : Agent.Routing :=
  { status := agent.status
    roles := agent.roles
    jobConcurrency := agent.jobConcurrency
    isWindows := agent.isWindows }

def State.routing (s : State) (id : String) : Option Agent.Routing :=
  (s.agents.get? id).map Agent.routing

/-!
# Saving

A durable change is written when its revision is higher than the one in the file.  That is so
as long as the count of revisions does not start over.
-/

namespace Store

/-- The next durable changes, up to this number, are written to the file. -/
structure Writes (store : Store) (changes : Nat) : Prop where
  persistent : store.persistent = true
  behind : store.disk.written ≤ store.state.revision
  room : store.state.revision.toNat + changes < UInt64.size

variable {store : Store} {s : State} {changes : Nat}

theorem Writes.fewer (writes : store.Writes (changes + 1)) : store.Writes changes where
  persistent := writes.persistent
  behind := writes.behind
  room := by
    have room := writes.room
    omega

theorem Writes.volatile (writes : store.Writes (changes + 1))
    (same : s.revision = store.state.revision) : (store.apply .volatile s).Writes changes where
  persistent := writes.persistent
  behind := by
    show store.disk.written ≤ s.revision
    rw [same]
    exact writes.behind
  room := by
    show s.revision.toNat + changes < UInt64.size
    rw [same]
    exact writes.fewer.room

theorem Writes.lt_next (writes : store.Writes (changes + 1))
    (same : s.revision = store.state.revision) :
    (s.revision + 1).toNat = s.revision.toNat + 1 ∧ store.disk.written < s.revision + 1 := by
  have room := writes.room
  have behind := UInt64.le_iff_toNat_le.mp writes.behind
  have next : (s.revision + 1).toNat = s.revision.toNat + 1 := by
    rw [same]
    exact toNat_next (by omega)
  refine ⟨next, ?_⟩
  rw [UInt64.lt_iff_toNat_lt, next, same]
  omega

theorem Writes.disk_durable (writes : store.Writes (changes + 1))
    (same : s.revision = store.state.revision) :
    (store.apply .durable s).disk = .holding { s with revision := s.revision + 1 } := by
  have later := (writes.lt_next same).2
  unfold apply commit
  simp only [writes.persistent, if_true, save, Disk.save, Snapshot.ofState]
  rw [if_neg (by rw [UInt64.not_le]; exact later)]
  rfl

theorem Writes.state_durable (writes : store.Writes (changes + 1)) :
    (store.apply .durable s).state = { s with revision := s.revision + 1 } := by
  unfold apply commit
  simp only [writes.persistent, if_true, save]

theorem Writes.durable (writes : store.Writes (changes + 1))
    (same : s.revision = store.state.revision) : (store.apply .durable s).Writes changes where
  persistent := by
    unfold apply commit
    simp only [writes.persistent, if_true, save]
  behind := by
    rw [writes.disk_durable same, writes.state_durable]
    exact UInt64.le_refl _
  room := by
    have room := writes.room
    rw [writes.state_durable]
    show (s.revision + 1).toNat + changes < UInt64.size
    rw [(writes.lt_next same).1, same]
    omega

theorem writes_of_load {file : Option String} (loaded : load? file = some store)
    (room : store.state.revision.toNat + changes < UInt64.size) : store.Writes changes := by
  refine ⟨?_, ?_, room⟩
  · cases file with
    | none =>
        cases loaded
        rfl
    | some text =>
        rcases Option.bind_eq_some_iff.mp loaded with ⟨s, _, same⟩
        cases same
        rfl
  · cases file with
    | none =>
        cases loaded
        exact UInt64.le_refl _
    | some text =>
        rcases Option.bind_eq_some_iff.mp loaded with ⟨s, _, same⟩
        cases same
        exact UInt64.le_refl _

end Store

namespace Plane

variable {p : Plane} {fresh : Fresh} {now : Instant} {operation : Operation}

/-!
# Signs of life

A heartbeat that reports the status and the roles that are on record, and no open ports, is
taken for a sign of life.
-/

structure IsSignOfLife (p : Plane) (step : Step) (agentId : String) (beat : Heartbeat)
    (ip : Option String) (agent : Agent) : Prop where
  operation : step.operation = .heartbeat agentId beat ip
  found : p.state.agents.get? agentId = some agent
  admitted : beat.reportsWindows = true → p.config.windowsEnabled = true
  status : beat.agentStatus = .ok agent.status
  openPorts : beat.openPorts = .ok none
  roles : (State.beatAgent agent beat agent.status ip step.now).roles = agent.roles

/-- A sign of life from another system than the one on record. -/
def SwitchesQuietly (p : Plane) (step : Step) : Prop :=
  ∃ agentId beat ip agent, p.IsSignOfLife step agentId beat ip agent ∧
    (State.beatAgent agent beat agent.status ip step.now).isWindows ≠ agent.isWindows

theorem IsSignOfLife.takeHeartbeat {step : Step} {agentId : String} {beat : Heartbeat}
    {ip : Option String} {agent : Agent} (life : p.IsSignOfLife step agentId beat ip agent) :
    p.state.takeHeartbeat agentId beat ip p.config.windowsEnabled step.now =
      .ok (false, { p.state with
        agents := p.state.agents.insert agentId
          (State.beatAgent agent beat agent.status ip step.now) }) := by
  have admitted : ¬ (beat.reportsWindows = true ∧ (!p.config.windowsEnabled) = true) := by
    intro both
    rw [life.admitted both.1] at both
    cases both.2
  unfold State.takeHeartbeat
  rw [if_neg admitted, life.status, life.openPorts]
  simp only [bind, Except.bind, life.found]
  rw [life.roles]
  simp only [ne_eq, not_true_eq_false, decide_false, Bool.or_self, Option.isSome_none]
  rfl

theorem IsSignOfLife.unsaved {step : Step} {agentId : String} {beat : Heartbeat}
    {ip : Option String} {agent : Agent} (life : p.IsSignOfLife step agentId beat ip agent) :
    (p.next step).store.disk = p.store.disk ∧
      (p.next step).state.agents = p.state.agents.insert agentId
        (State.beatAgent agent beat agent.status ip step.now) := by
  have taken : ({ p with observers := step.observers } : Plane).state.takeHeartbeat agentId beat
      ip ({ p with observers := step.observers } : Plane).config.windowsEnabled step.now =
      _ := life.takeHeartbeat
  rw [next, perform, life.operation, run, heartbeat, plane_map, taken]
  exact ⟨rfl, rfl⟩

theorem Commits.agents_of_volatile {step : Step} {change : Change} {s : State}
    (commits : ({ p with observers := step.observers } : Plane).Commits step.fresh step.now
      step.operation change s) (volatile : change = .volatile) :
    s.agents = p.state.agents ∨ ∃ agentId beat ip agent,
      p.IsSignOfLife step agentId beat ip agent ∧
      s.agents = p.state.agents.insert agentId
        (State.beatAgent agent beat agent.status ip step.now) := by
  rcases step with ⟨fresh, now, observers, operation⟩
  cases commits with
  | @heartbeat agentId beat ip durable _ taken =>
      have unsaved : durable = false := by
        cases durable with
        | false => rfl
        | true => cases volatile
      rcases State.takeHeartbeat_eq_ok taken with
        ⟨agent, status, openPorts, admitted, found, reported, ports, known, rfl⟩
      rw [unsaved] at known
      simp only [Bool.false_eq, Bool.or_eq_false_iff, decide_eq_false_iff_not, not_not,
        Option.isSome_eq_false_iff, Option.isNone_iff_eq_none] at known
      rcases known with ⟨⟨rfl, roles⟩, rfl⟩
      exact Or.inr ⟨agentId, beat, ip, agent,
        ⟨rfl, found, admitted, reported, ports, roles.symm⟩, rfl⟩
  | register registered => cases volatile
  | submitResult submitted => cases volatile
  | submitLogs submitted => cases volatile
  | createJob created => cases volatile
  | cancelJob cancelled => cases volatile
  | ports about ports nodes => cases volatile
  | poll polled =>
      exact Or.inl (State.agents_of_surroundings (State.surroundings_pollForWork polled))
  | expireStale =>
      exact Or.inl (State.agents_of_surroundings (p.state.surroundings_expireStale now))
  | reconcileFirewall nodeId =>
      exact Or.inl (State.agents_of_surroundings
        (p.state.surroundings_reconcileFirewall fresh nodeId now))

/-- Unless it switches systems quietly, what is not saved keeps all routing inputs. -/
theorem Commits.routing_of_volatile {step : Step} {change : Change} {s : State}
    (commits : ({ p with observers := step.observers } : Plane).Commits step.fresh step.now
      step.operation change s) (volatile : change = .volatile)
    (steady : ¬ p.SwitchesQuietly step) (id : String) : s.routing id = p.state.routing id := by
  rcases commits.agents_of_volatile volatile with same | ⟨agentId, beat, ip, agent, life, same⟩
  · rw [State.routing, same, State.routing]
  · rw [State.routing, same, Table.get?_insert]
    split
    · rename_i here
      rw [here, State.routing, life.found]
      have system : (State.beatAgent agent beat agent.status ip step.now).isWindows =
          agent.isWindows := by
        apply Decidable.of_not_not
        intro switches
        exact steady ⟨agentId, beat, ip, agent, life, switches⟩
      have roles := life.roles
      simp only [Option.map_some, Agent.routing, system, roles]
      rfl
    · rfl

/-!
# Runs over a file
-/

/-- The state that a run has written to the file last; before it, `last` stands there. -/
def written (p : Plane) (last : State) : List Step → State
  | [] => last
  | step :: rest =>
      (p.next step).written
        (if (p.next step).store.disk = p.store.disk then last else (p.next step).state) rest

theorem written_append (p : Plane) (last : State) (first second : List Step) :
    p.written last (first ++ second) = (p.after first).written (p.written last first) second := by
  induction first generalizing p last with
  | nil =>
      rfl
  | cons step rest ih =>
      exact ih (p.next step) _

theorem written_of_kept {last : State} {step : Step}
    (kept : (p.next step).store.disk = p.store.disk) : p.written last [step] = last :=
  if_pos kept

theorem written_of_saved {last : State} {step : Step}
    (saved : (p.next step).store.disk ≠ p.store.disk) :
    p.written last [step] = (p.next step).state :=
  if_neg saved

/-- A step that writes the file writes the state that it comes to; one that does not write it
keeps the routing inputs, unless it switches systems quietly. -/
theorem next_writes {changes : Nat} (writes : p.store.Writes (changes + 1)) (step : Step) :
    (p.next step).store.Writes changes ∧
      (((p.next step).store.disk = p.store.disk ∧ (¬ p.SwitchesQuietly step →
          ∀ id, (p.next step).state.routing id = p.state.routing id)) ∨
        ((p.next step).store.disk ≠ p.store.disk ∧
          (p.next step).store.disk = .holding (p.next step).state)) := by
  have ends : ({ p with observers := step.observers } : Plane).Ends step.fresh step.now
      step.operation (p.next step) := ends_run _ step.fresh step.now step.operation
  generalize p.next step = q at ends ⊢
  cases ends with
  | unchanged =>
      exact ⟨writes.fewer, Or.inl ⟨rfl, fun _ _ => rfl⟩⟩
  | @committed change s commits =>
      have same : s.revision = p.store.state.revision := commits.roster.revision
      cases change with
      | volatile =>
          refine ⟨writes.volatile same, Or.inl ⟨rfl, ?_⟩⟩
          intro steady
          exact commits.routing_of_volatile rfl steady
      | durable =>
          refine ⟨writes.durable same, Or.inr ⟨?_, ?_⟩⟩
          · intro kept
            have later := (writes.lt_next same).2
            rw [← kept] at later
            simp only [writes.disk_durable same, Disk.holding, UInt64.lt_irrefl] at later
          · show (p.store.apply .durable s).disk = .holding (p.store.apply .durable s).state
            rw [writes.disk_durable same, writes.state_durable]

theorem disk_written {first : Disk} {start last : State} {steps : List Step}
    (writes : p.store.Writes steps.length)
    (holds : (p.store.disk = first ∧ last = start) ∨ p.store.disk = .holding last) :
    ((p.after steps).store.disk = first ∧ p.written last steps = start) ∨
      (p.after steps).store.disk = .holding (p.written last steps) := by
  induction steps generalizing p last with
  | nil =>
      exact holds
  | cons step rest ih =>
      rcases next_writes writes step with ⟨writes', kept | saved⟩
      · apply ih writes'
        rw [if_pos kept.1, kept.1]
        exact holds
      · apply ih writes'
        rw [if_neg saved.1]
        exact Or.inr saved.2

theorem routing_written {last : State} {steps : List Step}
    (writes : p.store.Writes steps.length)
    (mirrors : ∀ id, last.routing id = p.state.routing id)
    (steady : ∀ first step rest, steps = first ++ step :: rest →
      ¬ (p.after first).SwitchesQuietly step) (id : String) :
    (p.written last steps).routing id = (p.after steps).state.routing id := by
  induction steps generalizing p last with
  | nil =>
      exact mirrors id
  | cons step rest ih =>
      rcases next_writes writes step with ⟨writes', saved⟩
      apply ih writes'
      · intro id
        rcases saved with ⟨kept, routing⟩ | ⟨changed, _⟩
        · rw [if_pos kept, mirrors id, routing (steady [] step rest rfl) id]
        · rw [if_neg changed]
      · intro first other more split
        exact steady (step :: first) other more (congrArg (List.cons step) split)

theorem not_routing_written {last : State} {step : Step} (switches : p.SwitchesQuietly step)
    (mirrors : ∀ id, last.routing id = p.state.routing id) :
    ¬ ∀ id, (p.written last [step]).routing id = (p.next step).state.routing id := by
  intro mirrors'
  rcases switches with ⟨agentId, beat, ip, agent, life, switches⟩
  rcases life.unsaved with ⟨disk, agents⟩
  have file : (p.written last [step]).routing agentId = some agent.routing := by
    rw [written_of_kept disk, mirrors, State.routing, life.found]
    rfl
  have memory : (p.next step).state.routing agentId =
      some (State.beatAgent agent beat agent.status ip step.now).routing := by
    rw [State.routing, agents, Table.get?_insert, if_pos rfl]
    rfl
  have same := Option.some.inj (file.symm.trans ((mirrors' agentId).trans memory))
  exact switches (congrArg Agent.Routing.isWindows same).symm

/-- A plane over a file, whose revisions do not run out: at every moment of a run the file
knows what decides about the routing of each agent, if and only if no sign of life comes from
another system than the one on record. -/
theorem routing_written_iff {file : Option String} {steps : List Step}
    (loaded : Store.load? file = some p.store)
    (room : p.state.revision.toNat + steps.length < UInt64.size) :
    (∀ first rest, steps = first ++ rest →
      ((p.after first).store.disk = p.store.disk ∧ p.written p.state first = p.state) ∨
        (p.after first).store.disk = .holding (p.written p.state first)) ∧
      ((∀ first rest, steps = first ++ rest → ∀ id,
          (p.written p.state first).routing id = (p.after first).state.routing id) ↔
        ∀ first step rest, steps = first ++ step :: rest →
          ¬ (p.after first).SwitchesQuietly step) := by
  have writes : ∀ first rest, steps = first ++ rest → p.store.Writes first.length := by
    intro first rest split
    apply Store.writes_of_load loaded
    rw [split, List.length_append] at room
    exact Nat.lt_of_le_of_lt (Nat.add_le_add_left (Nat.le_add_right _ _) _) room
  refine ⟨fun first rest split => disk_written (writes first rest split) (Or.inl ⟨rfl, rfl⟩),
    ?_, ?_⟩
  · intro mirrors first step rest split switches
    have before := mirrors first (step :: rest) split
    have after := mirrors (first ++ [step]) rest (by simp [split])
    rw [written_append, after_append] at after
    exact not_routing_written switches before after
  · intro steady first rest split id
    refine routing_written (writes first rest split) (fun _ => rfl) ?_ id
    intro earlier step later split'
    exact steady earlier step (later ++ rest) (by simp [split, split'])

/-!
# A reboot for one system

Reboots are for agents whose system has no job types of its own.
-/

def dualPlane : Plane :=
  { idle { Config.standard "" with bootstrapToken := "token", windowsEnabled := true } with
    store := { state := .empty, persistent := true, disk := .fresh none } }

def beatFrom (os : String) : Heartbeat :=
  { version := "1"
    stats := Table.empty.insert "os" (.text os)
    roles := []
    metadata := none
    status := none }

def dualRun : List Step :=
  [{ fresh := .strokes 'a', now := .epoch, observers := []
     operation := .register ⟨"token", "node", [], .empty⟩ },
   { fresh := .strokes 'b', now := .epoch, observers := []
     operation := .heartbeat "a" (beatFrom "windows") none }]

def rebootRun : List Step :=
  dualRun ++
    [{ fresh := .strokes 'c', now := .epoch, observers := []
       operation := .createJob ⟨"node.reboot", .empty, none⟩ "operator" }]

/-- The heartbeat brings another status, so it is saved with the system that it reports. -/
theorem routing_written_iff_reboot :
    Store.load? none = some dualPlane.store ∧
      dualPlane.state.revision.toNat + rebootRun.length < UInt64.size ∧
      ∀ first rest, rebootRun = first ++ rest → ∀ id,
        (dualPlane.written dualPlane.state first).routing id =
          (dualPlane.after first).state.routing id := by
  have room : dualPlane.state.revision.toNat + rebootRun.length < UInt64.size := by
    decide +kernel
  have loaded : Store.load? none = some dualPlane.store := rfl
  refine ⟨loaded, room, (routing_written_iff loaded room).2.mpr ?_⟩
  intro first step rest split switches
  rcases switches with ⟨agentId, beat, ip, agent, life, _⟩
  have operation := life.operation
  match first, split with
  | [], split =>
      rw [← (List.cons.inj split).1] at operation
      cases operation
  | [registered], split =>
      rcases List.cons.inj split with ⟨here, split⟩
      rw [← (List.cons.inj split).1] at operation
      cases operation
      rw [← here] at life
      have status : ((dualPlane.after (rebootRun.take 1)).state.agents.get? "a").map
          Agent.status = some .registered := by
        decide +kernel
      have found := congrArg (Option.map Agent.status) life.found
      have online : Agent.Status.online = agent.status := Except.ok.inj life.status
      cases (online.trans (Option.some.inj (found.symm.trans status)))
  | [registered, beaten], split =>
      rw [← (List.cons.inj (List.cons.inj (List.cons.inj split).2).2).1] at operation
      cases operation
  | _ :: _ :: _ :: more, split =>
      have length := congrArg List.length split
      simp [rebootRun, dualRun] at length

def systemSwitch : Step :=
  { fresh := .strokes 'd', now := .epoch, observers := []
    operation := .heartbeat "a" (beatFrom "linux") none }

def switchRun : List Step :=
  rebootRun ++ [systemSwitch]

def rebootPoll : Step :=
  { fresh := .strokes 'e', now := .epoch, observers := [], operation := .poll "a" none }

theorem disk_systemSwitch : ((dualPlane.after rebootRun).next systemSwitch).store.disk =
    (dualPlane.after rebootRun).store.disk := by
  with_unfolding_all rfl

/-- In memory the agent is given the reboot; after a reload of the file it is not. -/
theorem not_routing_written_switching :
    Store.load? none = some dualPlane.store ∧
      (dualPlane.after switchRun).store.disk =
        .holding (dualPlane.written dualPlane.state switchRun) ∧
      ((dualPlane.written dualPlane.state switchRun).routing "a").map
        Agent.Routing.isWindows = some true ∧
      ((dualPlane.after switchRun).state.routing "a").map Agent.Routing.isWindows =
        some false ∧
      (dualPlane.after switchRun).leases [rebootPoll] = ["c|"] ∧
      ∃ reloaded, Store.load? (dualPlane.after switchRun).store.disk.file = some reloaded ∧
        ({ dualPlane.after switchRun with store := reloaded } : Plane).leases [rebootPoll] =
          [] := by
  have file : dualPlane.written dualPlane.state rebootRun = (dualPlane.after rebootRun).state := by
    rw [rebootRun, written_append, after_append]
    exact written_of_saved (fun same => absurd (congrArg Disk.written same) (by decide +kernel))
  have saved : dualPlane.written dualPlane.state switchRun =
      (dualPlane.after rebootRun).state := by
    rw [switchRun, written_append, file]
    exact written_of_kept disk_systemSwitch
  have disk : (dualPlane.after switchRun).store.disk =
      .holding (dualPlane.after rebootRun).state := by
    with_unfolding_all rfl
  have restorable : (dualPlane.after rebootRun).state.Restorable :=
    State.restorable_of_holdsPlain (by decide +kernel) (by decide +kernel)
  rw [saved]
  refine ⟨rfl, disk, by decide +kernel, by decide +kernel, by decide +kernel,
    .holding (dualPlane.after rebootRun).state, ?_, by decide +kernel⟩
  rw [disk]
  exact Store.load?_holding_iff.mpr restorable

end Plane
end FleetControl
