import FleetControl.Proofs.InPlace.Plane
import FleetControl.Proofs.Plane.Roster

/-!
# What the revision tells

Each operation works out for itself whether its change is durable, apart from what it writes.
The two agree: under one revision the state is one and the same, up to what shows that an agent
is alive.
-/

namespace FleetControl

open Refusal
open Time

/-!
# Idle work

A sweep, a poll or a reconciliation without a job to show for it has written nothing.
-/

namespace State

variable {s s' : State} {fresh : Fresh} {now : Instant}

theorem reclaim_idle {id : String} (idle : (s.reclaim id now).1 = none) :
    (s.reclaim id now).2 = s := by
  unfold reclaim at idle ⊢
  cases found : s.jobs.get? id with
  | none => rfl
  | some job =>
      rw [found] at idle
      dsimp only at idle
      split at idle <;> cases idle

theorem reclaimAll_idle {ids : List String} (idle : (s.reclaimAll now ids).1 = []) :
    (s.reclaimAll now ids).2 = s := by
  induction ids generalizing s with
  | nil => rfl
  | cons id rest ih =>
      rcases List.append_eq_nil_iff.mp idle with ⟨first, others⟩
      have unchanged : (s.reclaim id now).2 = s := reclaim_idle (Option.toList_eq_nil_iff.mp first)
      exact (ih others).trans unchanged

theorem expireStale_idle (idle : (s.expireStale now).1 = []) : (s.expireStale now).2 = s :=
  reclaimAll_idle idle

theorem leaseCandidates_idle {policy : DispatchPolicy} {observers : List Observer}
    {agentId : String} {agent : Agent} {slots updates : Nat} {ids : List String}
    (idle : (s.leaseCandidates fresh policy observers agentId agent now slots updates ids).1 =
      []) :
    (s.leaseCandidates fresh policy observers agentId agent now slots updates ids).2 = s := by
  induction ids generalizing slots updates with
  | nil => rfl
  | cons id rest ih =>
      unfold leaseCandidates at idle ⊢
      split
      · rfl
      · rename_i free
        rw [if_neg free] at idle
        split
        · rename_i missing
          rw [missing] at idle
          exact ih idle
        · rename_i job found
          rw [found] at idle
          dsimp only at idle
          split
          · rename_i may
            rw [if_pos may] at idle
            split
            · rename_i refused
              rw [refused] at idle
              exact ih idle
            · rename_i granted
              rw [granted] at idle
              cases idle
          · rename_i held
            rw [if_neg held] at idle
            exact ih idle

theorem pollForWork_idle {agentId : String} {limit : Nat} {policy : DispatchPolicy}
    {observers : List Observer} {outcome : PollOutcome}
    (polled : s.pollForWork fresh agentId limit policy observers now = .ok (outcome, s'))
    (leased : outcome.leased = []) (expired : outcome.expired = []) : s' = s := by
  unfold pollForWork at polled
  split at polled
  · cases polled
  · split at polled
    · cases polled
    · cases polled
      exact (leaseCandidates_idle leased).trans (expireStale_idle expired)

theorem requestFirewallJob_idle {type nodeId : String} {rules : List Port.Rule}
    (idle : (s.requestFirewallJob fresh type nodeId rules now).1 = []) :
    (s.requestFirewallJob fresh type nodeId rules now).2 = s := by
  unfold requestFirewallJob at idle ⊢
  split
  · rfl
  · rename_i asked
    rw [if_neg asked] at idle
    dsimp only at idle ⊢
    split
    · rfl
    · rename_i unasked
      rw [if_neg unasked] at idle
      cases idle

theorem reconcileFirewall_idle {nodeId : String}
    (idle : (s.reconcileFirewall fresh nodeId now).1 = []) :
    (s.reconcileFirewall fresh nodeId now).2 = s := by
  rcases List.append_eq_nil_iff.mp idle with ⟨opening, closing⟩
  exact (requestFirewallJob_idle closing).trans (requestFirewallJob_idle opening)

end State

/-!
# Signs of life
-/

/-- The record of an agent without what a mere sign of life may change. -/
def Agent.lasting (agent : Agent) : Agent :=
  { agent with
    lastHeartbeatAt := none
    lastHeartbeatIp := none
    lastHeartbeatVersion := none
    lastHeartbeatStats := .empty
    metadata := .empty }

theorem State.lasting_beatAgent {agent : Agent} {beat : Heartbeat} {ip : Option String}
    {now : Instant}
    (roles : (State.beatAgent agent beat agent.status ip now).roles = agent.roles) :
    (State.beatAgent agent beat agent.status ip now).lasting = agent.lasting := by
  have same := congrArg (fun names => { agent.lasting with roles := names }) roles
  exact same

def State.lasting (s : State) : State × (String → Option Agent) :=
  ({ s with agents := .empty }, fun id => (s.agents.get? id).map Agent.lasting)

/-- A state that an operation may leave under the revision of the state before it. -/
inductive State.Unrevised (operation : Operation) (s : State) : State → Prop
  | same : State.Unrevised operation s s
  | alive {agentId : String} {beat : Heartbeat} {ip : Option String} {before after : Agent}
      (sent : operation = .heartbeat agentId beat ip)
      (found : s.agents.get? agentId = some before)
      (lasting : after.lasting = before.lasting) :
      State.Unrevised operation s { s with agents := s.agents.insert agentId after }

theorem State.Unrevised.revision {operation : Operation} {s t : State}
    (unrevised : State.Unrevised operation s t) : t.revision = s.revision := by
  cases unrevised <;> rfl

theorem State.Unrevised.lasting {operation : Operation} {s t : State}
    (unrevised : State.Unrevised operation s t) : t.lasting = s.lasting := by
  cases unrevised with
  | same => rfl
  | @alive agentId beat ip before after sent found lasting =>
      refine congrArg (Prod.mk _) (funext fun id => ?_)
      show ((s.agents.insert agentId after).get? id).map Agent.lasting = _
      rw [Table.get?_insert]
      split
      · rename_i here
        rw [here, found]
        exact congrArg some lasting
      · rfl

/-- The revision after an operation tells what the operation has done. -/
structure State.Tells (operation : Operation) (s t : State) : Prop where
  counts : t.revision = s.revision ∨ t.revision = s.revision + 1
  grows : t.revision ≠ s.revision → s.revision.toNat + 1 < UInt64.size →
    t.revision.toNat = s.revision.toNat + 1
  kept : t.revision = s.revision → State.Unrevised operation s t

/-!
# What is not durable
-/

namespace Store

theorem revision_apply_durable (store : Store) (s : State) :
    (store.apply .durable s).state.revision = s.revision + 1 := by
  unfold apply commit
  cases store.persistent <;> rfl

end Store

theorem Change.durableIf_eq_volatile {changed : Bool}
    (h : Change.durableIf changed = .volatile) : changed = false := by
  cases changed with
  | false => rfl
  | true => cases h

namespace Plane

variable {p : Plane} {fresh : Fresh} {now : Instant} {operation : Operation}

/-- An operation that reports less than a durable change has written no more than a sign of
life. -/
theorem Commits.unrevised {change : Change} {s : State}
    (commits : p.Commits fresh now operation change s) (volatile : change = .volatile) :
    State.Unrevised operation p.state s := by
  cases commits with
  | register registered => cases volatile
  | submitResult submitted => cases volatile
  | submitLogs submitted => cases volatile
  | createJob created => cases volatile
  | cancelJob cancelled => cases volatile
  | ports about ports nodes => cases volatile
  | heartbeat taken =>
      rcases State.takeHeartbeat_eq_ok taken with
        ⟨agent, status, openPorts, _, found, _, _, known, rfl⟩
      rw [Change.durableIf_eq_volatile volatile] at known
      simp only [Bool.false_eq, Bool.or_eq_false_iff, decide_eq_false_iff_not, ne_eq,
        Decidable.not_not, Option.isSome_eq_false_iff, Option.isNone_iff_eq_none] at known
      rcases known with ⟨⟨rfl, roles⟩, rfl⟩
      exact .alive rfl found (State.lasting_beatAgent roles.symm)
  | poll polled =>
      have idle := Change.durableIf_eq_volatile volatile
      simp only [Bool.or_eq_false_iff, Bool.not_eq_false', List.isEmpty_iff] at idle
      rw [State.pollForWork_idle polled idle.1 idle.2]
      exact .same
  | expireStale =>
      have idle := Change.durableIf_eq_volatile volatile
      simp only [Bool.not_eq_false', List.isEmpty_iff] at idle
      rw [State.expireStale_idle idle]
      exact .same
  | reconcileFirewall nodeId =>
      have idle := Change.durableIf_eq_volatile volatile
      simp only [Bool.not_eq_false', List.isEmpty_iff] at idle
      rw [State.reconcileFirewall_idle idle]
      exact .same

theorem Ends.tells {q : Plane} (ends : p.Ends fresh now operation q) :
    State.Tells operation p.state q.state := by
  have counted : State.Unrevised operation p.state q.state ∨
      q.state.revision = p.state.revision + 1 := by
    cases ends with
    | unchanged => exact Or.inl .same
    | @committed change s commits =>
        cases change with
        | volatile => exact Or.inl (commits.unrevised rfl)
        | durable =>
            have kept : s.revision = p.state.revision := commits.roster.revision
            rw [← kept]
            exact Or.inr (p.store.revision_apply_durable s)
  constructor
  · exact counted.imp_left State.Unrevised.revision
  · intro changed room
    rcases counted with unrevised | next
    · exact absurd unrevised.revision changed
    · rw [next]
      exact toNat_next room
  · intro kept
    rcases counted with unrevised | next
    · exact unrevised
    · exact absurd (UInt64.add_eq_left.mp (next.symm.trans kept)) (by decide)

/-!
# Runs

As long as the revisions do not run out, they tell the same about whole runs.
-/

theorem tells_next (p : Plane) (step : Step) :
    State.Tells step.operation p.state (p.next step).state :=
  (ends_run { p with observers := step.observers } step.fresh step.now step.operation).tells

theorem revision_le_after {steps : List Step}
    (room : p.state.revision.toNat + steps.length < UInt64.size) :
    p.state.revision.toNat ≤ (p.after steps).state.revision.toNat := by
  induction steps generalizing p with
  | nil => exact Nat.le_refl _
  | cons step rest ih =>
      rw [List.length_cons] at room
      rw [after_cons]
      have tells := tells_next p step
      by_cases kept : (p.next step).state.revision = p.state.revision
      · rw [← kept]
        exact ih (by rw [kept]; omega)
      · have next := tells.grows kept (by omega)
        have later := ih (p := p.next step) (by omega)
        omega

/-- Between two moments with one revision there have been only signs of life. -/
theorem lasting_after {steps : List Step}
    (room : p.state.revision.toNat + steps.length < UInt64.size)
    (same : (p.after steps).state.revision = p.state.revision) :
    (p.after steps).state.lasting = p.state.lasting := by
  induction steps generalizing p with
  | nil => rfl
  | cons step rest ih =>
      rw [List.length_cons] at room
      rw [after_cons] at same ⊢
      have tells := tells_next p step
      by_cases kept : (p.next step).state.revision = p.state.revision
      · have now := (tells.kept kept).lasting
        rw [← kept] at room same
        exact (ih (by omega) same).trans now
      · have next := tells.grows kept (by omega)
        have later : (p.next step).state.revision.toNat ≤
            ((p.next step).after rest).state.revision.toNat := revision_le_after (by omega)
        rw [same] at later
        omega

/-!
# Work without a job to show for it
-/

theorem transact_idle {α : Type} {a : α} {changed : Bool} {s : State} {tell : α → Notices}
    (idle : changed = false) (same : s = p.state) :
    (p.transact (.ok (a, .durableIf changed, s)) tell).plane = p := by
  rw [idle, same]
  rfl

theorem plane_poll_idle {agentId : String} {limit : Option Nat} {outcome : PollOutcome}
    {s : State}
    (polled : p.state.pollForWork fresh agentId (p.config.clampPollLimit limit)
      p.config.dispatchPolicy p.observers now = .ok (outcome, s))
    (leased : outcome.leased = []) (expired : outcome.expired = []) :
    (p.run fresh now (.poll agentId limit)).plane = p := by
  have unchanged : (!outcome.leased.isEmpty || !outcome.expired.isEmpty) = false := by
    rw [leased, expired]
    rfl
  rw [run, plane_map, poll, plane_map, polled]
  exact transact_idle unchanged (State.pollForWork_idle polled leased expired)

theorem plane_expireStale_idle (idle : (p.state.expireStale now).1 = []) :
    (p.run fresh now .expireStale).plane = p := by
  have unchanged : (!(p.state.expireStale now).1.isEmpty) = false := by
    rw [idle]
    rfl
  rw [run, plane_map, expireStale]
  exact transact_idle unchanged (State.expireStale_idle idle)

theorem plane_reconcileFirewall_idle {nodeId : String}
    (idle : (p.state.reconcileFirewall fresh nodeId now).1 = []) :
    (p.run fresh now (.reconcileFirewall nodeId)).plane = p := by
  have unchanged : (!(p.state.reconcileFirewall fresh nodeId now).1.isEmpty) = false := by
    rw [idle]
    rfl
  rw [run, plane_map, reconcileFirewall]
  exact transact_idle unchanged (State.reconcileFirewall_idle idle)

end Plane

theorem InPlace.Follows.plane {α : Type} {x : InPlace Scene α} {w : Scene} {o : Outcome α}
    (follows : Follows x w o) : (on x w).2.plane = o.plane := by
  cases answer : o.answer with
  | error e =>
      rcases follows.refused e answer with ⟨refused, left⟩
      rw [left, refused]
      rfl
  | ok a =>
      rcases follows.done a answer with ⟨asked, left⟩
      rw [left]

namespace Plane

/-- An operation keeps the revision or counts it up by one.  If it keeps it, it has written
nothing but a sign of life of the agent whose heartbeat it was; and a poll, a sweep or a
reconciliation without a job to show for it has written nothing at all.  So it is with the
programs that write in place. -/
theorem revision_tells (p : Plane) (fresh : Fresh) (now : Instant) :
    (∀ operation, State.Tells operation p.state (p.run fresh now operation).plane.state) ∧
      (∀ operation told asked, (InPlace.on (InPlace.run fresh now operation)
        { plane := p, told := told, asked := asked }).2.plane =
          (p.run fresh now operation).plane) ∧
      (∀ agentId limit outcome s, p.state.pollForWork fresh agentId
          (p.config.clampPollLimit limit) p.config.dispatchPolicy p.observers now =
            .ok (outcome, s) →
        outcome.leased = [] → outcome.expired = [] →
          (p.run fresh now (.poll agentId limit)).plane = p) ∧
      ((p.state.expireStale now).1 = [] → (p.run fresh now .expireStale).plane = p) ∧
      ∀ nodeId, (p.state.reconcileFirewall fresh nodeId now).1 = [] →
        (p.run fresh now (.reconcileFirewall nodeId)).plane = p := by
  refine ⟨?_, ?_, ?_, plane_expireStale_idle, fun nodeId => plane_reconcileFirewall_idle⟩
  · intro operation
    exact (ends_run p fresh now operation).tells
  · intro operation told asked
    exact (InPlace.follows_run fresh now operation _).plane
  · intro agentId limit outcome s polled leased expired
    exact plane_poll_idle polled leased expired

def attended : Plane :=
  (idle { Config.standard "" with bootstrapToken := "token" }).after
    [{ fresh := .strokes 'a', now := .epoch, observers := []
       operation := .register ⟨"token", "node", [], .empty⟩ }]

/-- The first heartbeat after a registration reports another status, so it counts; a second
one like it does not. -/
theorem revision_tells_attended :
    State.Tells (.heartbeat "a" ⟨"1", .empty, [], none, none⟩ none) attended.state
        (attended.run (.strokes 'b') .epoch
          (.heartbeat "a" ⟨"1", .empty, [], none, none⟩ none)).plane.state ∧
      (∃ outcome s, attended.state.pollForWork (.strokes 'b') "a"
          (attended.config.clampPollLimit none) attended.config.dispatchPolicy
          attended.observers .epoch = .ok (outcome, s) ∧
        outcome.leased = [] ∧ outcome.expired = [] ∧
        (attended.run (.strokes 'b') .epoch (.poll "a" none)).plane = attended) ∧
      (attended.state.expireStale .epoch).1 = [] ∧
      (attended.run (.strokes 'b') .epoch .expireStale).plane = attended ∧
      (attended.state.reconcileFirewall (.strokes 'b') "a" .epoch).1 = [] ∧
      (attended.run (.strokes 'b') .epoch (.reconcileFirewall "a")).plane = attended := by
  rcases revision_tells attended (.strokes 'b') .epoch with ⟨tells, -, poll, sweep, reconcile⟩
  have granted : (attended.state.pollForWork (.strokes 'b') "a"
      (attended.config.clampPollLimit none) attended.config.dispatchPolicy
      attended.observers .epoch).toOption.any
        (fun r => r.1.leased.isEmpty && r.1.expired.isEmpty) = true := by
    decide +kernel
  rcases Option.any_eq_true _ _ |>.mp granted with ⟨⟨outcome, s⟩, found, idle⟩
  simp only [Bool.and_eq_true, List.isEmpty_iff] at idle
  have polled := Refusal.toOption_eq_some.mp found
  have swept : (attended.state.expireStale .epoch).1 = [] := by
    with_unfolding_all rfl
  have settled : (attended.state.reconcileFirewall (.strokes 'b') "a" .epoch).1 = [] := by
    with_unfolding_all rfl
  exact ⟨tells _, ⟨outcome, s, polled, idle.1, idle.2,
    poll "a" none outcome s polled idle.1 idle.2⟩, swept, sweep swept, settled,
    reconcile "a" settled⟩

end Plane
end FleetControl
