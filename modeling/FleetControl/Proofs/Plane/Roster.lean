import FleetControl.Proofs.JobStore.Results
import FleetControl.Proofs.Plane.Commits
import FleetControl.Proofs.State.Agents

/-!
# The agents on record

Only a registration and a heartbeat write to the agents on record: the one puts a new row in,
the other brings the row of one agent up to date.  No other operation, and no event, changes a
row, and no row is ever taken out.
-/

namespace FleetControl

open Refusal
open Time

structure Roster where
  agents : Table Agent
  revision : UInt64

namespace State

def roster (s : State) : Roster :=
  { agents := s.agents, revision := s.revision }

variable {s s' : State} {fresh : Fresh} {now : Instant}

theorem roster_of_surroundings (h : s'.surroundings = s.surroundings) :
    s'.roster = s.roster := by
  have same := congrArg roster h
  exact same

theorem agents_of_surroundings (h : s'.surroundings = s.surroundings) :
    s'.agents = s.agents :=
  congrArg Roster.agents (roster_of_surroundings h)

theorem roster_reconcileFirewalls (s : State) (fresh : Fresh) (now : Instant)
    (nodes : List String) : (s.reconcileFirewalls fresh now nodes).2.roster = s.roster :=
  roster_of_surroundings (s.surroundings_reconcileFirewalls fresh now nodes)

/-!
# Events
-/

theorem roster_applyEvent {thresholds : Inventory.DiskThresholds} {event : Effect.Event}
    {followUp : FollowUp}
    (h : s.applyEvent fresh thresholds now event = .ok (followUp, s')) :
    s'.roster = s.roster := by
  have same := congrArg roster (besides_applyEvent h)
  cases event <;> exact same

theorem roster_applyEvents (s : State) (fresh : Fresh) (thresholds : Inventory.DiskThresholds)
    (now : Instant) (events : List Effect.Event) :
    (s.applyEvents fresh thresholds now events).2.2.roster = s.roster :=
  keep_applyEvents (fun m => m.roster = s.roster)
    (fun _ _ _ _ _ same applied => (roster_applyEvent applied).trans same) rfl

/-!
# Reports
-/

theorem roster_submitResult {agentId jobId : String} {report : ResultReport}
    {policy : ReportPolicy} {reported : Reported}
    (h : s.submitResult fresh agentId jobId report policy now = .ok (reported, s')) :
    s'.roster = s.roster := by
  rcases submitResult_eq_ok h with ⟨_, _, job, result, m, _, _, finished, rfl⟩
  rw [roster_applyEvents]
  exact roster_of_surroundings (surroundings_finishJob finished)

end State

/-!
# All operations
-/

inductive RosterMove (fresh : Fresh) (now : Instant) : Operation → Roster → Roster → Prop
  | keep {operation : Operation} {roster : Roster} :
      RosterMove fresh now operation roster roster
  | register {req : Registration} {roster : Roster} (agent : Agent) :
      RosterMove fresh now (.register req) roster
        { roster with agents := roster.agents.insert fresh.agent agent }
  | beat {agentId : String} {beat : Heartbeat} {ip : Option String} {roster : Roster}
      {agent : Agent} {status : Agent.Status}
      (found : roster.agents.get? agentId = some agent) :
      RosterMove fresh now (.heartbeat agentId beat ip) roster
        { roster with
          agents := roster.agents.insert agentId (State.beatAgent agent beat status ip now) }

theorem RosterMove.revision {fresh : Fresh} {now : Instant} {operation : Operation}
    {a b : Roster} (move : RosterMove fresh now operation a b) : b.revision = a.revision := by
  cases move <;> rfl

namespace Plane

variable {p : Plane} {fresh : Fresh} {now : Instant} {operation : Operation}

theorem Commits.roster {change : Change} {s : State}
    (commits : p.Commits fresh now operation change s) :
    RosterMove fresh now operation p.state.roster s.roster := by
  cases commits with
  | register registered =>
      rw [State.registerAgent_eq_ok registered]
      exact .register _
  | heartbeat taken =>
      rcases State.takeHeartbeat_eq_ok taken with ⟨agent, status, _, _, found, _, _, _, rfl⟩
      have known : p.state.roster.agents.get? _ = some agent := found
      exact .beat known
  | poll polled =>
      rw [State.roster_of_surroundings (State.surroundings_pollForWork polled)]
      exact .keep
  | submitResult submitted =>
      rw [State.roster_submitResult submitted]
      exact .keep
  | submitLogs submitted =>
      rw [State.roster_of_surroundings (State.surroundings_submitLogs submitted)]
      exact .keep
  | createJob created =>
      rw [State.roster_of_surroundings (State.surroundings_createJob created)]
      exact .keep
  | cancelJob cancelled =>
      rw [State.roster_of_surroundings (State.surroundings_cancelJob cancelled)]
      exact .keep
  | expireStale =>
      rw [State.roster_of_surroundings (p.state.surroundings_expireStale now)]
      exact .keep
  | ports about ports nodes =>
      rw [State.roster_reconcileFirewalls]
      exact .keep
  | reconcileFirewall nodeId =>
      rw [State.roster_of_surroundings
        (p.state.surroundings_reconcileFirewall fresh nodeId now)]
      exact .keep

end Plane
end FleetControl
