import FleetControl.Proofs.Refusal
import FleetControl.State.Agents

/-!
# Registrations and heartbeats

What a registration and a heartbeat come to when they are not refused.  The one writes the row
of an agent; the other brings that row up to date, and the open ports of a firewall beside it.
-/

namespace FleetControl

open Refusal
open Time

namespace State

variable {s s' : State} {fresh : Fresh} {now : Instant}

theorem registerAgent_eq_ok {req : Registration} {sealedSecret : String} {agent : Agent}
    (h : s.registerAgent fresh req sealedSecret now = .ok (agent, s')) :
    s' = { s with agents := s.agents.insert fresh.agent agent } := by
  unfold registerAgent at h
  dsimp only at h
  split at h
  · cases h
  · cases h
    rfl

/-- A heartbeat that is not refused comes from an agent on record; it is a durable change
when the status, the roles or the open ports are reported anew. -/
theorem takeHeartbeat_eq_ok {agentId : String} {beat : Heartbeat} {ip : Option String}
    {windowsEnabled durable : Bool}
    (h : s.takeHeartbeat agentId beat ip windowsEnabled now = .ok (durable, s')) :
    ∃ agent status openPorts, (beat.reportsWindows = true → windowsEnabled = true) ∧
      s.agents.get? agentId = some agent ∧ beat.agentStatus = .ok status ∧
      beat.openPorts = .ok openPorts ∧
      durable = (decide (agent.status ≠ status) ||
        decide (agent.roles ≠ (beatAgent agent beat status ip now).roles) ||
        openPorts.isSome) ∧
      s' = { s with
        agents := s.agents.insert agentId (beatAgent agent beat status ip now)
        firewalls := match openPorts with
          | some ports => s.firewalls.insert agentId ((s.firewall agentId).report ports now)
          | none => s.firewalls } := by
  unfold takeHeartbeat at h
  split at h
  · cases h
  · rename_i admitted
    rcases bind_eq_ok.mp h with ⟨status, hstatus, h⟩
    rcases bind_eq_ok.mp h with ⟨openPorts, hports, h⟩
    split at h
    · exact absurd h throw_ne_ok
    · rename_i agent found
      refine ⟨agent, status, openPorts, by simpa using admitted, found, hstatus, hports, ?_⟩
      dsimp only at h
      split at h <;> cases pure_eq_ok.mp h <;> exact ⟨rfl, rfl⟩

end State
end FleetControl
