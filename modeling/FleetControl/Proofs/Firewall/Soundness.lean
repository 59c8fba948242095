import FleetControl.Proofs.Effect.Registry
import FleetControl.Proofs.Firewall.Network
import FleetControl.Proofs.Job.Work
import FleetControl.Proofs.JobStore.Results
import FleetControl.Proofs.Port.Deeds
import FleetControl.Proofs.Port.RuleSet
import FleetControl.Proofs.State.Agents

/-!
# Soundness of the network

Whatever is asked of the plane, its port tables make sense, and no rule that it manages has
port zero.  Rules become managed by the results of jobs only, and jobs name no such rule.
-/

namespace FleetControl

open Refusal
open Time

structure Network.Sound (n : Network) : Prop where
  ports : n.ports.Sound
  managed : ∀ nodeId f, n.firewalls.get? nodeId = some f → ∀ r ∈ f.managed, r.port ≠ 0

theorem Network.sound_of_empty {n : Network} (ports : n.ports = .empty)
    (firewalls : n.firewalls = .empty) : n.Sound where
  ports := ports ▸ Port.Tables.sound_empty
  managed := by
    intro nodeId f h
    rw [firewalls] at h
    cases h

theorem Port.Tables.positive_of_mem_portsBetween {start stop port : UInt16} (positive : start ≠ 0)
    (h : port ∈ portsBetween start stop) : port ≠ 0 := by
  rintro rfl
  exact positive (UInt16.le_zero_iff.mp (mem_portsBetween.mp h).1)

theorem Port.Tables.positive_of_mem_desired {t : Tables} {nodeId : String} {r : Rule}
    (sound : t.Sound) (h : r ∈ t.desired nodeId) : r.port ≠ 0 := by
  unfold desired at h
  rcases List.mem_append.mp (RuleSet.mem_ofList.mp h) with h | h
  · rcases List.mem_map.mp h with ⟨a, mem, rfl⟩
    rcases Table.mem_values_iff.mp (List.mem_filter.mp mem).1 with ⟨key, found⟩
    exact sound.ports key a found
  · rcases List.mem_flatMap.mp h with ⟨block, mem, h⟩
    rcases Table.mem_values_iff.mp (List.mem_filter.mp mem).1 with ⟨key, found⟩
    rcases List.mem_flatMap.mp h with ⟨port, between, h⟩
    rcases List.mem_map.mp h with ⟨protocol, _, rfl⟩
    exact positive_of_mem_portsBetween (sound.blocks key block found).start between

theorem Port.Tables.Sound.of_answer {α : Type} {t t' : Tables} {a : α}
    {x : Except Error (α × Tables)} (sound : t.Sound) (deed : Deed)
    (attempts : t.attempt deed = x.map Prod.snd) (h : x = .ok (a, t')) : t'.Sound := by
  rw [h] at attempts
  exact sound_attempt t deed t' sound attempts

namespace State

variable {s s' : State} {fresh : Fresh} {now : Instant}

/-!
# Events
-/

theorem managed_firewall (sound : s.network.Sound) (nodeId : String) :
    ∀ r ∈ (s.firewall nodeId).managed, r.port ≠ 0 := by
  unfold firewall
  cases known : s.firewalls.get? nodeId with
  | none =>
      intro r h
      cases h
  | some f => exact sound.managed nodeId f known

theorem sound_applyFirewallChange (sound : s.network.Sound) {nodeId : String}
    {opened : List Port.Rule} (closed : List Port.Rule) (positive : ∀ r ∈ opened, r.port ≠ 0) :
    (s.applyFirewallChange nodeId opened closed now).network.Sound where
  ports := sound.ports
  managed := by
    intro other f h r hr
    simp only [applyFirewallChange, network, Table.get?_insert] at h
    split at h
    · cases h
      simp only [Firewall.Node.change, Port.RuleSet.mem_eraseAll,
        Port.RuleSet.mem_insertAll] at hr
      rcases hr.1 with hr | hr
      · exact managed_firewall sound nodeId r hr
      · exact positive r hr
    · exact sound.managed other f h r hr

theorem network_releasePorts (s : State) (fresh : Fresh) (instanceId : String) (now : Instant) :
    (s.releasePorts fresh instanceId now).2.network =
      { s.network with ports := (s.ports.releaseInstance instanceId now).2 } :=
  network_reconcileFirewalls { s with ports := (s.ports.releaseInstance instanceId now).2 }
    fresh now (s.ports.releaseInstance instanceId now).1.nodes.names

theorem sound_releasePorts (fresh : Fresh) (now : Instant) (sound : s.network.Sound)
    (instanceId : String) :
    (s.releasePorts fresh instanceId now).2.network.Sound := by
  rw [network_releasePorts]
  exact ⟨Port.Tables.sound_attempt s.ports (.releaseInstance instanceId now) _ sound.ports rfl,
    sound.managed⟩

def OpensProper (event : Effect.Event) : Prop :=
  ∀ nodeId opened closed, event = .firewallApplied nodeId opened closed →
    ∀ r ∈ opened, r.port ≠ 0

theorem sound_applyEvent {thresholds : Inventory.DiskThresholds} {event : Effect.Event}
    {followUp : FollowUp} (sound : s.network.Sound) (proper : OpensProper event)
    (h : s.applyEvent fresh thresholds now event = .ok (followUp, s')) : s'.network.Sound := by
  have same := congrArg network (besides_applyEvent h)
  cases event with
  | firewallApplied nodeId opened closed =>
      cases h
      exact sound_applyFirewallChange sound closed (proper nodeId opened closed rfl)
  | portsReleased instanceId =>
      have released := sound_releasePorts fresh now sound instanceId
      rw [Except.ok.inj h] at released
      exact released
  | _ =>
      have kept : s'.network = s.network := same
      rw [kept]
      exact sound

theorem sound_applyEvents {events : List Effect.Event} (thresholds : Inventory.DiskThresholds)
    (sound : s.network.Sound) (proper : ∀ event ∈ events, OpensProper event) :
    (s.applyEvents fresh thresholds now events).2.2.network.Sound :=
  keep_applyEvents (fun m => m.network.Sound)
    (fun event mem _ _ _ sound applied => sound_applyEvent sound (proper event mem) applied) sound

theorem opensProper_of_mem_eventsOf {registry : Effect.Registry Effect.Handler}
    (all : registry.All Effect.Handler.KeepsToWork) {job : Job} {result : Job.Result}
    {event : Effect.Event} (h : event ∈ eventsOf registry job result) : OpensProper event := by
  rintro nodeId opened closed rfl
  rcases mem_eventsOf h with ⟨i, handler, decoded, _, _, routed, mem⟩
  rcases all.route routed i nodeId opened closed mem with ⟨rules, meant, named⟩
  rw [meant] at decoded
  exact fun r hr => Job.Work.positive_of_decode decoded r (named r hr)

theorem sound_submitResult {agentId jobId : String} {report : ResultReport}
    {policy : ReportPolicy} {reported : Reported}
    (all : policy.registry.All Effect.Handler.KeepsToWork) (sound : s.network.Sound)
    (h : s.submitResult fresh agentId jobId report policy now = .ok (reported, s')) :
    s'.network.Sound := by
  rcases submitResult_eq_ok h with ⟨token, status, job, result, m, _, _, hfinish, rfl⟩
  have sound' : m.network.Sound := network_finishJob hfinish ▸ sound
  exact sound_applyEvents policy.thresholds sound'
    fun event h => opensProper_of_mem_eventsOf all h

/-!
# Signs of life
-/

theorem sound_recordOpenPorts (now : Instant) (sound : s.network.Sound) (nodeId : String)
    (ports : Port.RuleSet) : (s.recordOpenPorts nodeId ports now).network.Sound where
  ports := sound.ports
  managed := by
    intro other f h
    simp only [recordOpenPorts, network, Table.get?_insert] at h
    split at h
    · cases h
      exact managed_firewall sound nodeId
    · exact sound.managed other f h

theorem sound_takeHeartbeat {agentId : String} {beat : Heartbeat} {ip : Option String}
    {windows durable : Bool} (sound : s.network.Sound)
    (h : s.takeHeartbeat agentId beat ip windows now = .ok (durable, s')) :
    s'.network.Sound := by
  rcases takeHeartbeat_eq_ok h with ⟨agent, status, openPorts, _, _, _, _, _, rfl⟩
  cases openPorts with
  | none => exact sound
  | some ports =>
      have sound' := sound_recordOpenPorts now sound agentId ports
      exact ⟨sound'.ports, sound'.managed⟩

end State

end FleetControl
