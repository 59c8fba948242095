import FleetControl.Proofs.Firewall.Soundness
import FleetControl.Proofs.Plane.Transactions

/-!
# What the plane does to the network

The network is sound after every fresh run, with the handlers of all families, from a
plane that has no ports and no firewalls on record.
-/

namespace FleetControl

open Refusal
open Time

theorem Store.network_apply (store : Store) (change : Change) (s : State) :
    (store.apply change s).state.network = s.network := by
  rcases store.state_apply change s with ⟨revision, same⟩
  rw [same]
  rfl

def Operation.sparesNetwork : Operation → Bool
  | .register _ => true
  | .poll _ _ => true
  | .submitLogs _ _ _ => true
  | .createJob _ _ => true
  | .jobDetail _ => true
  | .cancelJob _ _ => true
  | .expireStale => true
  | .reconcileFirewall _ => true
  | _ => false

theorem Operation.not_isOnPorts {operation : Operation}
    (spares : operation.sparesNetwork = true) : operation.isOnPorts = false := by
  cases operation <;> first | rfl | cases spares

namespace Plane

variable {p : Plane} {fresh : Fresh} {now : Instant} {operation : Operation}

/-!
# Operations apart from those on ports
-/

theorem Commits.network {change : Change} {s : State}
    (commits : p.Commits fresh now operation change s)
    (spares : operation.sparesNetwork = true) : s.network = p.state.network := by
  cases commits with
  | register registered => exact State.network_registerAgent registered
  | poll polled => exact State.network_pollForWork polled
  | submitLogs submitted => exact State.network_submitLogs submitted
  | createJob created => exact State.network_createJob created
  | cancelJob cancelled => exact State.network_cancelJob cancelled
  | expireStale => exact p.state.network_expireStale now
  | reconcileFirewall nodeId => exact p.state.network_reconcileFirewall fresh nodeId now
  | ports about ports nodes =>
      rw [Operation.not_isOnPorts spares] at about
      cases about
  | heartbeat taken => cases spares
  | submitResult submitted => cases spares

theorem Ends.network {q : Plane} (ends : p.Ends fresh now operation q)
    (spares : operation.sparesNetwork = true) : q.state.network = p.state.network := by
  apply ends.state_ind (P := fun s => s.network = p.state.network)
  · rfl
  · intro change s commits
    rw [Store.network_apply]
    exact commits.network spares

theorem Commits.sound {change : Change} {s : State}
    (commits : p.Commits fresh now operation change s) (aside : operation.isOnPorts = false)
    (all : p.registry.All Effect.Handler.KeepsToWork) (sound : p.state.network.Sound) :
    s.network.Sound := by
  cases hspares : operation.sparesNetwork with
  | true =>
      rw [commits.network hspares]
      exact sound
  | false =>
      cases commits with
      | heartbeat taken => exact State.sound_takeHeartbeat sound taken
      | submitResult submitted => exact State.sound_submitResult all sound submitted
      | ports about ports nodes => cases about.symm.trans aside
      | register | poll | submitLogs | createJob | cancelJob | expireStale
      | reconcileFirewall => cases hspares

theorem Ends.sound {q : Plane} (ends : p.Ends fresh now operation q)
    (aside : operation.isOnPorts = false)
    (all : p.registry.All Effect.Handler.KeepsToWork) (sound : p.state.network.Sound) :
    q.state.network.Sound := by
  refine ends.state_ind (P := fun s => s.network.Sound) sound ?_
  intro change s commits
  rw [Store.network_apply]
  exact commits.sound aside all sound

/-!
# Operations on ports
-/

theorem sound_transactDurably {α : Type} {result : Except Error (α × State)}
    {tell : α → Notices} (sound : p.state.network.Sound)
    (keep : ∀ a s, result = .ok (a, s) → s.network.Sound) :
    (p.transactDurably result tell).plane.state.network.Sound := by
  cases hresult : result with
  | error e => exact sound
  | ok success =>
      rcases success with ⟨a, s⟩
      show (p.store.apply .durable s).state.network.Sound
      rw [Store.network_apply]
      exact keep a s hresult

theorem sound_putPorts {α : Type} {result : Except Error (α × Port.Tables)} {tell : α → Notices}
    (sound : p.state.network.Sound) (keep : ∀ a ports, result = .ok (a, ports) → ports.Sound) :
    (p.transactDurably (p.putPorts result) tell).plane.state.network.Sound := by
  refine sound_transactDurably sound ?_
  intro a s h
  rcases map_eq_ok.mp h with ⟨⟨b, ports⟩, hresult, hsame⟩
  cases hsame
  exact ⟨keep a ports hresult, sound.managed⟩

theorem sound_changePorts {α : Type} {result : Except Error (α × Port.Tables)}
    {nodes : α → List String} {tell : α × List Job → Notices} (sound : p.state.network.Sound)
    (keep : ∀ a ports, result = .ok (a, ports) → ports.Sound) :
    (p.transactDurably (p.changePorts fresh result nodes now) tell).plane.state.network.Sound := by
  refine sound_transactDurably sound ?_
  intro a s h
  rcases bind_eq_ok.mp h with ⟨⟨b, ports⟩, hresult, h⟩
  cases pure_eq_ok.mp h
  rw [State.network_reconcileFirewalls]
  exact ⟨keep b ports hresult, sound.managed⟩

theorem sound_allocateBlocks {t t' : Port.Tables} {poolId : String} {req : Port.BlockRequest}
    {names : Nat → String} {blocks : List Port.Block} (sound : t.Sound)
    (h : t.allocateBlocks poolId req now names = .ok (blocks, t')) : t'.Sound := by
  unfold Port.Tables.allocateBlocks at h
  split at h
  · exact sound.of_answer (.allocateBlock poolId req.customerId req.size.toNat now names) rfl h
  · split at h
    · cases h
    · rename_i pool _
      exact sound.of_answer (.allocateBlocksInRange poolId req.customerId
        (req.start.getD pool.startPort) (req.stop.getD pool.endPort) req.size.toNat now names)
        rfl h

theorem sound_releaseInstancePorts (sound : p.state.network.Sound) (instanceId actor : String) :
    (p.releaseInstancePorts fresh instanceId actor now).plane.state.network.Sound := by
  rw [releaseInstancePorts, plane_map]
  refine sound_changePorts sound ?_
  intro a t h
  cases h
  exact Port.Tables.sound_attempt _ (.releaseInstance instanceId now) _ sound.ports rfl

/-!
# All operations
-/

theorem sound_run (all : p.registry.All Effect.Handler.KeepsToWork)
    (sound : p.state.network.Sound) (operation : Operation) :
    (p.run fresh now operation).plane.state.network.Sound := by
  have ports := sound.ports
  cases aside : operation.isOnPorts with
  | false => exact (ends_run p fresh now operation).sound aside all sound
  | true =>
      cases operation <;> rw [run, plane_map]
      case addPool pool =>
          exact sound_putPorts sound fun a t h => ports.of_answer (.addPool pool fresh.pool) rfl h
      case addRange range =>
          exact sound_putPorts sound
            fun a t h => ports.of_answer (.addRange range fresh.range) rfl h
      case allocateBlocks poolId req actor =>
          exact sound_putPorts sound fun a t h => sound_allocateBlocks ports h
      case bindBlock blockId instanceId =>
          rw [bindBlock, plane_map]
          exact sound_changePorts sound
            fun a t h => ports.of_answer (.bindBlock blockId instanceId) rfl h
      case releaseBlock blockId actor =>
          rw [releaseBlock, plane_map]
          exact sound_changePorts sound
            fun a t h => ports.of_answer (.releaseBlock blockId now) rfl h
      case allocatePort req actor =>
          rw [allocatePort, plane_map]
          exact sound_changePorts sound
            fun a t h => ports.of_answer (.allocatePort req now fresh.allocation) rfl h
      case releaseInstancePorts instanceId actor =>
          exact sound_releaseInstancePorts sound instanceId actor
      all_goals cases aside

theorem sound_next {step : Step} (all : p.registry.All Effect.Handler.KeepsToWork)
    (sound : p.state.network.Sound) : (p.next step).state.network.Sound :=
  sound_run (p := { p with observers := step.observers }) all sound step.operation

theorem registry_after (p : Plane) (steps : List Step) :
    (p.after steps).registry = p.registry := by
  induction steps generalizing p with
  | nil => rfl
  | cons step rest ih => exact (ih (p.next step)).trans (p.registry_next step)

theorem network_sound_after {steps : List Step}
    (all : p.registry.All Effect.Handler.KeepsToWork) (sound : p.state.network.Sound) :
    (p.after steps).state.network.Sound := by
  induction steps generalizing p with
  | nil => exact sound
  | cons step rest ih =>
      refine ih ?_ (sound_next all sound)
      rw [registry_next]
      exact all

end Plane
end FleetControl
