import FleetControl.Proofs.Effect.Registry
import FleetControl.Proofs.Job.Work
import FleetControl.State.Reports

/-!
# The order of events

The events of one job come in an order in which nothing is planned on what a later event
changes: a firewall changes alone, ports are released at the end, and a scan is asked for by
the name that the work of the job gives to an instance.
-/

namespace FleetControl

open Refusal

namespace Effect

def Event.isPlain : Event → Bool
  | .firewallApplied _ _ _ => false
  | .portsReleased _ => false
  | .diskScanRequested _ _ => false
  | _ => true

/-- Nothing that is asked for depends on what comes after it. -/
inductive InOrder : List Event → Prop
  | nil : InOrder []
  | firewall (nodeId : String) (opened closed : List Port.Rule) :
      InOrder [.firewallApplied nodeId opened closed]
  | release (instanceId : String) : InOrder [.portsReleased instanceId]
  | scan {instanceId : String} {nodeId : Option String} {rest : List Event}
      (trimmed : Text.trim instanceId = instanceId) (named : instanceId ≠ "")
      (others : InOrder rest) : InOrder (.diskScanRequested instanceId nodeId :: rest)
  | plain {event : Event} {rest : List Event} (plain : event.isPlain = true)
      (others : InOrder rest) : InOrder (event :: rest)

theorem inOrder_single {event : Event} (plain : event.isPlain = true) : InOrder [event] :=
  .plain plain .nil

def Input.Names (i : Input) : Prop :=
  ∀ instanceId nodeId action, i.work = .lifecycle instanceId nodeId action →
    Text.trim instanceId = instanceId ∧ instanceId ≠ ""

def Handler.Orders (handler : Handler) : Prop :=
  ∀ i, i.Names → InOrder (handler i)

namespace Handler

theorem orders_firewallApplied : Orders firewallApplied := by
  intro i _
  unfold firewallApplied
  split
  · split
    · split <;> exact .firewall _ _ _
    · exact .nil
  · exact .nil

theorem inOrder_instanceFollowUps {instanceId : String}
    (trimmed : Text.trim instanceId = instanceId) (named : instanceId ≠ "")
    (nodeId : Option String) (action : Inventory.Lifecycle) :
    InOrder (instanceFollowUps instanceId nodeId action) := by
  cases action with
  | create | start => exact .scan trimmed named .nil
  | delete => exact .release instanceId
  | _ => exact .nil

theorem orders_instanceLifecycle : Orders instanceLifecycle := by
  intro i names
  unfold instanceLifecycle
  split
  · rename_i instanceId nodeId action work
    rcases names instanceId nodeId action work with ⟨trimmed, named⟩
    split
    · split
      · exact .plain rfl (inOrder_instanceFollowUps trimmed named nodeId action)
      · exact .nil
    · split
      · exact inOrder_single rfl
      · exact .nil
    · exact .nil
  · exact .nil

/-- Most handlers have one plain event, or none. -/
theorem orders_of_mem_aside : ∀ handler ∈ aside, Orders handler := by
  simp only [aside, List.forall_mem_cons, List.not_mem_nil, false_implies, implies_true, and_true]
  refine ⟨?_, ?_, ?_, ?_, ?_, ?_, ?_, ?_, ?_, ?_⟩
  all_goals
    intro i _
    grind [domainAdded, certificateIssued, ddosReported, ddosPolicyApplied,
      voiceServerLifecycle, diskScanned, nodeDiskReported, queryChanged, backupFinished,
      userAnonymized, InOrder.nil, inOrder_single, Event.isPlain]

end Handler

theorem Registry.orders_standard : standard.All Handler.Orders :=
  all_standard Handler.orders_firewallApplied Handler.orders_instanceLifecycle
    Handler.orders_of_mem_aside

end Effect

/-!
# The events of a job
-/

namespace Job.Work

variable {type instanceId : String} {payload : Payload} {nodeId : Option String}
  {action : Inventory.Lifecycle}

theorem optional_of_required {field s : String} (h : required type payload field = .ok s) :
    optional payload field = some s := by
  unfold required at h
  split at h
  · rename_i found
    rw [found, Except.ok.inj h]
  · cases h

theorem named_of_ofFamily (h : ofFamily type payload = .ok (.lifecycle instanceId nodeId action)) :
    Text.trim instanceId = instanceId ∧ instanceId ≠ "" := by
  unfold ofFamily at h
  split at h
  · cases h
  · split at h
    · unfold ofVoiceServer at h
      split at h <;> cases h
    · split at h
      · rcases bind_eq_ok.mp h with ⟨written, found, h⟩
        cases pure_eq_ok.mp h
        exact trimmed_of_optional (optional_of_required found)
      · cases h

theorem named_of_decode (h : decode type payload = .ok (.lifecycle instanceId nodeId action)) :
    Text.trim instanceId = instanceId ∧ instanceId ≠ "" := by
  rcases decode_cases h with ⟨_, firewall⟩ | family | aside
  · rcases positive_of_ofFirewall firewall with ⟨_, _, same, _⟩
    cases same
  · exact named_of_ofFamily family
  · exact absurd rfl (aside.2 instanceId nodeId action)

end Job.Work

theorem State.mem_eventsOf {registry : Effect.Registry Effect.Handler} {job : Job}
    {result : Job.Result} {event : Effect.Event} (h : event ∈ eventsOf registry job result) :
    ∃ i handler, Job.Work.decode job.type job.payload = .ok i.work ∧ i.type = job.type ∧
      i.status = result.status ∧ registry.route job.type = some handler ∧ event ∈ handler i := by
  unfold eventsOf at h
  split at h
  · rename_i work decoded
    unfold Effect.Registry.eventsFor at h
    split at h
    · rename_i handler routed
      exact ⟨_, handler, decoded, rfl, rfl, routed, h⟩
    · cases h
  · cases h

theorem State.inOrder_eventsOf (job : Job) (result : Job.Result) :
    Effect.InOrder (eventsOf .standard job result) := by
  unfold eventsOf
  split
  · rename_i work decoded
    unfold Effect.Registry.eventsFor
    split
    · rename_i handler routed
      refine Effect.Registry.orders_standard.route routed _ ?_
      intro instanceId nodeId action meant
      rw [show work = _ from meant] at decoded
      exact Job.Work.named_of_decode decoded
    · exact .nil
  · exact .nil

end FleetControl
