import FleetControl.Plane.Operation
import FleetControl.Proofs.JobStore.Surroundings

/-!
# What an operation commits

An operation that is not refused commits one state, as a durable change or as one that can
wait.  What these states are is said here once, for every kind of operation; what holds of the
state after any operation is then a matter of one case for each kind.
-/

namespace FleetControl

open Refusal
open Time

namespace Store

theorem state_apply (store : Store) (change : Change) (s : State) :
    ∃ revision, (store.apply change s).state = { s with revision := revision } := by
  cases change with
  | volatile => exact ⟨s.revision, rfl⟩
  | durable =>
      refine ⟨s.revision + 1, ?_⟩
      unfold apply commit
      cases store.persistent <;> rfl

theorem agents_apply (store : Store) (change : Change) (s : State) :
    (store.apply change s).state.agents = s.agents := by
  rcases store.state_apply change s with ⟨revision, same⟩
  rw [same]

end Store

def Operation.isOnPorts : Operation → Bool
  | .addPool _ => true
  | .addRange _ => true
  | .allocateBlocks _ _ _ => true
  | .bindBlock _ _ => true
  | .releaseBlock _ _ => true
  | .allocatePort _ _ => true
  | .releaseInstancePorts _ _ => true
  | _ => false

namespace Plane

/-- The operation commits this state as a change of this kind. -/
inductive Commits (p : Plane) (fresh : Fresh) (now : Instant) :
    Operation → Change → State → Prop
  | register {req : Registration} {sealedSecret : String} {agent : Agent} {s : State}
      (registered : p.state.registerAgent fresh req sealedSecret now = .ok (agent, s)) :
      Commits p fresh now (.register req) .durable s
  | heartbeat {agentId : String} {beat : Heartbeat} {ip : Option String} {durable : Bool}
      {s : State}
      (taken : p.state.takeHeartbeat agentId beat ip p.config.windowsEnabled now =
        .ok (durable, s)) :
      Commits p fresh now (.heartbeat agentId beat ip) (.durableIf durable) s
  | poll {agentId : String} {limit : Option Nat} {outcome : PollOutcome} {s : State}
      (polled : p.state.pollForWork fresh agentId (p.config.clampPollLimit limit)
        p.config.dispatchPolicy p.observers now = .ok (outcome, s)) :
      Commits p fresh now (.poll agentId limit)
        (.durableIf (!outcome.leased.isEmpty || !outcome.expired.isEmpty)) s
  | submitResult {agentId jobId : String} {report : ResultReport} {reported : Reported}
      {s : State}
      (submitted : p.state.submitResult fresh agentId jobId report p.reportPolicy now =
        .ok (reported, s)) :
      Commits p fresh now (.submitResult agentId jobId report) .durable s
  | submitLogs {agentId jobId : String} {report : LogReport} {expires : Instant} {s : State}
      (submitted : p.state.submitLogs agentId jobId report p.reportPolicy now =
        .ok (expires, s)) :
      Commits p fresh now (.submitLogs agentId jobId report) .durable s
  | createJob {order : Job.Order} {actor : String} {job : Job} {s : State}
      (created : p.state.createJob fresh
        { order with createdBy := order.createdBy.or (some actor) } now = .ok (job, s)) :
      Commits p fresh now (.createJob order actor) .durable s
  | cancelJob {jobId actor : String} {job : Job} {s : State}
      (cancelled : p.state.cancelJob jobId now = .ok (job, s)) :
      Commits p fresh now (.cancelJob jobId actor) .durable s
  | expireStale :
      Commits p fresh now .expireStale
        (.durableIf (!(p.state.expireStale now).1.isEmpty)) (p.state.expireStale now).2
  | ports {operation : Operation} (about : operation.isOnPorts = true) (ports : Port.Tables)
      (nodes : List String) :
      Commits p fresh now operation .durable
        ({ p.state with ports := ports }.reconcileFirewalls fresh now nodes).2
  | reconcileFirewall (nodeId : String) :
      Commits p fresh now (.reconcileFirewall nodeId)
        (.durableIf (!(p.state.reconcileFirewall fresh nodeId now).1.isEmpty))
        (p.state.reconcileFirewall fresh nodeId now).2

/-- The plane is as it was, or as after a commit of the operation. -/
inductive Ends (p : Plane) (fresh : Fresh) (now : Instant) (operation : Operation) :
    Plane → Prop
  | unchanged : Ends p fresh now operation p
  | committed {change : Change} {s : State} (commits : p.Commits fresh now operation change s) :
      Ends p fresh now operation { p with store := p.store.apply change s }

variable {p : Plane} {fresh : Fresh} {now : Instant} {operation : Operation}

theorem ends_transact {α : Type} {result : Except Error (α × Change × State)}
    {tell : α → Notices}
    (commits : ∀ a change s, result = .ok (a, change, s) →
      p.Commits fresh now operation change s) :
    p.Ends fresh now operation (p.transact result tell).plane := by
  cases hresult : result with
  | error e => exact .unchanged
  | ok success =>
      rcases success with ⟨a, change, s⟩
      exact .committed (commits a change s hresult)

theorem ends_transactDurably {α : Type} {result : Except Error (α × State)}
    {tell : α → Notices}
    (commits : ∀ a s, result = .ok (a, s) → p.Commits fresh now operation .durable s) :
    p.Ends fresh now operation (p.transactDurably result tell).plane := by
  apply ends_transact
  intro a change s h
  rcases map_eq_ok.mp h with ⟨⟨a, s⟩, hresult, hsame⟩
  cases hsame
  exact commits a s hresult

/-- What holds of the state before an operation, and of every state that it commits. -/
theorem Ends.state_ind {P : State → Prop} {q : Plane} (ends : p.Ends fresh now operation q)
    (start : P p.state)
    (keep : ∀ change s, p.Commits fresh now operation change s →
      P (p.store.apply change s).state) : P q.state := by
  cases ends with
  | unchanged => exact start
  | committed commits => exact keep _ _ commits

theorem Ends.state_of_commits {P : State → Prop} {q : Plane}
    (ends : p.Ends fresh now operation q) (start : P p.state)
    (revise : ∀ s revision, P s → P { s with revision := revision })
    (keep : ∀ change s, p.Commits fresh now operation change s → P s) : P q.state := by
  refine ends.state_ind start ?_
  intro change s commits
  rcases p.store.state_apply change s with ⟨revision, same⟩
  rw [same]
  exact revise s revision (keep change s commits)

theorem plane_map {α β : Type} (f : α → β) (o : Outcome α) : (o.map f).plane = o.plane := rfl

theorem plane_jobDetail (p : Plane) (jobId : String) : (p.jobDetail jobId).plane = p := by
  unfold jobDetail
  split <;> rfl

/-!
# Agents and producers
-/

theorem ends_register (req : Registration) :
    p.Ends fresh now (.register req) (p.register fresh req now).plane := by
  unfold register
  split
  · rw [plane_map]
    exact ends_transactDurably fun _ _ registered => .register registered
  · exact .unchanged

theorem ends_heartbeat (agentId : String) (beat : Heartbeat) (ip : Option String) :
    p.Ends fresh now (.heartbeat agentId beat ip)
      (p.heartbeat agentId beat ip now).plane := by
  apply ends_transact
  intro a change s h
  rcases map_eq_ok.mp h with ⟨⟨durable, t⟩, taken, hsame⟩
  cases hsame
  exact .heartbeat taken

theorem ends_poll (agentId : String) (limit : Option Nat) :
    p.Ends fresh now (.poll agentId limit) (p.poll fresh agentId limit now).plane := by
  rw [poll, plane_map]
  apply ends_transact
  intro outcome change s h
  rcases map_eq_ok.mp h with ⟨⟨outcome, t⟩, polled, hsame⟩
  cases hsame
  exact .poll polled

theorem ends_expireStale :
    p.Ends fresh now .expireStale (p.expireStale now).plane := by
  apply ends_transact
  intro jobs change s h
  cases h
  exact .expireStale

/-!
# Ports
-/

theorem ends_putPorts {α : Type} {result : Except Error (α × Port.Tables)}
    {tell : α → Notices} (about : operation.isOnPorts = true) :
    p.Ends fresh now operation (p.transactDurably (p.putPorts result) tell).plane := by
  apply ends_transactDurably
  intro a s h
  rcases map_eq_ok.mp h with ⟨⟨b, ports⟩, _, hsame⟩
  cases hsame
  exact .ports about ports []

theorem ends_changePorts {α : Type} {result : Except Error (α × Port.Tables)}
    {nodes : α → List String} {tell : α × List Job → Notices}
    (about : operation.isOnPorts = true) :
    p.Ends fresh now operation
      (p.transactDurably (p.changePorts fresh result nodes now) tell).plane := by
  apply ends_transactDurably
  intro a s h
  rcases bind_eq_ok.mp h with ⟨⟨b, ports⟩, _, h⟩
  cases pure_eq_ok.mp h
  exact .ports about ports (nodes b)

theorem ends_reconcileFirewall (nodeId : String) :
    p.Ends fresh now (.reconcileFirewall nodeId)
      (p.reconcileFirewall fresh nodeId now).plane := by
  apply ends_transact
  intro jobs change s h
  cases h
  exact .reconcileFirewall nodeId

/-!
# All operations
-/

theorem ends_run (p : Plane) (fresh : Fresh) (now : Instant) (operation : Operation) :
    p.Ends fresh now operation (p.run fresh now operation).plane := by
  cases operation <;> rw [run, plane_map]
  case register req => exact ends_register req
  case heartbeat agentId beat ip => exact ends_heartbeat agentId beat ip
  case poll agentId limit => exact ends_poll agentId limit
  case submitResult agentId jobId report =>
      exact ends_transactDurably fun _ _ submitted => .submitResult submitted
  case submitLogs agentId jobId report =>
      exact ends_transactDurably fun _ _ submitted => .submitLogs submitted
  case createJob order actor =>
      exact ends_transactDurably fun _ _ created => .createJob created
  case jobDetail jobId =>
      rw [plane_jobDetail]
      exact .unchanged
  case cancelJob jobId actor =>
      exact ends_transactDurably fun _ _ cancelled => .cancelJob cancelled
  case expireStale => exact ends_expireStale
  case addPool pool => exact ends_putPorts rfl
  case addRange range => exact ends_putPorts rfl
  case allocateBlocks poolId req actor => exact ends_putPorts rfl
  case bindBlock blockId instanceId => exact ends_changePorts rfl
  case releaseBlock blockId actor => exact ends_changePorts rfl
  case allocatePort req actor => exact ends_changePorts rfl
  case releaseInstancePorts instanceId actor => exact ends_changePorts rfl
  case reconcileFirewall nodeId => exact ends_reconcileFirewall nodeId

end Plane
end FleetControl
