import FleetControl.Proofs.Plane.Commits
import FleetControl.Proofs.Plane.Run

/-!
# What an operation records

An operation is refused, and then nothing is audited and nothing changes.  Or it is accepted,
and then its audit events and the state that it commits come from one and the same result.
Both are said here once, for every kind of operation.
-/

namespace FleetControl

open Refusal
open Time

namespace Plane

def creationEvents (now : Instant) (jobs : List Job) : List AuditEvent :=
  jobs.map (jobEvent "job.created" system now)

/-- The operation commits this state and is audited by these events. -/
inductive Records (p : Plane) (fresh : Fresh) (now : Instant) :
    Operation → List AuditEvent → State → Prop
  | register {req : Registration} {sealedSecret : String} {agent : Agent} {s : State}
      (registered : p.state.registerAgent fresh req sealedSecret now = .ok (agent, s)) :
      Records p fresh now (.register req)
        [(AuditEvent.plain "agent.registered" agent.id agent.id now).noting "name" agent.name] s
  | heartbeat {agentId : String} {beat : Heartbeat} {ip : Option String} {durable : Bool}
      {s : State}
      (taken : p.state.takeHeartbeat agentId beat ip p.config.windowsEnabled now =
        .ok (durable, s)) :
      Records p fresh now (.heartbeat agentId beat ip) [] s
  | poll {agentId : String} {limit : Option Nat} {outcome : PollOutcome} {s : State}
      (polled : p.state.pollForWork fresh agentId (p.config.clampPollLimit limit)
        p.config.dispatchPolicy p.observers now = .ok (outcome, s)) :
      Records p fresh now (.poll agentId limit)
        (outcome.expired.map (jobEvent "job.expired" system now) ++
          outcome.leased.map (jobEvent "job.leased" agentId now)) s
  | submitResult {agentId jobId : String} {report : ResultReport} {reported : Reported}
      {s : State}
      (submitted : p.state.submitResult fresh agentId jobId report p.reportPolicy now =
        .ok (reported, s)) :
      Records p fresh now (.submitResult agentId jobId report)
        (resultEvent agentId jobId now reported ::
          (creationEvents now reported.followUp.createdJobs ++
            reported.followUp.released.flatMap (fun r => releaseEvents system now r.blocks))) s
  | submitLogs {agentId jobId : String} {report : LogReport} {expires : Instant} {s : State}
      (submitted : p.state.submitLogs agentId jobId report p.reportPolicy now =
        .ok (expires, s)) :
      Records p fresh now (.submitLogs agentId jobId report) [] s
  | createJob {order : Job.Order} {actor : String} {job : Job} {s : State}
      (created : p.state.createJob fresh
        { order with createdBy := order.createdBy.or (some actor) } now = .ok (job, s)) :
      Records p fresh now (.createJob order actor) [jobEvent "job.created" actor now job] s
  | jobDetail {jobId : String} : Records p fresh now (.jobDetail jobId) [] p.state
  | cancelJob {jobId actor : String} {job : Job} {s : State}
      (cancelled : p.state.cancelJob jobId now = .ok (job, s)) :
      Records p fresh now (.cancelJob jobId actor) [.plain "job.cancelled" actor jobId now] s
  | expireStale {expired : List Job} {s : State}
      (swept : p.state.expireStale now = (expired, s)) :
      Records p fresh now .expireStale (expired.map (jobEvent "job.expired" system now)) s
  | addPool {pool row : Port.Pool} {ports : Port.Tables}
      (added : p.state.ports.addPool pool fresh.pool = .ok (row, ports)) :
      Records p fresh now (.addPool pool) [] { p.state with ports := ports }
  | addRange {range row : Port.Range} {ports : Port.Tables}
      (added : p.state.ports.addRange range fresh.range = .ok (row, ports)) :
      Records p fresh now (.addRange range) [] { p.state with ports := ports }
  | allocateBlocks {poolId actor : String} {req : Port.BlockRequest} {blocks : List Port.Block}
      {ports : Port.Tables}
      (allocated : p.state.ports.allocateBlocks poolId req now fresh.block =
        .ok (blocks, ports)) :
      Records p fresh now (.allocateBlocks poolId req actor) (blocks.map (blockEvent actor now))
        { p.state with ports := ports }
  | bindBlock {blockId instanceId : String} {block : Port.Block} {ports : Port.Tables}
      {jobs : List Job} {s : State}
      (bound : p.state.ports.bindBlock blockId instanceId = .ok (block, ports))
      (reconciled : { p.state with ports := ports }.reconcileFirewalls fresh now
        [block.nodeId] = (jobs, s)) :
      Records p fresh now (.bindBlock blockId instanceId) (creationEvents now jobs) s
  | releaseBlock {blockId actor : String} {block : Port.Block} {ports : Port.Tables}
      {jobs : List Job} {s : State}
      (released : p.state.ports.releaseBlock blockId now = .ok (block, ports))
      (reconciled : { p.state with ports := ports }.reconcileFirewalls fresh now
        [block.nodeId] = (jobs, s)) :
      Records p fresh now (.releaseBlock blockId actor)
        (releaseEvents actor now [blockId] ++ creationEvents now jobs) s
  | allocatePort {req : Port.Request} {actor : String} {allocation : Port.Allocation}
      {ports : Port.Tables} {jobs : List Job} {s : State}
      (allocated : p.state.ports.allocatePort req now fresh.allocation =
        .ok (allocation, ports))
      (reconciled : { p.state with ports := ports }.reconcileFirewalls fresh now
        [allocation.nodeId] = (jobs, s)) :
      Records p fresh now (.allocatePort req actor)
        (allocationEvent actor now allocation :: creationEvents now jobs) s
  | releaseInstancePorts {instanceId actor : String} {release : Port.Release}
      {ports : Port.Tables} {jobs : List Job} {s : State}
      (released : p.state.ports.releaseInstance instanceId now = (release, ports))
      (reconciled : { p.state with ports := ports }.reconcileFirewalls fresh now
        release.nodes.names = (jobs, s)) :
      Records p fresh now (.releaseInstancePorts instanceId actor)
        (releaseEvents actor now release.blocks ++ creationEvents now jobs) s
  | reconcileFirewall {nodeId : String} {jobs : List Job} {s : State}
      (reconciled : p.state.reconcileFirewall fresh nodeId now = (jobs, s)) :
      Records p fresh now (.reconcileFirewall nodeId) (creationEvents now jobs) s

/-- The operation is refused without a trace, or it is accepted and recorded. -/
inductive Recorded (p : Plane) (fresh : Fresh) (now : Instant) (operation : Operation)
    {α : Type} (o : Outcome α) : Prop
  | refused {e : Error} (answer : o.answer = .error e) (silent : o.notices.audit = [])
      (kept : o.plane = p)
  | accepted {a : α} {s : State} {revision : UInt64} (answer : o.answer = .ok a)
      (records : p.Records fresh now operation o.notices.audit s)
      (state : o.plane.state = { s with revision := revision })

variable {p : Plane} {fresh : Fresh} {now : Instant} {operation : Operation}

theorem Recorded.map {α β : Type} {o : Outcome α} (recorded : p.Recorded fresh now operation o)
    (f : α → β) : p.Recorded fresh now operation (o.map f) := by
  cases recorded with
  | @refused e answer silent kept =>
      have refused : (o.map f).answer = .error e := congrArg (Except.map f) answer
      exact .refused refused silent kept
  | @accepted a s revision answer records state =>
      have accepted : (o.map f).answer = .ok (f a) := congrArg (Except.map f) answer
      exact .accepted accepted records state

theorem recorded_refuse {α : Type} (e : Error) :
    p.Recorded fresh now operation (p.refuse e : Outcome α) :=
  .refused rfl rfl rfl

theorem recorded_transact {α : Type} {result : Except Error (α × Change × State)}
    {tell : α → Notices}
    (records : ∀ a change s, result = .ok (a, change, s) →
      p.Records fresh now operation (tell a).audit s) :
    p.Recorded fresh now operation (p.transact result tell) := by
  cases hresult : result with
  | error e => exact recorded_refuse e
  | ok success =>
      rcases success with ⟨a, change, s⟩
      rcases p.store.state_apply change s with ⟨revision, state⟩
      exact .accepted rfl (records a change s hresult) state

theorem recorded_transactDurably {α : Type} {result : Except Error (α × State)}
    {tell : α → Notices}
    (records : ∀ a s, result = .ok (a, s) → p.Records fresh now operation (tell a).audit s) :
    p.Recorded fresh now operation (p.transactDurably result tell) := by
  apply recorded_transact
  intro a change s h
  rcases map_eq_ok.mp h with ⟨⟨a, s⟩, hresult, hsame⟩
  cases hsame
  exact records a s hresult

theorem recorded_putPorts {α : Type} {result : Except Error (α × Port.Tables)}
    {tell : α → Notices}
    (records : ∀ a ports, result = .ok (a, ports) →
      p.Records fresh now operation (tell a).audit { p.state with ports := ports }) :
    p.Recorded fresh now operation (p.transactDurably (p.putPorts result) tell) := by
  apply recorded_transactDurably
  intro a s h
  rcases map_eq_ok.mp h with ⟨⟨a, ports⟩, hresult, hsame⟩
  cases hsame
  exact records a ports hresult

theorem recorded_changePorts {α : Type} {result : Except Error (α × Port.Tables)}
    {nodes : α → List String} {tell : α × List Job → Notices}
    (records : ∀ a ports jobs s, result = .ok (a, ports) →
      { p.state with ports := ports }.reconcileFirewalls fresh now (nodes a) = (jobs, s) →
      p.Records fresh now operation (tell (a, jobs)).audit s) :
    p.Recorded fresh now operation
      (p.transactDurably (p.changePorts fresh result nodes now) tell) := by
  apply recorded_transactDurably
  intro a s h
  rcases bind_eq_ok.mp h with ⟨⟨b, ports⟩, hresult, h⟩
  cases pure_eq_ok.mp h
  exact records b ports _ _ hresult rfl

/-!
# All operations
-/

theorem recorded_register (req : Registration) :
    p.Recorded fresh now (.register req) (p.register fresh req now) := by
  unfold register
  split
  · exact (recorded_transactDurably fun _ _ registered => .register registered).map _
  · exact recorded_refuse _

theorem recorded_heartbeat (agentId : String) (beat : Heartbeat) (ip : Option String) :
    p.Recorded fresh now (.heartbeat agentId beat ip) (p.heartbeat agentId beat ip now) := by
  apply recorded_transact
  intro a change s h
  rcases map_eq_ok.mp h with ⟨⟨durable, t⟩, taken, hsame⟩
  cases hsame
  exact .heartbeat taken

theorem recorded_poll (agentId : String) (limit : Option Nat) :
    p.Recorded fresh now (.poll agentId limit) (p.poll fresh agentId limit now) := by
  apply Recorded.map
  apply recorded_transact
  intro outcome change s h
  rcases map_eq_ok.mp h with ⟨⟨outcome, t⟩, polled, hsame⟩
  cases hsame
  exact .poll polled

theorem recorded_jobDetail (jobId : String) :
    p.Recorded fresh now (.jobDetail jobId) (p.jobDetail jobId) := by
  unfold jobDetail
  split
  · exact recorded_refuse _
  · exact .accepted rfl .jobDetail rfl

theorem recorded_expireStale : p.Recorded fresh now .expireStale (p.expireStale now) := by
  unfold expireStale
  cases swept : p.state.expireStale now with
  | mk expired s =>
      apply recorded_transact
      intro jobs change t h
      cases h
      exact .expireStale swept

theorem recorded_reconcileFirewall (nodeId : String) :
    p.Recorded fresh now (.reconcileFirewall nodeId) (p.reconcileFirewall fresh nodeId now) := by
  unfold reconcileFirewall
  cases reconciled : p.state.reconcileFirewall fresh nodeId now with
  | mk jobs s =>
      apply recorded_transact
      intro _ change t h
      cases h
      exact .reconcileFirewall reconciled

theorem recorded_run (p : Plane) (fresh : Fresh) (now : Instant) (operation : Operation) :
    p.Recorded fresh now operation (p.run fresh now operation) := by
  cases operation <;> apply Recorded.map
  case register req => exact recorded_register req
  case heartbeat agentId beat ip => exact recorded_heartbeat agentId beat ip
  case poll agentId limit => exact recorded_poll agentId limit
  case submitResult agentId jobId report =>
      exact (recorded_transactDurably fun _ _ submitted => .submitResult submitted).map _
  case submitLogs agentId jobId report =>
      exact recorded_transactDurably fun _ _ submitted => .submitLogs submitted
  case createJob order actor =>
      exact recorded_transactDurably fun _ _ created => .createJob created
  case jobDetail jobId => exact recorded_jobDetail jobId
  case cancelJob jobId actor =>
      exact recorded_transactDurably fun _ _ cancelled => .cancelJob cancelled
  case expireStale => exact recorded_expireStale
  case addPool pool => exact recorded_putPorts fun _ _ added => .addPool added
  case addRange range => exact recorded_putPorts fun _ _ added => .addRange added
  case allocateBlocks poolId req actor =>
      exact recorded_putPorts fun _ _ allocated => .allocateBlocks allocated
  case bindBlock blockId instanceId =>
      exact (recorded_changePorts fun _ _ _ _ bound reconciled =>
        .bindBlock bound reconciled).map _
  case releaseBlock blockId actor =>
      exact (recorded_changePorts fun _ _ _ _ released reconciled =>
        .releaseBlock released reconciled).map _
  case allocatePort req actor =>
      exact (recorded_changePorts fun _ _ _ _ allocated reconciled =>
        .allocatePort allocated reconciled).map _
  case releaseInstancePorts instanceId actor =>
      exact (recorded_changePorts fun _ _ _ _ released reconciled =>
        .releaseInstancePorts (Except.ok.inj released) reconciled).map _
  case reconcileFirewall nodeId => exact recorded_reconcileFirewall nodeId

theorem recorded_perform (p : Plane) (step : Step) :
    Recorded { p with observers := step.observers } step.fresh step.now step.operation
      (p.perform step) :=
  recorded_run { p with observers := step.observers } step.fresh step.now step.operation

/-!
# The trail of a run
-/

def trail (p : Plane) : List Step → List AuditEvent
  | [] => []
  | step :: rest => (p.perform step).notices.audit ++ (p.next step).trail rest

theorem trail_append (p : Plane) (first second : List Step) :
    p.trail (first ++ second) = p.trail first ++ (p.after first).trail second := by
  induction first generalizing p with
  | nil => rfl
  | cons step rest ih =>
      simp only [List.cons_append, trail, ih, after_cons, List.append_assoc]

theorem silent_of_refused {step : Step} {e : Error} (refused : (p.perform step).answer = .error e) :
    (p.perform step).notices.audit = [] := by
  cases p.recorded_perform step with
  | refused answer silent kept => exact silent
  | accepted answer records state => cases answer.symm.trans refused

end Plane
end FleetControl
