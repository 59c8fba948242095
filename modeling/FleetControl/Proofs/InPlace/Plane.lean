import FleetControl.Proofs.InPlace.Dispatch
import FleetControl.Proofs.InPlace.Ports
import FleetControl.Proofs.JobStore.Soundness

/-!
# Operations in place

A transaction works on the state of the store itself.  If it is refused, no revision is
counted and no file is written, and whatever is told to others is told after it; but nothing
takes the writes back that it has made.  There are none.
-/

namespace FleetControl
namespace InPlace

open Port
open Time

variable {α β : Type}

/-!
# Transactions
-/

def thePlane : InPlace Scene Plane :=
  look (fun w => .ok w.plane)

def transact (x : InPlace Scene (α × Change)) : InPlace Scene α := do
  let r ← x
  write (Scene.commit r.2)
  return r.1

def transactDurably (x : InPlace State α) : InPlace Scene α :=
  transact (do
    let a ← onState x
    return (a, .durable))

def telling (notices : α → Notices) (x : InPlace Scene α) : InPlace Scene α := do
  let a ← x
  write (Scene.tell (notices a))
  return a

def onPorts (x : InPlace Tables α) : InPlace State α :=
  within State.ports (fun ports s => { s with ports := ports }) x

def changePorts (fresh : Fresh) (x : InPlace Tables α) (nodes : α → List String)
    (now : Instant) : InPlace State (α × List Job) := do
  let a ← onPorts x
  let jobs ← take (fun s => s.reconcileFirewalls fresh now (nodes a))
  return (a, jobs)

/-!
# Agents
-/

def registerAgent (fresh : Fresh) (req : Registration) (sealedSecret : String) (now : Instant) :
    InPlace State Agent :=
  if (Text.trim req.name).isEmpty then throw .agentNameMissing
  else do
    let agent : Agent :=
      { id := fresh.agent
        name := Text.trim req.name
        sealedSecret := sealedSecret
        roles := State.roleSet req.roles
        status := .registered
        lastHeartbeatAt := none
        lastHeartbeatIp := none
        lastHeartbeatVersion := none
        lastHeartbeatStats := .empty
        jobConcurrency := State.concurrencyOf req.metadata
        metadata := req.metadata
        registeredAt := now }
    write (fun s => { s with agents := s.agents.insert agent.id agent })
    return agent

def takeHeartbeat (agentId : String) (beat : Heartbeat) (ip : Option String)
    (windowsEnabled : Bool) (now : Instant) : InPlace State Bool :=
  if beat.reportsWindows ∧ !windowsEnabled then throw .windowsDisabled
  else do
    let status ← look (fun _ => beat.agentStatus)
    let openPorts ← look (fun _ => beat.openPorts)
    let agent ← findAgent agentId
    let after := State.beatAgent agent beat status ip now
    write (fun s => { s with agents := s.agents.insert agentId after })
    match openPorts with
    | some ports => write (fun s => s.recordOpenPorts agentId ports now)
    | none => pure ()
    return agent.status ≠ status || agent.roles ≠ after.roles || openPorts.isSome

/-!
# All operations
-/

def register (fresh : Fresh) (req : Registration) (now : Instant) : InPlace Scene Credential := do
  let p ← thePlane
  if p.admits req.bootstrapToken then do
    let agent ← telling
      (fun agent => .ofAudit
        [(AuditEvent.plain "agent.registered" agent.id agent.id now).noting "name" agent.name])
      (transactDurably (registerAgent fresh req
        (Crypto.Seal.close p.config.masterKey fresh.sealNonce fresh.secret) now))
    return { agentId := agent.id, secret := fresh.secret }
  else throw .badBootstrapToken

def heartbeat (agentId : String) (beat : Heartbeat) (ip : Option String) (now : Instant) :
    InPlace Scene Unit := do
  let p ← thePlane
  transact (do
    let durable ← onState (takeHeartbeat agentId beat ip p.config.windowsEnabled now)
    return ((), .durableIf durable))

def poll (fresh : Fresh) (agentId : String) (limit : Option Nat) (now : Instant) :
    InPlace Scene PollReply := do
  let p ← thePlane
  let outcome ← telling
    (fun outcome => .ofAudit
      (outcome.expired.map (Plane.jobEvent "job.expired" Plane.system now) ++
        outcome.leased.map (Plane.jobEvent "job.leased" agentId now)))
    (transact (do
      let outcome ← pollForWork fresh agentId (p.config.clampPollLimit limit)
        p.config.dispatchPolicy p.observers now
      return (outcome, .durableIf (!outcome.leased.isEmpty || !outcome.expired.isEmpty))))
  return { jobs := outcome.leased.map Envelope.ofJob, maxConcurrency := outcome.maxConcurrency }

def takeResult (fresh : Fresh) (agentId jobId : String) (report : ResultReport)
    (now : Instant) : InPlace Scene Reported := do
  let p ← thePlane
  telling
    (fun r =>
      { Notices.ofAudit [Plane.resultEvent agentId jobId now r] with
        finished := [{ job := r.job, result := r.result }] } ++
        Plane.tellFollowUp now r.followUp)
    (transactDurably (submitResult fresh agentId jobId report p.reportPolicy now))

def takeLogs (agentId jobId : String) (report : LogReport) (now : Instant) :
    InPlace Scene Instant := do
  let p ← thePlane
  transactDurably (submitLogs agentId jobId report p.reportPolicy now)

def jobDetail (jobId : String) : InPlace Scene JobDetail := do
  let p ← thePlane
  let job ← look (fun _ => p.state.findJob jobId)
  return { job := job, result := p.state.results.get? jobId, logs := p.state.logLines jobId }

def sweep (now : Instant) : InPlace Scene (List Job) :=
  telling (fun jobs => .ofAudit (jobs.map (Plane.jobEvent "job.expired" Plane.system now)))
    (transact (do
      let jobs ← onState (expireStale now)
      return (jobs, .durableIf (!jobs.isEmpty))))

def reconcileFirewall (fresh : Fresh) (nodeId : String) (now : Instant) :
    InPlace Scene (List Job) :=
  telling (Plane.createdJobs now)
    (transact (do
      let jobs ← onState (take (fun s => s.reconcileFirewall fresh nodeId now))
      return (jobs, .durableIf (!jobs.isEmpty))))

def run (fresh : Fresh) (now : Instant) : Operation → InPlace Scene Answer
  | .register req => do return .credential (← register fresh req now)
  | .heartbeat agentId beat ip => do
      heartbeat agentId beat ip now
      return .done
  | .poll agentId limit => do return .work (← poll fresh agentId limit now)
  | .submitResult agentId jobId report => do
      let _ ← takeResult fresh agentId jobId report now
      return .done
  | .submitLogs agentId jobId report => do
      return .leasedUntil (← takeLogs agentId jobId report now)
  | .createJob order actor => do
      return .job (← telling (fun job => .ofAudit [Plane.jobEvent "job.created" actor now job])
        (transactDurably (createJob fresh
          { order with createdBy := order.createdBy.or (some actor) } now)))
  | .jobDetail jobId => do return .detail (← jobDetail jobId)
  | .cancelJob jobId actor => do
      return .job (← telling (fun _ => .ofAudit [.plain "job.cancelled" actor jobId now])
        (transactDurably (cancelJob jobId now)))
  | .expireStale => do return .expired (← sweep now)
  | .addPool pool => do return .pool (← transactDurably (onPorts (addPool pool fresh.pool)))
  | .addRange range => do return .range (← transactDurably (onPorts (addRange range fresh.range)))
  | .allocateBlocks poolId req actor => do
      return .blocks (← telling (fun blocks => .ofAudit (blocks.map (Plane.blockEvent actor now)))
        (transactDurably (onPorts (allocateBlocks poolId req now fresh.block))))
  | .bindBlock blockId instanceId => do
      let r ← telling (fun r => Plane.createdJobs now r.2)
        (transactDurably (changePorts fresh (bindBlock blockId instanceId)
          (fun b => [b.nodeId]) now))
      return .block r.1
  | .releaseBlock blockId actor => do
      let r ← telling
        (fun r => .ofAudit (Plane.releaseEvents actor now [blockId]) ++
          Plane.createdJobs now r.2)
        (transactDurably (changePorts fresh (releaseBlock blockId now)
          (fun b => [b.nodeId]) now))
      return .block r.1
  | .allocatePort req actor => do
      let r ← telling
        (fun r => .ofAudit [Plane.allocationEvent actor now r.1] ++ Plane.createdJobs now r.2)
        (transactDurably (changePorts fresh (allocatePort req now fresh.allocation)
          (fun a => [a.nodeId]) now))
      return .allocation r.1
  | .releaseInstancePorts instanceId actor => do
      let r ← telling
        (fun r => .ofAudit (Plane.releaseEvents actor now r.1.blocks) ++
          Plane.createdJobs now r.2)
        (transactDurably (changePorts fresh (take (fun t => t.releaseInstance instanceId now))
          (fun r => r.nodes.names) now))
      return .release
        { blocks := r.1.blocks, allocations := r.1.allocations, firewallJobs := r.2 }
  | .reconcileFirewall nodeId => do return .jobs (← reconcileFirewall fresh nodeId now)

/-!
# States without a trace of refusals
-/

theorem settles_registerAgent (fresh : Fresh) (req : Registration) (sealedSecret : String)
    (now : Instant) :
    Settles (registerAgent fresh req sealedSecret now)
      (fun s => s.registerAgent fresh req sealedSecret now) :=
  settles_ite (fun _ => settles_throw _) (fun _ => settles_write _ _)

theorem settles_takeHeartbeat (agentId : String) (beat : Heartbeat) (ip : Option String)
    (windowsEnabled : Bool) (now : Instant) :
    Settles (takeHeartbeat agentId beat ip windowsEnabled now)
      (fun s => s.takeHeartbeat agentId beat ip windowsEnabled now) := by
  refine settles_ite (fun _ => settles_throw _) fun _ => settles_look fun status =>
    settles_look fun openPorts => ?_
  intro s
  have find := settles_findAgent agentId
  dsimp only
  cases known : s.agents.get? agentId with
  | none =>
      refine on_bind_of_error (find.on_of_error ?_)
      rw [known]
  | some agent =>
      have found : on (findAgent agentId) s = (.ok agent, s) := by
        refine find.on_of_ok ?_
        rw [known]
      rw [on_bind_of_ok found]
      cases openPorts with
      | none => rfl
      | some ports => rfl

theorem settles_onPorts {x : InPlace Tables α} {f : Tables → Except Error (α × Tables)}
    (settles : Settles x f) :
    Settles (onPorts x)
      (fun s => (f s.ports).map (fun (a, ports) => (a, { s with ports := ports }))) :=
  settles_within (fun _ => rfl) settles

theorem settles_changePorts (fresh : Fresh) {x : InPlace Tables α}
    {f : Tables → Except Error (α × Tables)} (settles : Settles x f) (nodes : α → List String)
    (now : Instant) :
    Settles (changePorts fresh x nodes now) (fun s => do
      let (a, ports) ← f s.ports
      let (jobs, s) := { s with ports := ports }.reconcileFirewalls fresh now (nodes a)
      return ((a, jobs), s)) := by
  intro s
  have ports := settles_onPorts settles
  dsimp only
  cases h : f s.ports with
  | error e => exact on_bind_of_error (ports.on_of_error (congrArg (Except.map _) h))
  | ok r => exact on_bind_of_ok (ports.on_of_ok (congrArg (Except.map _) h))

/-!
# Operations without a trace of refusals
-/

/-- The program answers as the operation does.  When it is done, it has left behind what the
operation has, and when it is refused, nothing. -/
structure Follows (x : InPlace Scene α) (w : Scene) (o : Outcome α) : Prop where
  refused : ∀ e, o.answer = .error e → o = w.plane.refuse e ∧ on x w = (.error e, w)
  done : ∀ a, o.answer = .ok a → ∃ asked, on x w =
    (.ok a, { plane := o.plane, told := w.told ++ o.notices, asked := w.asked ++ asked })

variable {w : Scene}

theorem Follows.unchanged {x : InPlace Scene α} {o : Outcome α} (follows : Follows x w o)
    {w' : Scene} {e : Error} (h : on x w = (.error e, w')) : w' = w := by
  cases answer : o.answer with
  | error e' =>
      cases h.symm.trans (follows.refused e' answer).2
      rfl
  | ok a =>
      rcases follows.done a answer with ⟨asked, done⟩
      cases h.symm.trans done

theorem told_none (notices : Notices) : notices ++ Notices.none = notices := by
  show Notices.append notices Notices.none = notices
  simp [Notices.append, Notices.none]

theorem follows_throw (e : Error) : Follows (throw e : InPlace Scene α) w (w.plane.refuse e) where
  refused := by
    rintro _ ⟨⟩
    exact ⟨rfl, rfl⟩
  done := by
    rintro a ⟨⟩

theorem Follows.map {x : InPlace Scene α} {o : Outcome α} (follows : Follows x w o) (f : α → β) :
    Follows (x >>= fun a => pure (f a)) w (o.map f) := by
  cases answer : o.answer with
  | error e =>
      rcases follows.refused e answer with ⟨rfl, h⟩
      refine ⟨?_, ?_⟩
      · rintro _ ⟨⟩
        exact ⟨rfl, on_bind_of_error h⟩
      · rintro a ⟨⟩
  | ok a =>
      rcases follows.done a answer with ⟨asked, h⟩
      have mapped : (o.map f).answer = .ok (f a) := congrArg (Except.map f) answer
      refine ⟨?_, ?_⟩
      · intro e refused
        cases mapped.symm.trans refused
      · intro b done
        cases mapped.symm.trans done
        exact ⟨asked, on_bind_of_ok h⟩

/-- The plane that a program reads is the plane that it works on. -/
theorem follows_thePlane {k : Plane → InPlace Scene α} {o : Outcome α}
    (rest : Follows (k w.plane) w o) : Follows (thePlane >>= k) w o where
  refused := rest.refused
  done := rest.done

theorem commit_putState (w : Scene) (change : Change) (s : State) (asked : List (Job × Agent)) :
    Scene.commit change ((w.putState s).ask asked) =
      { plane := { w.plane with store := w.plane.store.apply change s }
        told := w.told
        asked := w.asked ++ asked } := by
  cases change <;> rfl

theorem follows_transact {x : InPlace Scene β} {result : Except Error (β × State)}
    (reaches : Reaches x w result) (f : β → α × Change) :
    Follows (transact (x >>= fun b => pure (f b))) w
      (w.plane.transact (result.map (fun r => ((f r.1).1, (f r.1).2, r.2)))
        (fun _ => .none)) := by
  have mapped := reaches.map f
  cases result with
  | error e =>
      refine ⟨?_, ?_⟩
      · rintro _ ⟨⟩
        exact ⟨rfl, on_bind_of_error mapped⟩
      · rintro a ⟨⟩
  | ok r =>
      rcases mapped with ⟨asked, h⟩
      refine ⟨?_, ?_⟩
      · rintro e ⟨⟩
      · rintro a ⟨⟩
        refine ⟨asked, ?_⟩
        rw [transact, on_bind_of_ok h, on_bind, on_write, commit_putState]
        show _ = (_, Scene.mk _ (w.told ++ Notices.none) _)
        rw [told_none]
        rfl

theorem Follows.telling {x : InPlace Scene α} {result : Except Error (α × Change × State)}
    (follows : Follows x w (w.plane.transact result (fun _ => .none))) (notices : α → Notices) :
    Follows (telling notices x) w (w.plane.transact result notices) := by
  cases result with
  | error e =>
      refine ⟨?_, ?_⟩
      · rintro _ ⟨⟩
        exact ⟨rfl, on_bind_of_error (follows.refused e rfl).2⟩
      · rintro a ⟨⟩
  | ok r =>
      rcases follows.done r.1 rfl with ⟨asked, h⟩
      refine ⟨?_, ?_⟩
      · rintro e ⟨⟩
      · rintro a ⟨⟩
        refine ⟨asked, ?_⟩
        rw [InPlace.telling, on_bind_of_ok h, on_bind, on_write]
        show (_, Scene.mk _ ((w.told ++ Notices.none) ++ notices r.1) _) = _
        rw [told_none]
        rfl

theorem follows_transactDurably {x : InPlace State α} {f : State → Except Error (α × State)}
    (settles : Settles x f) :
    Follows (transactDurably x) w
      (w.plane.transactDurably (f w.plane.state) (fun _ => .none)) :=
  follows_transact (reaches_onState settles w) (fun a => (a, .durable))

theorem Follows.map_map {γ : Type} {x : InPlace Scene α} {o : Outcome α}
    (follows : Follows x w o) (f : α → β) (g : β → γ) :
    Follows (x >>= fun a => pure (g (f a))) w ((o.map f).map g) := by
  have same : (o.map f).map g = o.map (fun a => g (f a)) := by
    rcases o with ⟨answer, notices, p⟩
    cases answer <;> rfl
  rw [same]
  exact follows.map _

theorem follows_register (fresh : Fresh) (req : Registration) (now : Instant) (w : Scene) :
    Follows (register fresh req now) w (w.plane.register fresh req now) := by
  refine follows_thePlane ?_
  unfold Plane.register
  by_cases admitted : w.plane.admits req.bootstrapToken
  · rw [if_pos admitted, if_pos admitted]
    exact ((follows_transactDurably (settles_registerAgent fresh req _ now)).telling _).map _
  · rw [if_neg admitted, if_neg admitted]
    exact follows_throw _

theorem follows_heartbeat (agentId : String) (beat : Heartbeat) (ip : Option String)
    (now : Instant) (w : Scene) :
    Follows (heartbeat agentId beat ip now) w (w.plane.heartbeat agentId beat ip now) :=
  follows_thePlane (follows_transact (reaches_onState
    (settles_takeHeartbeat agentId beat ip w.plane.config.windowsEnabled now) w)
      (fun durable => ((), .durableIf durable)))

theorem follows_poll (fresh : Fresh) (agentId : String) (limit : Option Nat) (now : Instant)
    (w : Scene) :
    Follows (poll fresh agentId limit now) w (w.plane.poll fresh agentId limit now) :=
  follows_thePlane (((follows_transact (reaches_pollForWork fresh agentId
    (w.plane.config.clampPollLimit limit) w.plane.config.dispatchPolicy w.plane.observers now w)
      (fun outcome =>
        (outcome, .durableIf (!outcome.leased.isEmpty || !outcome.expired.isEmpty)))).telling
          _).map _)

theorem follows_takeResult (fresh : Fresh) (agentId jobId : String) (report : ResultReport)
    (now : Instant) (w : Scene) :
    Follows (takeResult fresh agentId jobId report now) w
      (w.plane.transactDurably
        (w.plane.state.submitResult fresh agentId jobId report w.plane.reportPolicy now)
        (fun r =>
          { Notices.ofAudit [Plane.resultEvent agentId jobId now r] with
            finished := [{ job := r.job, result := r.result }] } ++
            Plane.tellFollowUp now r.followUp)) :=
  follows_thePlane ((follows_transactDurably
    (settles_submitResult fresh agentId jobId report w.plane.reportPolicy now)).telling _)

theorem follows_takeLogs (agentId jobId : String) (report : LogReport) (now : Instant)
    (w : Scene) :
    Follows (takeLogs agentId jobId report now) w
      (w.plane.submitLogs agentId jobId report now) :=
  follows_thePlane (follows_transactDurably
    (settles_submitLogs agentId jobId report w.plane.reportPolicy now))

theorem follows_jobDetail (jobId : String) (w : Scene) :
    Follows (jobDetail jobId) w (w.plane.jobDetail jobId) := by
  refine follows_thePlane ?_
  unfold Plane.jobDetail
  cases found : w.plane.state.findJob jobId with
  | error e =>
      refine ⟨?_, ?_⟩
      · rintro _ ⟨⟩
        exact ⟨rfl, rfl⟩
      · rintro a ⟨⟩
  | ok job =>
      refine ⟨?_, ?_⟩
      · rintro e ⟨⟩
      · rintro a ⟨⟩
        refine ⟨[], ?_⟩
        rw [told_none, List.append_nil]
        rfl

theorem follows_sweep (now : Instant) (w : Scene) :
    Follows (sweep now) w (w.plane.expireStale now) :=
  (follows_transact (reaches_onState (settles_expireStale now) w)
    (fun jobs => (jobs, .durableIf (!jobs.isEmpty)))).telling _

theorem follows_reconcileFirewall (fresh : Fresh) (nodeId : String) (now : Instant)
    (w : Scene) :
    Follows (reconcileFirewall fresh nodeId now) w
      (w.plane.reconcileFirewall fresh nodeId now) := by
  have reaches := reaches_onState (settles_take (fun s => s.reconcileFirewall fresh nodeId now)) w
  unfold Plane.reconcileFirewall
  cases h : w.plane.state.reconcileFirewall fresh nodeId now with
  | mk jobs s =>
      rw [show w.plane.store.state.reconcileFirewall fresh nodeId now = (jobs, s) from h]
        at reaches
      exact (follows_transact reaches (fun jobs => (jobs, .durableIf (!jobs.isEmpty)))).telling _

theorem follows_changePorts (fresh : Fresh) {x : InPlace Tables α}
    {f : Tables → Except Error (α × Tables)} (settles : Settles x f) (nodes : α → List String)
    (now : Instant) (notices : α × List Job → Notices) (w : Scene) :
    Follows (telling notices (transactDurably (changePorts fresh x nodes now))) w
      (w.plane.transactDurably (w.plane.changePorts fresh (f w.plane.state.ports) nodes now)
        notices) :=
  (follows_transactDurably (settles_changePorts fresh settles nodes now)).telling notices

theorem follows_run (fresh : Fresh) (now : Instant) (operation : Operation) (w : Scene) :
    Follows (run fresh now operation) w (w.plane.run fresh now operation) := by
  cases operation with
  | register req => exact (follows_register fresh req now w).map _
  | heartbeat agentId beat ip => exact (follows_heartbeat agentId beat ip now w).map _
  | poll agentId limit => exact (follows_poll fresh agentId limit now w).map _
  | submitResult agentId jobId report =>
      exact (follows_takeResult fresh agentId jobId report now w).map_map
        (fun _ => ()) (fun _ => Answer.done)
  | submitLogs agentId jobId report => exact (follows_takeLogs agentId jobId report now w).map _
  | createJob order actor =>
      exact ((follows_transactDurably (settles_createJob fresh _ now)).telling _).map _
  | jobDetail jobId => exact (follows_jobDetail jobId w).map _
  | cancelJob jobId actor =>
      exact ((follows_transactDurably (settles_cancelJob jobId now)).telling _).map _
  | expireStale => exact (follows_sweep now w).map _
  | addPool pool =>
      exact (follows_transactDurably (settles_onPorts (settles_addPool pool fresh.pool))).map _
  | addRange range =>
      exact (follows_transactDurably (settles_onPorts (settles_addRange range fresh.range))).map _
  | allocateBlocks poolId req actor =>
      exact ((follows_transactDurably (settles_onPorts
        (settles_allocateBlocks poolId req now fresh.block))).telling _).map _
  | bindBlock blockId instanceId =>
      exact (follows_changePorts fresh (settles_bindBlock blockId instanceId) _ now _ w).map_map
        Prod.fst Answer.block
  | releaseBlock blockId actor =>
      exact (follows_changePorts fresh (settles_releaseBlock blockId now) _ now _ w).map_map
        Prod.fst Answer.block
  | allocatePort req actor =>
      exact (follows_changePorts fresh (settles_allocatePort req now fresh.allocation) _ now _
        w).map_map Prod.fst Answer.allocation
  | releaseInstancePorts instanceId actor =>
      exact (follows_changePorts fresh
        (settles_take (fun t : Tables => t.releaseInstance instanceId now)) _ now _ w).map_map
          _ Answer.release
  | reconcileFirewall nodeId => exact (follows_reconcileFirewall fresh nodeId now w).map _

/-- An operation that is refused leaves no trace, though it writes in place: the plane with
its state, its revision and its file is as before, nobody is told anything, and no observer is
asked.  So it is with an event that is refused. -/
theorem no_trace_of_refusal (fresh : Fresh) (now : Instant) :
    (∀ operation w, Follows (run fresh now operation) w (w.plane.run fresh now operation)) ∧
      (∀ operation w w' e, on (run fresh now operation) w = (.error e, w') → w' = w) ∧
      (∀ thresholds event, Settles (applyEvent fresh thresholds now event)
        (fun s => s.applyEvent fresh thresholds now event)) ∧
      ∀ thresholds event s s' e,
        on (applyEvent fresh thresholds now event) s = (.error e, s') → s' = s := by
  refine ⟨?_, ?_, ?_, ?_⟩
  · intro operation w
    exact follows_run fresh now operation w
  · intro operation w w' e h
    exact (follows_run fresh now operation w).unchanged h
  · intro thresholds event
    exact settles_applyEvent fresh thresholds now event
  · intro thresholds event s s' e h
    exact (settles_applyEvent fresh thresholds now event).unchanged h

def withdrawn : Scene :=
  { plane := (Plane.idle (.standard "")).after Plane.withdrawalRun, told := .none, asked := [] }

theorem no_trace_of_second_cancel :
    (∃ e w, on (run (.strokes 'c') .epoch (.cancelJob "a|" "operator")) withdrawn =
        (.error e, w) ∧ w = withdrawn) ∧
      ∃ e s, on (applyEvent (.strokes 'c') .standard .epoch (.instanceChanged "i" .error))
        .empty = (.error e, s) ∧ s = .empty := by
  rcases no_trace_of_refusal (.strokes 'c') .epoch with ⟨follows, unchanged, -, untouched⟩
  have none : (withdrawn.plane.run (.strokes 'c') .epoch
      (.cancelJob "a|" "operator")).answer.toOption.isNone = true := by decide +kernel
  have missing : on (applyEvent (.strokes 'c') .standard .epoch (.instanceChanged "i" .error))
      .empty = (.error (.missing .instance_ "i"), .empty) := rfl
  refine ⟨?_, _, _, missing, untouched _ _ _ _ _ missing⟩
  cases answer : (withdrawn.plane.run (.strokes 'c') .epoch
      (.cancelJob "a|" "operator")).answer with
  | error e =>
      have refused := ((follows (.cancelJob "a|" "operator") withdrawn).refused e answer).2
      exact ⟨e, withdrawn, refused, unchanged _ _ _ _ refused⟩
  | ok a =>
      rw [answer] at none
      cases none

end InPlace
end FleetControl
