import FleetControl.Proofs.InPlace.Dispatch
import FleetControl.Proofs.JobStore.Selection
import FleetControl.Proofs.JobStore.Soundness

/-!
# What a poll gives

On a plane whose jobs have all been created by its own operations, a poll gives the agent just
what is selected from the front of the queue.  It gives something if there is something to
select there, but it never looks behind: an agent may get nothing while a job that it could
run waits.
-/

namespace FleetControl

open Time

namespace Plane

variable {p : Plane} {steps : List Step} {agentId : String} {agent : Agent} {expires : Instant}

/-- A poll leases what it selects, to the end of the lease if that is an instant, and is refused
before it looks at anything if the agent runs a system that is disabled. -/
theorem pollForWork_selects (empty : p.state.jobStore.IsEmpty) (runs : p.RunsFresh steps)
    (known : (p.after steps).state.agents.get? agentId = some agent) (fresh : Fresh)
    (limit : Nat) (policy : DispatchPolicy) (observers : List Observer) (now : Instant) :
    ((agent.isWindows = true → policy.windowsEnabled = true) →
      ∀ expires, now.addSeconds? policy.leaseSeconds = some expires →
      ∃ outcome s', (p.after steps).state.pollForWork fresh agentId limit policy observers now =
          .ok (outcome, s') ∧
        outcome.expired = ((p.after steps).state.expireStale now).1 ∧
        ((p.after steps).state.expireStale now).2.LeasesSelection fresh policy observers
          agentId agent now expires
          (((p.after steps).state.expireStale now).2.freeSlots agentId agent)
          (State.countUpdates (((p.after steps).state.expireStale now).2.held agentId)) limit
          outcome.leased s' ∧
        ∀ id, id ∉ outcome.expired.map Job.id → id ∉ outcome.leased.map Job.id →
          s'.dossier id = (p.after steps).state.dossier id) ∧
    (agent.isWindows = true → policy.windowsEnabled = false →
      Error.windowsDisabled.kind = .serviceUnavailable ∧
      ∀ w : Scene, w.plane.store.state = (p.after steps).state →
        InPlace.on (InPlace.pollForWork fresh agentId limit policy observers now) w =
          (.error .windowsDisabled, w)) := by
  constructor
  · intro able expires ends
    exact State.pollForWork_leasesSelection (staged_after empty.staged runs) known able ends limit
  · intro windows disabled
    refine ⟨rfl, ?_⟩
    intro w same
    have refused : w.plane.store.state.pollForWork fresh agentId limit policy observers now =
        .error .windowsDisabled := by
      unfold State.pollForWork
      rw [same, known]
      exact if_pos ⟨windows, by simp [disabled]⟩
    have reaches := InPlace.reaches_pollForWork fresh agentId limit policy observers now w
    rw [refused] at reaches
    exact reaches

def mixedRun : List Step :=
  [{ fresh := .strokes 'a', now := .epoch, observers := []
     operation := .register ⟨"token", "plain", [], .empty⟩ },
   { fresh := .strokes 'b', now := .epoch, observers := []
     operation := .register ⟨"token", "other", [], .ofList [("os", .text "Windows")]⟩ },
   { fresh := .strokes 'c', now := .epoch, observers := []
     operation := .createJob ⟨"node.reboot", .empty, none⟩ "operator" },
   { fresh := .strokes 'd', now := .epoch, observers := [], operation := .poll "a" none },
   { fresh := .strokes 'e', now := .epoch, observers := []
     operation := .createJob ⟨"node.reboot", .empty, none⟩ "operator" }]

def mixedPlane : Plane :=
  idle { Config.standard "" with bootstrapToken := "token" }

theorem isEmpty_mixedPlane : mixedPlane.state.jobStore.IsEmpty := ⟨rfl, rfl, rfl⟩

theorem ends_mixedPlane :
    Instant.epoch.addSeconds? mixedPlane.config.leaseSeconds =
      some (Instant.epoch.addSeconds 600) := by
  decide +kernel

theorem runsFresh_mixedRun : mixedPlane.RunsFresh mixedRun :=
  runsFresh_of_letters isEmpty_mixedPlane ['a', 'b', 'c', 'd', 'e'] (by decide) rfl

/-- The agent runs the first job, and is leased the second for ten minutes. -/
theorem pollForWork_selects_mixed :
    (∃ agent expires outcome s', (mixedPlane.after mixedRun).state.agents.get? "a" = some agent ∧
      Instant.epoch.addSeconds? 600 = some expires ∧
      ((mixedPlane.after mixedRun).state.expireStale .epoch).2.held "a" ≠ [] ∧
      (mixedPlane.after mixedRun).state.pollForWork (.strokes 'f') "a" 5
        mixedPlane.config.dispatchPolicy [] .epoch = .ok (outcome, s') ∧
      outcome.leased.map Job.id = ["e||"] ∧
      ((mixedPlane.after mixedRun).state.expireStale .epoch).2.LeasesSelection (.strokes 'f')
        mixedPlane.config.dispatchPolicy [] "a" agent .epoch expires
        (((mixedPlane.after mixedRun).state.expireStale .epoch).2.freeSlots "a" agent)
        (State.countUpdates (((mixedPlane.after mixedRun).state.expireStale .epoch).2.held "a"))
        5 outcome.leased s') ∧
    ∀ w : Scene, w.plane = mixedPlane.after mixedRun →
      InPlace.on (InPlace.pollForWork (.strokes 'f') "b" 5 mixedPlane.config.dispatchPolicy []
        .epoch) w = (.error .windowsDisabled, w) := by
  have systems : ((mixedPlane.after mixedRun).state.agents.get? "a").map Agent.isWindows =
        some false ∧
      ((mixedPlane.after mixedRun).state.agents.get? "b").map Agent.isWindows = some true := by
    decide +kernel
  have runs : (((mixedPlane.after mixedRun).state.expireStale .epoch).2.held "a").map Job.id =
      ["c|"] := by
    decide +kernel
  have handed : ((mixedPlane.after mixedRun).state.pollForWork (.strokes 'f') "a" 5
      mixedPlane.config.dispatchPolicy [] .epoch).toOption.map
        (fun r => r.1.leased.map Job.id) = some ["e||"] := by
    decide +kernel
  rcases Option.map_eq_some_iff.mp systems.1 with ⟨agent, known, plain⟩
  rcases Option.map_eq_some_iff.mp systems.2 with ⟨other, known', windows⟩
  constructor
  · have able : agent.isWindows = true → mixedPlane.config.windowsEnabled = true := by
      rw [plain]
      exact fun h => absurd h Bool.false_ne_true
    have busy : ((mixedPlane.after mixedRun).state.expireStale .epoch).2.held "a" ≠ [] := by
      rintro none_
      rw [none_] at runs
      cases runs
    rcases (pollForWork_selects isEmpty_mixedPlane runsFresh_mixedRun known (.strokes 'f') 5
      mixedPlane.config.dispatchPolicy [] .epoch).1 able _ ends_mixedPlane with
      ⟨outcome, s', polled, _, leases, _⟩
    rw [polled] at handed
    exact ⟨agent, _, outcome, s', known, ends_mixedPlane, busy, polled, Option.some.inj handed, leases⟩
  · intro w same
    exact ((pollForWork_selects isEmpty_mixedPlane runsFresh_mixedRun known' (.strokes 'f') 5
      mixedPlane.config.dispatchPolicy [] .epoch).2 windows rfl).2 w (by rw [same]; rfl)

/-!
# What may wait in vain
-/

theorem answer_poll {fresh : Fresh} {limit : Option Nat} {now : Instant} {outcome : PollOutcome}
    {s : State} (polled : p.state.pollForWork fresh agentId (p.config.clampPollLimit limit)
      p.config.dispatchPolicy p.observers now = .ok (outcome, s)) :
    (p.poll fresh agentId limit now).answer =
      .ok { jobs := outcome.leased.map Envelope.ofJob
            maxConcurrency := outcome.maxConcurrency } := by
  unfold poll
  rw [polled]
  rfl

theorem answer_of_pollForWork {step : Step} {limit : Option Nat} {outcome : PollOutcome}
    {s : State} (operation : step.operation = .poll agentId limit)
    (polled : p.state.pollForWork step.fresh agentId (p.config.clampPollLimit limit)
      p.config.dispatchPolicy step.observers step.now = .ok (outcome, s)) :
    (p.perform step).answer = .ok (.work
      { jobs := outcome.leased.map Envelope.ofJob
        maxConcurrency := outcome.maxConcurrency }) := by
  rw [perform, operation]
  exact congrArg (Except.map Answer.work)
    (answer_poll (p := { p with observers := step.observers }) polled)

/-- The job passes the filters of the dispatch when the agent polls. -/
def Suits (p : Plane) (now : Instant) (agentId : String) (agent : Agent) (job : Job) : Prop :=
  State.Admits p.config.dispatchPolicy [] agentId agent
    (State.countUpdates ((p.state.expireStale now).2.held agentId)) job

/-- With observers that hold nothing back, a poll gives something just if the sweep leaves a
slot and the front of the queue has a job that suits the agent. -/
theorem serves_iff_of_staged {step : Step} {limit : Option Nat}
    (staged : p.state.jobStore.Staged) (operation : step.operation = .poll agentId limit)
    (known : p.state.agents.get? agentId = some agent)
    (able : agent.isWindows = true → p.config.windowsEnabled = true)
    (calm : ∀ allows ∈ step.observers, ∀ job agent, allows job agent = true)
    (ends : step.now.addSeconds? p.config.leaseSeconds = some expires) :
    ∃ reply queue, (p.perform step).answer = .ok (.work reply) ∧
      (p.state.expireStale step.now).2.IsQueue queue ∧
      (reply.jobs ≠ [] ↔ 0 < (p.state.expireStale step.now).2.freeSlots agentId agent ∧
        ∃ job ∈ queue.take (p.config.clampPollLimit limit),
          p.Suits step.now agentId agent job) := by
  have enabled : agent.isWindows = true → p.config.dispatchPolicy.windowsEnabled = true := able
  rcases State.pollForWork_leasesSelection staged known enabled ends
    (p.config.clampPollLimit limit) with ⟨outcome, s, polled, _, leases, _⟩
  rcases leases.selected with ⟨queue, isQueue, selected⟩
  refine ⟨_, queue, answer_of_pollForWork operation polled, isQueue, ?_⟩
  rw [Ne, List.map_eq_nil_iff, selected, List.map_eq_nil_iff]
  refine State.selection_ne_nil_iff.trans (and_congr_right fun _ => ?_)
  simp only [State.admits_iff_of_calm calm, Suits]

/-- The agent is given something by a poll, if a slot is left for it after the sweep and any
job that is queued then suits it, wherever in the queue that job stands. -/
def ServesWaiting (p : Plane) (step : Step) (agentId : String) : Prop :=
  ∀ agent job, p.state.agents.get? agentId = some agent →
    (agent.isWindows = true → p.config.windowsEnabled = true) →
    (∀ allows ∈ step.observers, ∀ job agent, allows job agent = true) →
    0 < (p.state.expireStale step.now).2.freeSlots agentId agent →
    (p.state.expireStale step.now).2.jobs.get? job.id = some job → job.status = .queued →
    p.Suits step.now agentId agent job →
    ∃ reply, (p.perform step).answer = .ok (.work reply) ∧ reply.jobs ≠ []

def starvingRun : List Step :=
  [{ fresh := .strokes 'a', now := .epoch, observers := []
     operation := .register ⟨"token", "node", [], .empty⟩ },
   { fresh := .strokes 'b', now := .epoch, observers := []
     operation := .createJob ⟨"mail.sync", .ofList [("agent_id", "other")], none⟩ "operator" },
   { fresh := .strokes 'c', now := .epoch, observers := []
     operation := .createJob ⟨"mail.sync", .empty, none⟩ "operator" }]

def starvingPoll (limit : Nat) : Step :=
  { fresh := .strokes 'd', now := .epoch, observers := [], operation := .poll "a" (some limit) }

theorem runsFresh_starvingRun : mixedPlane.RunsFresh starvingRun :=
  runsFresh_of_letters isEmpty_mixedPlane ['a', 'b', 'c'] (by decide) rfl

/-- The agent has free slots, and two jobs wait: the first is for another agent, and the second
suits this one. -/
theorem waiting_starving :
    ∃ agent foreign own, (mixedPlane.after starvingRun).state.agents.get? "a" = some agent ∧
      agent.isWindows = false ∧
      0 < ((mixedPlane.after starvingRun).state.expireStale .epoch).2.freeSlots "a" agent ∧
      (∀ queue, ((mixedPlane.after starvingRun).state.expireStale .epoch).2.IsQueue queue ↔
        queue = [foreign, own]) ∧
      ¬ (mixedPlane.after starvingRun).Suits .epoch "a" agent foreign ∧
      (mixedPlane.after starvingRun).Suits .epoch "a" agent own := by
  have registered : ((mixedPlane.after starvingRun).state.agents.get? "a").map (fun agent =>
      (agent.isWindows, decide (0 <
        ((mixedPlane.after starvingRun).state.expireStale .epoch).2.freeSlots "a" agent))) =
      some (false, true) := by
    decide +kernel
  have rows : (((mixedPlane.after starvingRun).state.expireStale .epoch).2.jobs.values.filter
      (fun job => job.status = .queued)).map (fun job =>
        (job.type, job.payload.get? "agent_id", job.createdAt, job.seq)) =
      [("mail.sync", some "other", .epoch, 1), ("mail.sync", none, .epoch, 2)] := by
    decide +kernel
  rcases Option.map_eq_some_iff.mp registered with ⟨agent, known, traits⟩
  rcases List.map_eq_cons_iff.mp rows with ⟨foreign, rest, waits, first, rows⟩
  rcases List.map_eq_cons_iff.mp rows with ⟨own, last, rfl, second, none_⟩
  cases List.map_eq_nil_iff.mp none_
  rcases Prod.mk.inj traits with ⟨plain, free⟩
  simp only [Prod.mk.injEq] at first second
  rcases first with ⟨_, target, created, seq⟩
  rcases second with ⟨type, untargeted, created', seq'⟩
  refine ⟨agent, foreign, own, known, plain, of_decide_eq_true free, ?_, ?_, ?_⟩
  · have isQueue : ((mixedPlane.after starvingRun).state.expireStale .epoch).2.IsQueue
        [foreign, own] := by
      refine ⟨List.Perm.of_eq waits.symm, ?_⟩
      rw [List.pairwise_pair, seq, seq']
      exact Or.inr ⟨created.trans created'.symm, by decide⟩
    intro queue
    refine ⟨fun other => isQueue.unique other ?_, fun same => same ▸ isQueue⟩
    simp [seq, seq']
  · intro suits
    rcases suits.target "other" target with empty | same
    · exact absurd empty (by decide)
    · exact absurd same (by decide)
  · constructor
    · simp [untargeted]
    · intro update
      rw [type] at update
      exact absurd update (by decide)
    · simp [plain]
    · simp

/-- With room for one candidate the poll looks at the first job only, which is for another
agent. -/
theorem not_servesWaiting_starving :
    mixedPlane.state.jobStore.IsEmpty ∧ mixedPlane.RunsFresh starvingRun ∧
      ¬ (mixedPlane.after starvingRun).ServesWaiting (starvingPoll 1) "a" := by
  refine ⟨isEmpty_mixedPlane, runsFresh_starvingRun, ?_⟩
  intro serves
  rcases waiting_starving with
    ⟨agent, foreign, own, known, plain, free, isQueue_iff, unsuited, suits⟩
  have staged := staged_after isEmpty_mixedPlane.staged runsFresh_starvingRun
  have swept := (State.marks_expireStale staged .epoch).staged staged
  have able : agent.isWindows = true → mixedPlane.config.windowsEnabled = true := by
    simp [plain]
  have operation : (starvingPoll 1).operation = .poll "a" (some 1) := rfl
  have calm : ∀ allows ∈ (starvingPoll 1).observers, ∀ job agent, allows job agent = true := by
    simp [starvingPoll]
  have own_mem : own ∈ [foreign, own] := List.mem_cons_of_mem foreign List.mem_cons_self
  rcases (((isQueue_iff _).mpr rfl).mem_iff swept.named).mp own_mem with ⟨held, queued⟩
  rcases serves agent own known able calm free held queued suits with ⟨reply, answer, given⟩
  rcases serves_iff_of_staged staged operation known able calm ends_mixedPlane with
    ⟨reply', queue, answer', isQueue, given_iff⟩
  cases answer.symm.trans answer'
  cases (isQueue_iff queue).mp isQueue
  rcases (given_iff.mp given).2 with ⟨job, front, suits'⟩
  cases List.mem_singleton.mp front
  exact unsuited suits'

/-- With observers that hold nothing back, a poll whose leases end at an instant gives something
just if the agent has a slot left after the sweep and one of the first jobs of the queue suits it,
as many of them as the limit says. -/
theorem poll_serves_iff (empty : p.state.jobStore.IsEmpty) (runs : p.RunsFresh steps)
    {step : Step} {limit : Option Nat} (operation : step.operation = .poll agentId limit)
    (known : (p.after steps).state.agents.get? agentId = some agent)
    (able : agent.isWindows = true → (p.after steps).config.windowsEnabled = true)
    (calm : ∀ allows ∈ step.observers, ∀ job agent, allows job agent = true)
    (ends : step.now.addSeconds? (p.after steps).config.leaseSeconds = some expires) :
    ∃ reply queue, ((p.after steps).perform step).answer = .ok (.work reply) ∧
      ((p.after steps).state.expireStale step.now).2.IsQueue queue ∧
      (reply.jobs ≠ [] ↔
        0 < ((p.after steps).state.expireStale step.now).2.freeSlots agentId agent ∧
        ∃ job ∈ queue.take ((p.after steps).config.clampPollLimit limit),
          (p.after steps).Suits step.now agentId agent job) :=
  serves_iff_of_staged (staged_after empty.staged runs) operation known able calm ends

theorem poll_serves_iff_starving :
    ∃ reply, ((mixedPlane.after starvingRun).perform (starvingPoll 2)).answer =
        .ok (.work reply) ∧ reply.jobs ≠ [] := by
  rcases waiting_starving with
    ⟨agent, foreign, own, known, plain, free, isQueue_iff, unsuited, suits⟩
  have operation : (starvingPoll 2).operation = .poll "a" (some 2) := rfl
  rcases poll_serves_iff isEmpty_mixedPlane runsFresh_starvingRun operation known
    (by simp [plain]) (by simp [starvingPoll]) ends_mixedPlane with
    ⟨reply, queue, answer, isQueue, given_iff⟩
  cases (isQueue_iff queue).mp isQueue
  have own_mem : own ∈ [foreign, own] := List.mem_cons_of_mem foreign List.mem_cons_self
  exact ⟨reply, answer, given_iff.mpr ⟨free, own, own_mem, suits⟩⟩

end Plane
end FleetControl
