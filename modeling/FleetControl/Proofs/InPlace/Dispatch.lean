import FleetControl.Plane.Basic
import FleetControl.Proofs.InPlace.Reports

/-!
# Dispatch in place

A poll asks the observers before each lease, and goes on when a lease is refused.  It is
refused itself before it sweeps, and before it asks anybody.
-/

namespace FleetControl

/-- All that an operation can leave a trace in: the plane, what has been told, and the
questions that observers have been asked. -/
structure Scene where
  plane : Plane
  told : Notices
  asked : List (Job × Agent)

namespace Scene

def putState (w : Scene) (s : State) : Scene :=
  { w with plane := { w.plane with store := { w.plane.store with state := s } } }

def commit (change : Change) (w : Scene) : Scene :=
  { w with
    plane := { w.plane with store := w.plane.store.apply change w.plane.store.state } }

def tell (notices : Notices) (w : Scene) : Scene :=
  { w with told := w.told ++ notices }

def ask (questions : List (Job × Agent)) (w : Scene) : Scene :=
  { w with asked := w.asked ++ questions }

@[simp] theorem ask_nil (w : Scene) : w.ask [] = w := by
  simp [ask]

end Scene

namespace InPlace

open Time

variable {α β : Type}

def onState (x : InPlace State α) : InPlace Scene α :=
  within (fun w => w.plane.store.state) (fun s w => w.putState s) x

def findAgent (agentId : String) : InPlace State Agent :=
  look (fun s =>
    match s.agents.get? agentId with
    | none => .error (.unknownAgent agentId)
    | some agent => .ok agent)

def askObservers (job : Job) (agent : Agent) : List Observer → InPlace Scene Bool
  | [] => return true
  | observer :: rest => do
      write (Scene.ask [(job, agent)])
      if observer job agent then askObservers job agent rest else return false

def passes (policy : DispatchPolicy) (agentId : String) (agent : Agent) (updates : Nat)
    (job : Job) : Bool :=
  (match job.targetAgent? with
    | some target => target = agentId
    | none => true) &&
  !(Job.isUpdate job.type && decide (policy.updateJobLimit ≤ updates)) &&
  !(agent.isWindows && !policy.windowsJobTypes.contains job.type)

def leaseCandidates (fresh : Fresh) (policy : DispatchPolicy) (observers : List Observer)
    (agentId : String) (agent : Agent) (now : Instant) (slots updates : Nat) :
    List String → InPlace Scene (List Job)
  | [] => return []
  | jobId :: rest =>
      if slots = 0 then return []
      else do
        match ← onState (look (fun s => .ok (s.jobs.get? jobId))) with
        | none => leaseCandidates fresh policy observers agentId agent now slots updates rest
        | some job =>
            if passes policy agentId agent updates job then do
              if ← askObservers job agent observers then do
                match ← attempt (onState (leaseJob jobId agentId (fresh.token jobId)
                    (1000 * policy.leaseSeconds) now)) with
                | none =>
                    leaseCandidates fresh policy observers agentId agent now slots updates rest
                | some leased => do
                    let updates := if Job.isUpdate job.type then updates + 1 else updates
                    let more ← leaseCandidates fresh policy observers agentId agent now
                      (slots - 1) updates rest
                    return leased :: more
              else leaseCandidates fresh policy observers agentId agent now slots updates rest
            else leaseCandidates fresh policy observers agentId agent now slots updates rest

def pollForWork (fresh : Fresh) (agentId : String) (limit : Nat) (policy : DispatchPolicy)
    (observers : List Observer) (now : Instant) : InPlace Scene PollOutcome := do
  let agent ← onState (findAgent agentId)
  if agent.isWindows ∧ !policy.windowsEnabled then throw .windowsDisabled
  else do
    let expired ← onState (expireStale now)
    let s ← onState (look .ok)
    let leased ← leaseCandidates fresh policy observers agentId agent now
      (agent.jobConcurrency.toNat - (s.runningFor agentId).length) (s.runningUpdatesFor agentId)
      (s.queuedIds.take limit)
    return { leased := leased, expired := expired, maxConcurrency := agent.jobConcurrency }

/-!
# No trace of refusals
-/

theorem settles_findAgent (agentId : String) :
    Settles (findAgent agentId) (fun s =>
      match s.agents.get? agentId with
      | none => .error (.unknownAgent agentId)
      | some agent => .ok (agent, s)) := by
  intro s
  rw [findAgent, on_look]
  dsimp only
  cases s.agents.get? agentId <;> rfl

theorem settles_onState {x : InPlace State α} {f : State → Except Error (α × State)}
    (settles : Settles x f) :
    Settles (onState x) (fun w => (f w.plane.store.state).map (fun r => (r.1, w.putState r.2))) :=
  settles_within (fun _ => rfl) settles

theorem on_onState {x : InPlace State α} {w : Scene} {a : α} {s : State}
    (h : on x w.plane.store.state = (.ok a, s)) : on (onState x) w = (.ok a, w.putState s) := by
  unfold on at h
  unfold on onState within
  rw [h]

def Gives (x : InPlace Scene α) (w : Scene) (r : α × State) : Prop :=
  ∃ asked, on x w = (.ok r.1, (w.putState r.2).ask asked)

theorem gives_pure (a : α) {w : Scene} {s : State} (hs : w.plane.store.state = s) :
    Gives (pure a) w (a, s) := by
  refine ⟨[], ?_⟩
  rw [Scene.ask_nil, on_pure, ← hs]
  rfl

theorem gives_onState {x : InPlace State α} {w : Scene} {a : α} {s : State}
    (h : on x w.plane.store.state = (.ok a, s)) : Gives (onState x) w (a, s) :=
  ⟨[], by rw [Scene.ask_nil, on_onState h]⟩

theorem gives_read (read : State → α) {w : Scene} {s : State} (hs : w.plane.store.state = s) :
    Gives (onState (look (fun s => .ok (read s)))) w (read s, s) := by
  rw [← hs]
  exact gives_onState rfl

theorem gives_attempt_of_ok {x : InPlace State α} {f : State → Except Error (α × State)}
    (settles : Settles x f) {w : Scene} {s s' : State} {a : α}
    (hs : w.plane.store.state = s) (h : f s = .ok (a, s')) :
    Gives (attempt (onState x)) w (some a, s') := by
  refine ⟨[], ?_⟩
  rw [(settles_onState settles).on_attempt, hs, h, Scene.ask_nil]
  rfl

theorem gives_attempt_of_error {x : InPlace State α} {f : State → Except Error (α × State)}
    (settles : Settles x f) {w : Scene} {s : State} {e : Error}
    (hs : w.plane.store.state = s) (h : f s = .error e) :
    Gives (attempt (onState x)) w (none, s) := by
  refine ⟨[], ?_⟩
  rw [(settles_onState settles).on_attempt, hs, h, Scene.ask_nil, ← hs]
  rfl

theorem Gives.bind {x : InPlace Scene α} {f : α → InPlace Scene β} {w : Scene} {a : α}
    {s : State} {r : β × State} (first : Gives x w (a, s))
    (second : ∀ asked, Gives (f a) ((w.putState s).ask asked) r) : Gives (x >>= f) w r := by
  rcases first with ⟨asked, hx⟩
  rcases second asked with ⟨more, hf⟩
  refine ⟨asked ++ more, ?_⟩
  rw [on_bind_of_ok hx, hf]
  simp [Scene.ask, Scene.putState]

theorem gives_askObservers (job : Job) (agent : Agent) (observers : List Observer) {w : Scene}
    {s : State} (hs : w.plane.store.state = s) :
    Gives (askObservers job agent observers) w
      (observers.all (fun allows => allows job agent), s) := by
  induction observers generalizing w with
  | nil => exact gives_pure true hs
  | cons observer rest ih =>
      have asking : Gives (write (Scene.ask [(job, agent)])) w ((), s) := by
        refine ⟨[(job, agent)], ?_⟩
        rw [on_write, ← hs]
        rfl
      refine asking.bind fun asked => ?_
      by_cases allows : observer job agent
      · rw [if_pos allows, List.all_cons, allows, Bool.true_and]
        exact ih rfl
      · rw [if_neg allows, List.all_cons, Bool.eq_false_iff.mpr allows, Bool.false_and]
        exact gives_pure false rfl

theorem gives_leaseCandidates (fresh : Fresh) (policy : DispatchPolicy)
    (observers : List Observer) (agentId : String) (agent : Agent) (now : Instant)
    (slots updates : Nat) (ids : List String) {w : Scene} {s : State}
    (hs : w.plane.store.state = s) :
    Gives (leaseCandidates fresh policy observers agentId agent now slots updates ids) w
      (s.leaseCandidates fresh policy observers agentId agent now slots updates ids) := by
  induction ids generalizing w s slots updates with
  | nil => exact gives_pure [] hs
  | cons jobId rest ih =>
      unfold leaseCandidates State.leaseCandidates
      by_cases full : slots = 0
      · rw [if_pos full, if_pos full]
        exact gives_pure [] hs
      · rw [if_neg full, if_neg full]
        refine (gives_read (fun s => s.jobs.get? jobId) hs).bind fun asked => ?_
        cases s.jobs.get? jobId with
        | none => exact ih slots updates rfl
        | some job =>
            have may : State.mayLease policy observers agentId agent updates job =
                (passes policy agentId agent updates job &&
                  observers.all (fun allows => allows job agent)) := rfl
            dsimp only
            by_cases passing : passes policy agentId agent updates job
            · rw [if_pos passing, may, passing, Bool.true_and]
              refine (gives_askObservers job agent observers rfl).bind fun asked => ?_
              by_cases allowed : observers.all (fun allows => allows job agent)
              · rw [if_pos allowed, if_pos allowed]
                have settles := settles_leaseJob jobId agentId (fresh.token jobId)
                  (1000 * policy.leaseSeconds) now
                cases hlease : s.leaseJob jobId agentId (fresh.token jobId)
                    (1000 * policy.leaseSeconds) now with
                | error e =>
                    refine (gives_attempt_of_error settles rfl hlease).bind fun asked => ?_
                    exact ih slots updates rfl
                | ok leased =>
                    refine (gives_attempt_of_ok settles rfl hlease).bind fun asked => ?_
                    refine (ih (slots - 1) _ rfl).bind fun asked => ?_
                    exact gives_pure _ rfl
              · rw [if_neg allowed, if_neg allowed]
                exact ih slots updates rfl
            · rw [if_neg passing, may, Bool.eq_false_iff.mpr passing, Bool.false_and,
                if_neg Bool.false_ne_true]
              exact ih slots updates rfl

/-- The program comes to a result, with its state, or leaves everything as it was. -/
def Reaches (x : InPlace Scene α) (w : Scene) (result : Except Error (α × State)) : Prop :=
  match result with
  | .ok r => Gives x w r
  | .error e => on x w = (.error e, w)

theorem reaches_onState {x : InPlace State α} {f : State → Except Error (α × State)}
    (settles : Settles x f) (w : Scene) : Reaches (onState x) w (f w.plane.store.state) := by
  cases h : f w.plane.store.state with
  | ok r => exact gives_onState (settles.on_of_ok h)
  | error e =>
      show on (onState x) w = (.error e, w)
      exact (settles_onState settles).on_of_error (congrArg (Except.map _) h)

theorem Reaches.map {x : InPlace Scene α} {w : Scene} {result : Except Error (α × State)}
    (reaches : Reaches x w result) (f : α → β) :
    Reaches (x >>= fun a => pure (f a)) w (result.map (fun r => (f r.1, r.2))) := by
  cases result with
  | ok r => exact Gives.bind reaches (fun _ => gives_pure (f r.1) rfl)
  | error e => exact on_bind_of_error reaches

theorem settles_expireStale (now : Instant) :
    Settles (expireStale now) (fun s => .ok (s.expireStale now)) :=
  on_expireStale now

theorem reaches_pollForWork (fresh : Fresh) (agentId : String) (limit : Nat)
    (policy : DispatchPolicy) (observers : List Observer) (now : Instant) (w : Scene) :
    Reaches (pollForWork fresh agentId limit policy observers now) w
      (w.plane.store.state.pollForWork fresh agentId limit policy observers now) := by
  have find := settles_onState (settles_findAgent agentId)
  unfold pollForWork State.pollForWork
  cases known : w.plane.store.state.agents.get? agentId with
  | none =>
      refine on_bind_of_error (find.on_of_error ?_)
      rw [known]
      rfl
  | some agent =>
      have found : on (onState (findAgent agentId)) w = (.ok agent, w) := by
        refine find.on_of_ok ?_
        rw [known]
        rfl
      dsimp only
      by_cases disabled : agent.isWindows ∧ !policy.windowsEnabled
      · rw [if_pos disabled]
        refine (on_bind_of_ok found).trans ?_
        rw [if_pos disabled]
        rfl
      · rw [if_neg disabled]
        have gives : Gives (onState (findAgent agentId)) w (agent, w.plane.store.state) :=
          ⟨[], by rw [Scene.ask_nil]; exact found⟩
        refine gives.bind fun asked => ?_
        rw [if_neg disabled]
        refine (gives_onState (on_expireStale now _)).bind fun asked => ?_
        refine (gives_read id rfl).bind fun asked => ?_
        refine (gives_leaseCandidates _ _ _ _ _ _ _ _ _ rfl).bind fun asked => ?_
        exact gives_pure _ rfl

end InPlace
end FleetControl
