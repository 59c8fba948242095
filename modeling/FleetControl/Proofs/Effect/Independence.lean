import FleetControl.Proofs.InPlace.Reports
import FleetControl.Proofs.JobStore.Rows
import FleetControl.Proofs.Plane.Roster

/-!
# Results do not depend on what follows from them

Which events follow from the result of a job is up to the handlers that are registered, and
what some of them do is up to the thresholds for disks.  Neither has a say in whether the
result is taken in, nor in what is on record about jobs and agents afterwards, except that new
jobs may wait in the queue.
-/

namespace FleetControl

open Refusal
open Time

theorem JobStore.Steps.tables_of_creation {fresh : Fresh} {a b : JobStore}
    (steps : Steps fresh .creation a b) : b.results = a.results ∧ b.logs = a.logs := by
  induction steps with
  | refl =>
      exact ⟨rfl, rfl⟩
  | tail _ step ih =>
      cases step with
      | create seq name status free => exact ih
      | move rewrites move => cases move

namespace State

variable {s m : State} {fresh : Fresh} {now : Instant}

/-!
# Taking a result in
-/

theorem turns_takeResult {agentId jobId : String} {report : ResultReport} {cap : Nat}
    {finished : Job} {result : Job.Result}
    (h : s.takeResult agentId jobId report cap now = .ok (finished, result, m)) :
    ∃ job, Turns jobId s m job finished := by
  rcases takeResult_eq_ok h with ⟨token, status, lease, _, finish⟩
  rcases leaseToken_eq_ok lease with ⟨job, found, _⟩
  rcases turns_finishJob found finish with ⟨_, _, turns⟩
  exact ⟨job, turns⟩

/-!
# What events leave alone
-/

/-- Nothing that was on record about jobs and agents is touched; there may be new jobs. -/
structure Extends (fresh : Fresh) (s s' : State) : Prop where
  results : s'.results = s.results
  logs : s'.logs = s.logs
  agents : s'.agents = s.agents
  jobs : ∀ id, s'.jobs.get? id = s.jobs.get? id ∨
    ∃ job, s'.jobs.get? id = some job ∧ job.id = id ∧ JobStore.IsNew fresh job

theorem extends_applyEvents (s : State) (fresh : Fresh)
    (thresholds : Inventory.DiskThresholds) (now : Instant) (events : List Effect.Event) :
    s.Extends fresh (s.applyEvents fresh thresholds now events).2.2 := by
  have steps := (s.created_applyEvents fresh thresholds now events).steps
  rcases steps.tables_of_creation with ⟨results, logs⟩
  have roster := s.roster_applyEvents fresh thresholds now events
  refine ⟨results, logs, congrArg Roster.agents roster, ?_⟩
  intro id
  rcases steps.dossier_of_creation id with kept | ⟨job, new, name, put⟩
  · exact Or.inl (congrArg Dossier.job kept)
  · exact Or.inr ⟨job, congrArg Dossier.job put, name, new⟩

theorem Extends.kept {s' : State} (extends_ : s.Extends fresh s') {id : String}
    (old : ∀ n, id ≠ fresh.job n) : s'.jobs.get? id = s.jobs.get? id := by
  rcases extends_.jobs id with kept | ⟨job, _, name, new⟩
  · exact kept
  · exact absurd (name.symm.trans new.1) (old job.seq)

/-!
# Two runs
-/

/-- Both states have the same on record about jobs and agents, apart from jobs that are new
since `s`: these wait in the queue, and nobody holds them. -/
structure AgreeSince (fresh : Fresh) (s t u : State) : Prop where
  results : t.results = u.results
  logs : t.logs = u.logs
  agents : t.agents = u.agents
  old : ∀ id, (s.jobs.get? id).isSome → t.jobs.get? id = u.jobs.get? id
  new : ∀ id job, t.jobs.get? id = some job → u.jobs.get? id ≠ some job →
    s.jobs.get? id = none ∧ JobStore.IsNew fresh job
  new' : ∀ id job, u.jobs.get? id = some job → t.jobs.get? id ≠ some job →
    s.jobs.get? id = none ∧ JobStore.IsNew fresh job

theorem Extends.new {t u : State} {job finished row : Job} {jobId id : String}
    (names : fresh.NamesNewJobs s) (turns : Turns jobId s m job finished)
    (left : m.Extends fresh t) (right : m.Extends fresh u)
    (found : t.jobs.get? id = some row) (differs : u.jobs.get? id ≠ some row) :
    s.jobs.get? id = none ∧ JobStore.IsNew fresh row := by
  have missing : ∀ n, m.jobs.get? (fresh.job n) = none := by
    intro n
    have apart : fresh.job n ≠ jobId := by
      intro same
      have none := names.2 n
      rw [same, turns.found] at none
      cases none
    exact (congrArg Dossier.job (turns.rewrites.others _ apart)).trans (names.2 n)
  rcases left.jobs id with kept | ⟨added, put, name, isNew⟩
  · rcases right.jobs id with kept' | ⟨added, _, name, isNew⟩
    · exact absurd (kept'.trans (kept.symm.trans found)) differs
    · rw [kept, ← name, isNew.1, missing] at found
      cases found
  · have same : some added = some row := put.symm.trans found
    cases same
    refine ⟨?_, isNew⟩
    rw [← name, isNew.1]
    exact names.2 row.seq

theorem agreeSince_of_extends {t u : State} {job finished : Job} {jobId : String}
    (names : fresh.NamesNewJobs s) (turns : Turns jobId s m job finished)
    (left : m.Extends fresh t) (right : m.Extends fresh u) : s.AgreeSince fresh t u where
  results := left.results.trans right.results.symm
  logs := left.logs.trans right.logs.symm
  agents := left.agents.trans right.agents.symm
  old := by
    intro id known
    have old : ∀ n, id ≠ fresh.job n := by
      intro n same
      rw [same, names.2 n] at known
      cases known
    exact (left.kept old).trans (right.kept old).symm
  new := fun _ _ found differs => left.new names turns right found differs
  new' := fun _ _ found differs => right.new names turns left found differs

/-- Two reports come to the same: they are refused for the same reason, or taken in with the
same result into states that agree. -/
inductive SameOutcome (fresh : Fresh) (s : State) :
    Except Error (Reported × State) → Except Error (Reported × State) → Prop
  | refused (e : Error) : SameOutcome fresh s (.error e) (.error e)
  | taken {r r' : Reported} {t u : State} (job : r.job = r'.job) (result : r.result = r'.result)
      (agree : s.AgreeSince fresh t u) : SameOutcome fresh s (.ok (r, t)) (.ok (r', u))

theorem sameOutcome_submitResult (names : fresh.NamesNewJobs s) (agentId jobId : String)
    (report : ResultReport) (policy : ReportPolicy) (registry : Effect.Registry Effect.Handler)
    (thresholds : Inventory.DiskThresholds) (now : Instant) :
    SameOutcome fresh s (s.submitResult fresh agentId jobId report policy now)
      (s.submitResult fresh agentId jobId report
        { policy with registry := registry, thresholds := thresholds } now) := by
  rw [submitResult_eq, submitResult_eq]
  dsimp only
  cases taken : s.takeResult agentId jobId report policy.maxLogLines now with
  | error e =>
      exact .refused e
  | ok success =>
      rcases success with ⟨finished, result, m⟩
      rcases turns_takeResult taken with ⟨job, turns⟩
      exact .taken rfl rfl (agreeSince_of_extends names turns
        (m.extends_applyEvents fresh _ now _) (m.extends_applyEvents fresh _ now _))

/-!
# Events that cannot be applied
-/

theorem missing_of_find {α β : Type} {rows : Table α} {kind : RowKind} {id : String}
    {f : α → Except Error β} {e : Error}
    (rest : ∀ row, f row = .error e → ∃ kind id, e = .missing kind id)
    (h : (find rows kind id >>= f) = .error e) : ∃ kind id, e = .missing kind id := by
  cases found : find rows kind id with
  | error e' =>
      rw [found] at h
      cases h
      unfold find at found
      split at found
      · cases found
      · cases found
        exact ⟨kind, id, rfl⟩
  | ok row =>
      rw [found] at h
      exact rest row h

/-- An event cannot be applied when a row is missing that it is about, and only then. -/
theorem missing_of_applyEvent {thresholds : Inventory.DiskThresholds} {event : Effect.Event}
    {e : Error} (h : s.applyEvent fresh thresholds now event = .error e) :
    ∃ kind id, e = .missing kind id := by
  cases event with
  | firewallApplied _ _ _ | ddosReported _ | ddosPolicyApplied _ | nodeDiskReported _ _ _ _
  | portsReleased _ =>
      cases h
  | diskScanRequested instanceId nodeId =>
      refine missing_of_find ?_ h
      intro row h
      split at h <;> cases h
  | domainStatusChanged _ _ | certificateIssued _ _ | voiceServerChanged _ _ _
  | instanceChanged _ _ | diskScanned _ _ _ | queryChanged _ _ | backupFinished _ _ _ _ =>
      refine missing_of_find ?_ h
      intro row h
      cases h
  | userAnonymized _ _ =>
      refine missing_of_find ?_ h
      intro user h
      refine missing_of_find ?_ h
      intro request h
      cases h

theorem applyEvents_append (s : State) (fresh : Fresh) (thresholds : Inventory.DiskThresholds)
    (now : Instant) (first rest : List Effect.Event) :
    (s.applyEvents fresh thresholds now (first ++ rest)).2.2 =
      ((s.applyEvents fresh thresholds now first).2.2.applyEvents fresh thresholds now
        rest).2.2 := by
  induction first generalizing s with
  | nil =>
      rfl
  | cons event first ih =>
      rw [List.cons_append, applyEvents, applyEvents]
      split
      · rename_i followUp s1 _
        exact ih s1
      · exact ih s

end State

namespace InPlace

variable {s m m' : State} {fresh : Fresh} {now : Instant}

/-- What an event finds is what it leaves behind when it cannot be applied, and the events
behind it are applied to that. -/
theorem on_applyEvents_of_refused {thresholds : Inventory.DiskThresholds}
    {first rest : List Effect.Event} {event : Effect.Event} {e : Error}
    {done : FollowUp × Nat}
    (before : on (applyEvents fresh thresholds now first) s = (.ok done, m))
    (refused : on (applyEvent fresh thresholds now event) m = (.error e, m')) :
    m' = m ∧ (∃ kind id, e = .missing kind id) ∧
      (on (applyEvents fresh thresholds now (first ++ event :: rest)) s).2 =
        (on (applyEvents fresh thresholds now rest) m).2 := by
  have settles := settles_applyEvent fresh thresholds now event
  have failed : m.applyEvent fresh thresholds now event = .error e := by
    cases result : m.applyEvent fresh thresholds now event with
    | error e' =>
        rw [settles.on_of_error result] at refused
        cases refused
        rfl
    | ok success =>
        rcases success with ⟨followUp, t⟩
        rw [settles.on_of_ok result] at refused
        cases refused
  have reached : (s.applyEvents fresh thresholds now first).2.2 = m := by
    rw [on_applyEvents] at before
    exact congrArg Prod.snd before
  refine ⟨settles.unchanged refused, State.missing_of_applyEvent failed, ?_⟩
  rw [on_applyEvents, on_applyEvents]
  show (s.applyEvents fresh thresholds now (first ++ event :: rest)).2.2 = _
  rw [State.applyEvents_append, reached, State.applyEvents, failed]

/-- Events in their turn: each is applied to what those before it have left, and one that cannot
be applied, since a row is missing, leaves that as it is. -/
inductive InTurn (fresh : Fresh) (thresholds : Inventory.DiskThresholds) (now : Instant) :
    List Effect.Event → State → State → Prop
  | done (s : State) : InTurn fresh thresholds now [] s s
  | applied {event : Effect.Event} {rest : List Effect.Event} {s m s' : State}
      {followUp : FollowUp}
      (step : on (applyEvent fresh thresholds now event) s = (.ok followUp, m))
      (later : InTurn fresh thresholds now rest m s') :
      InTurn fresh thresholds now (event :: rest) s s'
  | refused {event : Effect.Event} {rest : List Effect.Event} {s s' : State} {kind : RowKind}
      {id : String}
      (step : on (applyEvent fresh thresholds now event) s = (.error (.missing kind id), s))
      (later : InTurn fresh thresholds now rest s s') :
      InTurn fresh thresholds now (event :: rest) s s'

theorem inTurn_applyEvents (fresh : Fresh) (thresholds : Inventory.DiskThresholds)
    (now : Instant) (events : List Effect.Event) (s : State) :
    InTurn fresh thresholds now events s (on (applyEvents fresh thresholds now events) s).2 := by
  rw [on_applyEvents]
  dsimp only
  induction events generalizing s with
  | nil =>
      exact .done s
  | cons event rest ih =>
      have settles := settles_applyEvent fresh thresholds now event
      rw [State.applyEvents]
      cases applied : s.applyEvent fresh thresholds now event with
      | ok success =>
          rcases success with ⟨followUp, m⟩
          exact .applied (settles.on_of_ok applied) (ih m)
      | error e =>
          rcases State.missing_of_applyEvent applied with ⟨kind, id, rfl⟩
          exact .refused (settles.on_of_error applied) (ih s)

end InPlace

/-!
# Reports under any handlers
-/

namespace State

/-- Neither the handlers nor the thresholds decide about a result: whatever they are, it is
refused for the same reason, or taken in with the same rows of jobs, results, logs and agents.
The events that follow are applied in their turn: one that cannot be applied leaves no trace,
and those behind it go on as if it had not been there. -/
theorem submitResult_independent {s : State} {fresh : Fresh}
    (names : fresh.NamesNewJobs s) (agentId jobId : String) (report : ResultReport)
    (policy : ReportPolicy) (registry : Effect.Registry Effect.Handler)
    (thresholds : Inventory.DiskThresholds) (now : Instant) :
    s.SameOutcome fresh (s.submitResult fresh agentId jobId report policy now)
        (s.submitResult fresh agentId jobId report
          { policy with registry := registry, thresholds := thresholds } now) ∧
      (∀ first event rest done start m m' e,
        InPlace.on (InPlace.applyEvents fresh thresholds now first) start = (.ok done, m) →
        InPlace.on (InPlace.applyEvent fresh thresholds now event) m = (.error e, m') →
        m' = m ∧ (∃ kind id, e = .missing kind id) ∧
          (InPlace.on (InPlace.applyEvents fresh thresholds now (first ++ event :: rest))
            start).2 = (InPlace.on (InPlace.applyEvents fresh thresholds now rest) m).2) ∧
      ∀ events start, InPlace.InTurn fresh thresholds now events start
        (InPlace.on (InPlace.applyEvents fresh thresholds now events) start).2 :=
  ⟨sameOutcome_submitResult names agentId jobId report policy registry thresholds now,
    fun _ _ _ _ _ _ _ _ before refused =>
      InPlace.on_applyEvents_of_refused before refused,
    InPlace.inTurn_applyEvents fresh thresholds now⟩

def domainState : State :=
  { State.empty with
    jobs := Table.empty.insert "a|"
      { id := "a|", type := "domain.add", payload := Table.empty.insert "domain_id" "d"
        status := .running, lockedBy := some "agent", lockToken := some "token"
        lockExpiresAt := some (.addSeconds .epoch 600), createdAt := .epoch, updatedAt := .epoch
        seq := 1, createdBy := none }
    instances := Table.empty.insert "i"
      { id := "i", customerId := "c", nodeId := "n", status := .running, diskUsedBytes := none
        diskError := none, diskScannedAt := none, query := none, updatedAt := none }
    lastSeq := 1 }

def domainReport : ResultReport :=
  { jobId := "a|", status := "succeeded", completedAt := none, output := .empty
    lockToken := none }

def silentPolicy : ReportPolicy :=
  { registry := .empty, thresholds := (Config.standard "").thresholds, maxLogLines := 10
    leaseSeconds := 600 }

def domainEvents : List Effect.Event :=
  [.domainStatusChanged "d" .active, .diskScanRequested "i" none]

def scanningRegistry : Effect.Registry Effect.Handler :=
  Effect.Registry.empty.register "domain.add" (fun _ => domainEvents)

/-- With one registry nothing follows; with the other one event is skipped, and then a job is
created. -/
theorem submitResult_independent_domain :
    (Fresh.strokes 'b').NamesNewJobs domainState ∧
      ((domainState.submitResult (.strokes 'b') "agent" "a|" domainReport silentPolicy
        .epoch).toOption.map fun r => (r.1.skipped, r.2.jobs.keys)) = some (0, ["a|"]) ∧
      ((domainState.submitResult (.strokes 'b') "agent" "a|" domainReport
        { silentPolicy with registry := scanningRegistry } .epoch).toOption.map
          fun r => (r.1.skipped, r.2.jobs.keys)) = some (1, ["a|", "b||"]) ∧
      domainState.SameOutcome (.strokes 'b')
        (domainState.submitResult (.strokes 'b') "agent" "a|" domainReport silentPolicy .epoch)
        (domainState.submitResult (.strokes 'b') "agent" "a|" domainReport
          { silentPolicy with registry := scanningRegistry } .epoch) ∧
      (InPlace.on (InPlace.applyEvents (.strokes 'b') silentPolicy.thresholds .epoch
          domainEvents) domainState).2 =
        (InPlace.on (InPlace.applyEvents (.strokes 'b') silentPolicy.thresholds .epoch
          [.diskScanRequested "i" none]) domainState).2 ∧
      InPlace.InTurn (.strokes 'b') silentPolicy.thresholds .epoch domainEvents domainState
        (InPlace.on (InPlace.applyEvents (.strokes 'b') silentPolicy.thresholds .epoch
          domainEvents) domainState).2 := by
  have names : (Fresh.strokes 'b').NamesNewJobs domainState := by
    constructor
    · exact Fresh.strokes_injective 'b'
    · intro n
      have apart : (Fresh.strokes 'b').job n ≠ "a|" := Fresh.strokes_apart (by decide) n 1
      rw [domainState, Table.get?_insert, if_neg apart, Table.get?_empty]
  rcases submitResult_independent names "agent" "a|" domainReport silentPolicy
    scanningRegistry silentPolicy.thresholds .epoch with
    ⟨same, events, inTurn⟩
  rcases events [] (.domainStatusChanged "d" .active) [.diskScanRequested "i" none] _
    domainState domainState domainState _ rfl rfl with ⟨_, _, applied⟩
  exact ⟨names, by decide +kernel, by decide +kernel, same, applied, inTurn _ _⟩

end State
end FleetControl
