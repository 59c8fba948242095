import FleetControl.Proofs.JobStore.Results
import FleetControl.Proofs.Plane.Commits
import FleetControl.Proofs.Plane.Run
import FleetControl.Proofs.State.Agents

/-!
# Users who ask to be forgotten

A job to forget somebody names a user and a deletion request, and a report of its success has
the one anonymized and the other completed.  Both are looked up, and neither is held against
the other.  So a request may be completed while its own user is still there: that is so in a
run exactly when a job names the request of somebody else.
-/

namespace FleetControl

open Inventory
open Refusal
open Time

structure Erasures where
  users : Table User
  requests : Table DeletionRequest

namespace Erasures

def Forgotten (e : Erasures) (userId : String) : Prop :=
  (e.users.get? userId).any (fun user => user.anonymizedAt.isSome) = true

def Completed (e : Erasures) (requestId : String) : Prop :=
  (e.requests.get? requestId).any (fun request => request.status = .completed) = true

instance (e : Erasures) (userId : String) : Decidable (e.Forgotten userId) :=
  inferInstanceAs (Decidable (_ = true))

instance (e : Erasures) (requestId : String) : Decidable (e.Completed requestId) :=
  inferInstanceAs (Decidable (_ = true))

def owner? (e : Erasures) (requestId : String) : Option String :=
  (e.requests.get? requestId).map DeletionRequest.userId

def Known (e : Erasures) (userId requestId : String) : Prop :=
  (e.users.get? userId).isSome = true ∧ (e.requests.get? requestId).isSome = true

/-- Whoever's request has been completed since the start has been anonymized. -/
def HonoredSince (start e : Erasures) : Prop :=
  ∀ requestId userId, e.Completed requestId → ¬ start.Completed requestId →
    e.owner? requestId = some userId → e.Forgotten userId

/-- These users have been anonymized and these requests completed, each with one of the
others; nobody has come or gone, and no request has changed hands. -/
structure Moves (pairs : String → String → Prop) (e e' : Erasures) : Prop where
  users : ∀ id, (e'.users.get? id).isSome = (e.users.get? id).isSome
  owners : ∀ id, e'.owner? id = e.owner? id
  forgotten : ∀ id, e'.Forgotten id ↔ e.Forgotten id ∨ ∃ requestId, pairs id requestId
  completed : ∀ id, e'.Completed id ↔ e.Completed id ∨ ∃ userId, pairs userId id

variable {pairs pairs' : String → String → Prop} {e m e' : Erasures}

theorem moves_refl (none : ∀ userId requestId, ¬ pairs userId requestId) : Moves pairs e e where
  users := fun _ => rfl
  owners := fun _ => rfl
  forgotten := fun id => by simp [none]
  completed := fun id => by simp [none]

theorem Moves.trans {all : String → String → Prop} (first : Moves pairs e m)
    (second : Moves pairs' m e')
    (both : ∀ userId requestId,
      all userId requestId ↔ pairs userId requestId ∨ pairs' userId requestId) :
    Moves all e e' where
  users := fun id => (second.users id).trans (first.users id)
  owners := fun id => (second.owners id).trans (first.owners id)
  forgotten := fun id => by
    simp only [second.forgotten, first.forgotten, both, exists_or, or_assoc]
  completed := fun id => by
    simp only [second.completed, first.completed, both, exists_or, or_assoc]

theorem Moves.congr (moves : Moves pairs e e')
    (same : ∀ userId requestId, pairs userId requestId ↔ pairs' userId requestId) :
    Moves pairs' e e' where
  users := moves.users
  owners := moves.owners
  forgotten := fun id => by simp only [moves.forgotten, same]
  completed := fun id => by simp only [moves.completed, same]

theorem known_iff {userId requestId : String} :
    e.Known userId requestId ↔
      (e.users.get? userId).isSome = true ∧ (e.owner? requestId).isSome = true := by
  rw [Known, owner?, Option.isSome_map]

theorem Moves.known_iff (moves : Moves pairs e e') {userId requestId : String} :
    e'.Known userId requestId ↔ e.Known userId requestId := by
  rw [Erasures.known_iff, Erasures.known_iff, moves.users, moves.owners]

theorem moves_insert {userId requestId : String} {user after : User}
    {request done : DeletionRequest} (found : e.users.get? userId = some user)
    (asked : e.requests.get? requestId = some request)
    (anonymized : after.anonymizedAt.isSome = true) (completed : done.status = .completed)
    (owner : done.userId = request.userId) :
    Moves (fun u r => u = userId ∧ r = requestId) e
      { users := e.users.insert userId after, requests := e.requests.insert requestId done } := by
  constructor
  · intro id
    rw [Table.get?_insert]
    split
    · rename_i here
      rw [here, found]
      rfl
    · rfl
  · intro id
    rw [owner?, owner?, Table.get?_insert]
    split
    · rename_i here
      rw [here, asked]
      exact congrArg some owner
    · rfl
  · intro id
    rw [Forgotten, Forgotten, Table.get?_insert]
    by_cases here : id = userId
    · simp [here, anonymized]
    · simp [here]
  · intro id
    rw [Completed, Completed, Table.get?_insert]
    by_cases here : id = requestId
    · simp [here, completed]
    · simp [here]

end Erasures
namespace State

def erasures (s : State) : Erasures :=
  { users := s.users, requests := s.deletionRequests }

variable {s s' : State} {fresh : Fresh} {now : Instant}

theorem erasures_of_surroundings (h : s'.surroundings = s.surroundings) :
    s'.erasures = s.erasures := by
  have same := congrArg erasures h
  exact same

theorem erasures_reconcileFirewalls (s : State) (fresh : Fresh) (now : Instant)
    (nodes : List String) : (s.reconcileFirewalls fresh now nodes).2.erasures = s.erasures :=
  erasures_of_surroundings (s.surroundings_reconcileFirewalls fresh now nodes)

/-!
# Events
-/

theorem erasures_applyEvent {thresholds : DiskThresholds} {event : Effect.Event}
    {followUp : FollowUp} (other : ∀ userId requestId, event ≠ .userAnonymized userId requestId)
    (h : s.applyEvent fresh thresholds now event = .ok (followUp, s')) :
    s'.erasures = s.erasures := by
  have same := congrArg erasures (besides_applyEvent h)
  cases event with
  | userAnonymized userId requestId => exact absurd rfl (other userId requestId)
  | _ => exact same

theorem moves_of_anonymizeUser {userId requestId : String} {followUp : FollowUp}
    (h : s.anonymizeUser userId requestId now = .ok (followUp, s')) :
    Erasures.Moves (fun u r => u = userId ∧ r = requestId) s.erasures s'.erasures ∧
      s.erasures.Known userId requestId := by
  rcases bind_eq_ok.mp h with ⟨user, found, h⟩
  rcases bind_eq_ok.mp h with ⟨request, asked, h⟩
  cases pure_eq_ok.mp h
  have user_ : s.erasures.users.get? userId = some user := find_eq_ok.mp found
  have request_ : s.erasures.requests.get? requestId = some request := find_eq_ok.mp asked
  refine ⟨Erasures.moves_insert user_ request_ rfl rfl rfl, ?_, ?_⟩
  · rw [user_]
    rfl
  · rw [request_]
    rfl

theorem unknown_of_anonymizeUser {userId requestId : String} {e : Error}
    (h : s.anonymizeUser userId requestId now = .error e) :
    ¬ s.erasures.Known userId requestId := by
  rintro ⟨user, request⟩
  rcases Option.isSome_iff_exists.mp user with ⟨user, found⟩
  rcases Option.isSome_iff_exists.mp request with ⟨request, asked⟩
  have found_ : find s.users .user userId = .ok user := find_eq_ok.mpr found
  have asked_ : find s.deletionRequests .deletionRequest requestId = .ok request :=
    find_eq_ok.mpr asked
  rw [anonymizeUser, found_] at h
  change (find s.deletionRequests .deletionRequest requestId >>= _) = _ at h
  rw [asked_] at h
  cases h

def Anonymizes (s : State) (events : List Effect.Event) (userId requestId : String) : Prop :=
  .userAnonymized userId requestId ∈ events ∧ s.erasures.Known userId requestId

theorem anonymizes_cons {event : Effect.Event} {rest : List Effect.Event}
    {userId requestId : String} :
    s.Anonymizes (event :: rest) userId requestId ↔
      s.Anonymizes [event] userId requestId ∨ s.Anonymizes rest userId requestId := by
  simp only [Anonymizes, List.mem_cons, List.not_mem_nil, or_false, or_and_right]

theorem moves_of_applyEvent {thresholds : DiskThresholds} {event : Effect.Event}
    {followUp : FollowUp}
    (h : s.applyEvent fresh thresholds now event = .ok (followUp, s')) :
    Erasures.Moves (s.Anonymizes [event]) s.erasures s'.erasures := by
  by_cases about : ∃ userId requestId, event = .userAnonymized userId requestId
  · rcases about with ⟨userId, requestId, rfl⟩
    rcases moves_of_anonymizeUser h with ⟨moves, known⟩
    refine moves.congr fun u r => ?_
    constructor
    · rintro ⟨rfl, rfl⟩
      exact ⟨List.mem_singleton_self _, known⟩
    · rintro ⟨mem, -⟩
      cases List.mem_singleton.mp mem
      exact ⟨rfl, rfl⟩
  · have other : ∀ userId requestId, event ≠ .userAnonymized userId requestId :=
      fun userId requestId same => about ⟨userId, requestId, same⟩
    rw [erasures_applyEvent other h]
    refine Erasures.moves_refl fun userId requestId anonymizes => ?_
    exact other userId requestId (List.mem_singleton.mp anonymizes.1).symm

theorem not_anonymizes_of_applyEvent {thresholds : DiskThresholds} {event : Effect.Event}
    {e : Error} (h : s.applyEvent fresh thresholds now event = .error e)
    (userId requestId : String) : ¬ s.Anonymizes [event] userId requestId := by
  rintro ⟨mem, known⟩
  rw [← List.mem_singleton.mp mem] at h
  exact unknown_of_anonymizeUser h known

/-- Who is on record stays so, so each event comes to the same as if it were the first. -/
theorem moves_of_applyEvents (s : State) (fresh : Fresh) (thresholds : DiskThresholds)
    (now : Instant) (events : List Effect.Event) :
    Erasures.Moves (s.Anonymizes events) s.erasures
      (s.applyEvents fresh thresholds now events).2.2.erasures := by
  induction events generalizing s with
  | nil => exact Erasures.moves_refl fun _ _ anonymizes => List.not_mem_nil anonymizes.1
  | cons event rest ih =>
      unfold applyEvents
      split
      · rename_i followUp s1 applied
        have first := moves_of_applyEvent applied
        refine first.trans (ih s1) fun userId requestId => ?_
        rw [anonymizes_cons]
        simp only [Anonymizes, first.known_iff]
      · rename_i e refused
        refine (ih s).congr fun userId requestId => ?_
        rw [anonymizes_cons]
        simp only [not_anonymizes_of_applyEvent refused, false_or]

/-!
# Reports
-/

theorem moves_of_submitResult {agentId jobId : String} {report : ResultReport}
    {policy : ReportPolicy} {reported : Reported}
    (h : s.submitResult fresh agentId jobId report policy now = .ok (reported, s')) :
    Erasures.Moves (s.Anonymizes (eventsOf policy.registry reported.job reported.result))
      s.erasures s'.erasures := by
  rw [submitResult_eq] at h
  rcases map_eq_ok.mp h with ⟨⟨job, result, m⟩, taken, same⟩
  rcases takeResult_eq_ok taken with ⟨token, status, _, _, finished⟩
  have kept : m.erasures = s.erasures :=
    erasures_of_surroundings (surroundings_finishJob finished)
  have moves := m.moves_of_applyEvents fresh policy.thresholds now
    (eventsOf policy.registry job result)
  cases same
  rw [kept] at moves
  refine moves.congr fun userId requestId => ?_
  rw [Anonymizes, kept]
  rfl

end State

/-!
# Steps
-/

namespace Plane

variable {p : Plane} {fresh : Fresh} {now : Instant} {operation : Operation}

theorem Commits.erasures {change : Change} {s : State}
    (commits : p.Commits fresh now operation change s)
    (other : ∀ agentId jobId report, operation ≠ .submitResult agentId jobId report) :
    s.erasures = p.state.erasures := by
  cases commits with
  | submitResult submitted => exact absurd rfl (other _ _ _)
  | register registered =>
      rw [State.registerAgent_eq_ok registered]
      rfl
  | heartbeat taken =>
      rcases State.takeHeartbeat_eq_ok taken with ⟨_, _, _, _, _, _, _, _, rfl⟩
      rfl
  | poll polled => exact State.erasures_of_surroundings (State.surroundings_pollForWork polled)
  | submitLogs submitted =>
      exact State.erasures_of_surroundings (State.surroundings_submitLogs submitted)
  | createJob created =>
      exact State.erasures_of_surroundings (State.surroundings_createJob created)
  | cancelJob cancelled =>
      exact State.erasures_of_surroundings (State.surroundings_cancelJob cancelled)
  | expireStale =>
      exact State.erasures_of_surroundings (p.state.surroundings_expireStale now)
  | ports about ports nodes => exact State.erasures_reconcileFirewalls _ fresh now nodes
  | reconcileFirewall nodeId =>
      exact State.erasures_of_surroundings
        (p.state.surroundings_reconcileFirewall fresh nodeId now)

theorem erasures_apply (store : Store) (change : Change) (s : State) :
    (store.apply change s).state.erasures = s.erasures := by
  rcases store.state_apply change s with ⟨revision, same⟩
  rw [same]
  rfl

/-- The step brings in a result that has this user anonymized and this request completed. -/
def Erases (p : Plane) (step : Step) (userId requestId : String) : Prop :=
  ∃ agentId jobId report reported s, step.operation = .submitResult agentId jobId report ∧
    p.state.submitResult step.fresh agentId jobId report p.reportPolicy step.now =
      .ok (reported, s) ∧
    p.state.Anonymizes (State.eventsOf p.registry reported.job reported.result)
      userId requestId

theorem moves_next_submitResult (p : Plane) (observers : List Observer) (agentId jobId : String)
    (report : ResultReport) :
    Erasures.Moves (p.Erases ⟨fresh, now, observers, .submitResult agentId jobId report⟩)
      p.state.erasures
      (p.next ⟨fresh, now, observers, .submitResult agentId jobId report⟩).state.erasures := by
  rw [next, perform, run, plane_map, submitResult, plane_map]
  cases submitted : p.state.submitResult fresh agentId jobId report p.reportPolicy now with
  | error e =>
      have refused : ({ p with observers := observers } : Plane).state.submitResult fresh agentId
          jobId report ({ p with observers := observers } : Plane).reportPolicy now =
            .error e := submitted
      rw [refused]
      refine Erasures.moves_refl ?_
      rintro userId requestId ⟨_, _, _, reported, s, same, taken, _⟩
      cases same
      cases submitted.symm.trans taken
  | ok r =>
      rcases r with ⟨reported, s⟩
      have taken : ({ p with observers := observers } : Plane).state.submitResult fresh agentId
          jobId report ({ p with observers := observers } : Plane).reportPolicy now =
            .ok (reported, s) := submitted
      rw [taken]
      show Erasures.Moves _ _ (p.store.apply .durable s).state.erasures
      rw [erasures_apply]
      refine (State.moves_of_submitResult submitted).congr fun userId requestId => ?_
      constructor
      · intro anonymizes
        exact ⟨agentId, jobId, report, reported, s, rfl, submitted, anonymizes⟩
      · rintro ⟨_, _, _, _, _, same, again, anonymizes⟩
        cases same
        cases submitted.symm.trans again
        exact anonymizes

theorem moves_next (p : Plane) (step : Step) :
    Erasures.Moves (p.Erases step) p.state.erasures (p.next step).state.erasures := by
  by_cases about : ∃ agentId jobId report, step.operation = .submitResult agentId jobId report
  · rcases step with ⟨fresh, now, observers, operation⟩
    rcases about with ⟨agentId, jobId, report, rfl⟩
    exact p.moves_next_submitResult observers agentId jobId report
  · have other : ∀ agentId jobId report, step.operation ≠ .submitResult agentId jobId report :=
      fun agentId jobId report same => about ⟨agentId, jobId, report, same⟩
    have ends : ({ p with observers := step.observers } : Plane).Ends step.fresh step.now
        step.operation (p.next step) := ends_run _ step.fresh step.now step.operation
    have kept : (p.next step).state.erasures = p.state.erasures := by
      refine ends.state_ind (P := fun s => s.erasures = p.state.erasures) rfl ?_
      intro change s commits
      rw [erasures_apply]
      exact commits.erasures other
    rw [kept]
    refine Erasures.moves_refl ?_
    rintro userId requestId ⟨agentId, jobId, report, _, _, same, _⟩
    exact other agentId jobId report same

/-!
# Runs
-/

/-- The user whose request the step completes has been anonymized, or is in the same step. -/
def ErasesOwners (p : Plane) (step : Step) : Prop :=
  ∀ userId requestId owner, p.Erases step userId requestId →
    ¬ p.state.erasures.Completed requestId → p.state.erasures.owner? requestId = some owner →
      p.state.erasures.Forgotten owner ∨ ∃ otherId, p.Erases step owner otherId

theorem completed_after {steps : List Step} {requestId : String}
    (completed : p.state.erasures.Completed requestId) :
    (p.after steps).state.erasures.Completed requestId := by
  induction steps generalizing p with
  | nil => exact completed
  | cons step rest ih =>
      exact ih (((p.moves_next step).completed requestId).mpr (Or.inl completed))

/-- A step keeps the law exactly when it anonymizes the owners of the requests that it
completes. -/
theorem honored_next_iff {start : Erasures} {step : Step}
    (since : ∀ requestId, start.Completed requestId → p.state.erasures.Completed requestId)
    (honored : start.HonoredSince p.state.erasures) :
    start.HonoredSince (p.next step).state.erasures ↔ p.ErasesOwners step := by
  have moves := p.moves_next step
  constructor
  · intro honored' userId requestId owner erases open_ owned
    have completed := (moves.completed requestId).mpr (Or.inr ⟨userId, erases⟩)
    rw [← moves.owners] at owned
    exact (moves.forgotten owner).mp
      (honored' requestId owner completed (fun before => open_ (since requestId before)) owned)
  · intro owners requestId owner completed open_ owned
    rw [moves.owners] at owned
    rw [moves.forgotten]
    by_cases before : p.state.erasures.Completed requestId
    · exact Or.inl (honored requestId owner before open_ owned)
    · rcases (moves.completed requestId).mp completed with known | ⟨userId, erases⟩
      · exact absurd known before
      · exact owners userId requestId owner erases before owned

theorem honored_start (e : Erasures) : e.HonoredSince e :=
  fun _ _ completed open_ => absurd completed open_

theorem honored_after {start : Erasures} {steps : List Step}
    (since : ∀ requestId, start.Completed requestId → p.state.erasures.Completed requestId)
    (honored : start.HonoredSince p.state.erasures)
    (owners : ∀ first step rest, steps = first ++ step :: rest →
      (p.after first).ErasesOwners step) :
    start.HonoredSince (p.after steps).state.erasures := by
  induction steps generalizing p with
  | nil => exact honored
  | cons step rest ih =>
      apply ih
      · intro requestId before
        exact ((p.moves_next step).completed requestId).mpr (Or.inl (since requestId before))
      · exact (honored_next_iff since honored).mpr (owners [] step rest rfl)
      · intro first other more split
        exact owners (step :: first) other more (congrArg (List.cons step) split)

/-- In a run every request that is completed is that of a user who has been anonymized, if and
only if no step completes a request without anonymizing its user, who is still there. -/
theorem honored_iff (p : Plane) (steps : List Step) :
    (∀ first rest, steps = first ++ rest →
      p.state.erasures.HonoredSince (p.after first).state.erasures) ↔
    ∀ first step rest, steps = first ++ step :: rest → (p.after first).ErasesOwners step := by
  constructor
  · intro honored first step rest split
    have before := honored first (step :: rest) split
    have after := honored (first ++ [step]) rest (by simp [split])
    rw [after_append] at after
    exact (honored_next_iff (fun _ => completed_after) before).mp after
  · intro owners first rest split
    refine honored_after (fun _ completed => completed) (honored_start _) ?_
    intro earlier step later split'
    exact owners earlier step (later ++ rest) (by simp [split, split'])

/-!
# A job with the request of another user
-/

def asked : State :=
  { State.empty with
    users := .ofList
      [("first", ⟨"first", "first@mail", "First", none⟩),
       ("second", ⟨"second", "second@mail", "Second", none⟩)]
    deletionRequests := .ofList [("request", ⟨"request", "second", .pending, none⟩)] }

def askedPlane : Plane :=
  { idle { Config.standard "" with bootstrapToken := "token" } with
    store := { Store.inMemory with state := asked } }

def forgetting (userId : String) : List Step :=
  [{ fresh := .strokes 'a', now := .epoch, observers := []
     operation := .register ⟨"token", "node", [], .empty⟩ },
   { fresh := .strokes 'b', now := .epoch, observers := []
     operation := .createJob
       ⟨"gdpr.anonymize_user", .ofList [("user_id", userId), ("request_id", "request")], none⟩
       "operator" },
   { fresh := .strokes 'c', now := .epoch, observers := [], operation := .poll "a" none },
   { fresh := .strokes 'd', now := .epoch, observers := []
     operation := .submitResult "a" "b|" ⟨"b|", "succeeded", none, .empty, none⟩ }]

example : (askedPlane.after (forgetting "second")).state.erasures.Completed "request" ∧
    (askedPlane.after (forgetting "second")).state.erasures.Forgotten "second" := by
  decide +kernel

theorem not_honored_first :
    ¬ ∀ first rest, forgetting "first" = first ++ rest →
      askedPlane.state.erasures.HonoredSince (askedPlane.after first).state.erasures := by
  intro honored
  have last := honored (forgetting "first") [] (List.append_nil _).symm
  have completed : (askedPlane.after (forgetting "first")).state.erasures.Completed
      "request" := by
    decide +kernel
  have open_ : ¬ askedPlane.state.erasures.Completed "request" := by
    decide +kernel
  have owned : (askedPlane.after (forgetting "first")).state.erasures.owner? "request" =
      some "second" := by
    decide +kernel
  have there : ¬ (askedPlane.after (forgetting "first")).state.erasures.Forgotten "second" := by
    decide +kernel
  exact there (last "request" "second" completed open_ owned)

end Plane
end FleetControl
