import FleetControl.Proofs.Crypto.Seal
import FleetControl.Proofs.Http.Authority
import FleetControl.Proofs.Plane.Convergence
import FleetControl.Proofs.Signature.Signing

/-!
# Identity

An agent is given a name and a secret when it registers.  The plane keeps the secret sealed in
the row of the agent, where nothing changes it again, and remembers no nonce but those that it
has accepted.  So whatever else is asked of the plane, the agent can show who it is.
-/

namespace FleetControl

open Signature
open Time

/-- The agents of a roster keep their secrets, except one that is registered anew. -/
theorem RosterMove.sealedSecret {fresh : Fresh} {now : Instant} {operation : Operation}
    {a b : Roster} {id sealedSecret : String} (move : RosterMove fresh now operation a b)
    (apart : fresh.agent ≠ id)
    (held : (a.agents.get? id).map Agent.sealedSecret = some sealedSecret) :
    (b.agents.get? id).map Agent.sealedSecret = some sealedSecret := by
  cases move with
  | keep => exact held
  | register agent =>
      rw [Table.get?_insert, if_neg apart.symm]
      exact held
  | @beat agentId _ _ _ _ _ found =>
      rw [Table.get?_insert]
      split
      · rename_i here
        rw [here, found] at held
        exact held
      · exact held

namespace Plane

variable {p : Plane} {fresh : Fresh} {req : Registration} {now : Instant}
  {credential : Credential}

/-!
# Registrations
-/

theorem register_eq_ok (h : (p.register fresh req now).answer = .ok credential) :
    credential = { agentId := fresh.agent, secret := fresh.secret } ∧
      ∃ agent : Agent,
        agent.sealedSecret = Crypto.Seal.close p.config.masterKey fresh.sealNonce fresh.secret ∧
        (p.register fresh req now).plane =
          { p with
            store := p.store.apply .durable
              { p.state with agents := p.state.agents.insert fresh.agent agent } } := by
  unfold register at h ⊢
  split at h
  · rename_i admitted
    rw [if_pos admitted]
    unfold transactDurably State.registerAgent at h ⊢
    dsimp only at h ⊢
    split at h
    · cases h
    · rename_i named
      cases h
      rw [if_neg named]
      exact ⟨rfl, _, rfl, rfl⟩
  · cases h

/-!
# Turns

Besides its operations, the plane is asked who it is that has signed a request.
-/

structure Presented where
  parts : Parts
  method : String
  path : String
  body : List UInt8
  now : Instant

def Presented.call (r : Presented) (secret : String) : Call :=
  { parts := r.parts
    secret := secret
    method := r.method
    path := r.path
    body := r.body
    now := r.now }

inductive Turn where
  | step (step : Step)
  | presented (request : Presented)

def identify (p : Plane) (r : Presented) : Outcome String :=
  p.authenticate r.parts r.method r.path r.body r.now

def pass (p : Plane) : Turn → Plane
  | .step step => p.next step
  | .presented r => (p.identify r).plane

def passed (p : Plane) : List Turn → Plane
  | [] => p
  | turn :: rest => (p.pass turn).passed rest

def acceptedBy (p : Plane) : Turn → Option (String × String)
  | .step _ => none
  | .presented r =>
      match (p.identify r).answer with
      | .ok agentId => some (agentId, r.parts.nonce)
      | .error _ => none

def accepted (p : Plane) : List Turn → List (String × String)
  | [] => []
  | turn :: rest => (p.acceptedBy turn).toList ++ (p.pass turn).accepted rest

variable {r : Presented} {secret : String} {turn : Turn} {turns : List Turn}

theorem identify_eq (known : p.secretOf r.parts.agentId = .ok secret) :
    p.identify r =
      { answer :=
          match (answer p.config.signatureWindowSeconds p.guard (r.call secret)).1 with
          | .ok () => .ok r.parts.agentId
          | .error flaw => .error (.badSignature flaw)
        notices := .none
        plane :=
          { p with
            guard := (answer p.config.signatureWindowSeconds p.guard (r.call secret)).2 } } := by
  unfold identify authenticate
  rw [known]
  rfl

theorem identify_of_accepts (known : p.secretOf r.parts.agentId = .ok secret)
    (accepts : Accepts p.config.signatureWindowSeconds p.guard (r.call secret)) :
    (p.identify r).answer = .ok r.parts.agentId := by
  rw [identify_eq known]
  dsimp only
  rw [show (answer _ _ _).1 = .ok () from accepts]

theorem presented_of_acceptedBy {agentId nonce : String}
    (h : p.acceptedBy turn = some (agentId, nonce)) :
    ∃ r, turn = .presented r ∧ r.parts.agentId = agentId ∧ r.parts.nonce = nonce := by
  cases turn with
  | step step => cases h
  | presented r =>
      dsimp only [acceptedBy] at h
      split at h
      · rename_i accepted
        cases h
        exact ⟨r, rfl, (authenticate_eq_ok accepted).1, rfl⟩
      · cases h

theorem presented_of_mem_accepted {agentId nonce : String}
    (h : (agentId, nonce) ∈ p.accepted turns) :
    ∃ r, .presented r ∈ turns ∧ r.parts.agentId = agentId ∧ r.parts.nonce = nonce := by
  induction turns generalizing p with
  | nil => cases h
  | cons turn rest ih =>
      rcases List.mem_append.mp h with first | later
      · rcases presented_of_acceptedBy (Option.mem_toList.mp first) with ⟨r, rfl, parts⟩
        exact ⟨r, List.mem_cons_self, parts⟩
      · rcases ih later with ⟨r, mem, parts⟩
        exact ⟨r, List.mem_cons_of_mem _ mem, parts⟩

/-!
# What a turn leaves as it was
-/

theorem config_pass (p : Plane) (turn : Turn) : (p.pass turn).config = p.config := by
  cases turn with
  | step step => exact p.config_next step
  | presented r =>
      rcases p.plane_authenticate r.parts r.method r.path r.body r.now with ⟨_, same⟩
      rw [pass, identify, same]

theorem config_passed (p : Plane) (turns : List Turn) : (p.passed turns).config = p.config := by
  induction turns generalizing p with
  | nil => rfl
  | cons turn rest ih => exact (ih (p.pass turn)).trans (p.config_pass turn)

theorem state_pass_presented (p : Plane) (r : Presented) :
    (p.pass (.presented r)).state = p.state :=
  congrArg Store.state (p.store_authenticate r.now r.parts r.method r.path r.body)

/-- The guard learns no nonce but that of a request that is accepted, at the time of it. -/
theorem mem_seen_pass {s : Sighting} (h : s ∈ (p.pass turn).guard.seen) :
    s ∈ p.guard.seen ∨ (p.acceptedBy turn = some (s.agentId, s.nonce) ∧
      ∃ r, turn = .presented r ∧ s.time = r.now) := by
  cases turn with
  | step step =>
      rw [pass, guard_next] at h
      exact Or.inl h
  | presented r =>
      cases known : p.secretOf r.parts.agentId with
      | error e =>
          have same : (p.identify r).plane = p := by
            unfold identify authenticate
            rw [known]
            rfl
          rw [pass, same] at h
          exact Or.inl h
      | ok secret =>
          rw [pass, identify_eq known] at h
          rcases mem_seen_answer h with old | ⟨accepts, rfl⟩
          · exact Or.inl old
          · refine Or.inr ⟨?_, r, rfl, rfl⟩
            rw [acceptedBy, identify_of_accepts known accepts]
            rfl

theorem mem_seen_passed {s : Sighting} (h : s ∈ (p.passed turns).guard.seen) :
    s ∈ p.guard.seen ∨ ((s.agentId, s.nonce) ∈ p.accepted turns ∧
      ∃ r, .presented r ∈ turns ∧ s.time = r.now) := by
  induction turns generalizing p with
  | nil => exact Or.inl h
  | cons turn rest ih =>
      rcases ih h with before | ⟨after, r, mem, time⟩
      · refine (mem_seen_pass before).imp_right fun ⟨own, r, here, time⟩ => ⟨?_, r, ?_, time⟩
        · rw [accepted, own]
          exact List.mem_cons_self
        · exact here ▸ List.mem_cons_self
      · exact Or.inr ⟨List.mem_append_right _ after, r, List.mem_cons_of_mem _ mem, time⟩

theorem sealedSecret_pass {id sealedSecret : String}
    (apart : ∀ step, turn = .step step → step.fresh.agent ≠ id)
    (held : (p.state.agents.get? id).map Agent.sealedSecret = some sealedSecret) :
    ((p.pass turn).state.agents.get? id).map Agent.sealedSecret = some sealedSecret := by
  cases turn with
  | step step =>
      refine (ends_run { p with observers := step.observers } step.fresh step.now
        step.operation).state_ind
        (P := fun s => (s.agents.get? id).map Agent.sealedSecret = some sealedSecret) held ?_
      intro change s commits
      rw [Store.agents_apply]
      exact commits.roster.sealedSecret (apart step rfl) held
  | presented r =>
      rw [state_pass_presented]
      exact held

theorem sealedSecret_passed {id sealedSecret : String}
    (apart : ∀ step, .step step ∈ turns → step.fresh.agent ≠ id)
    (held : (p.state.agents.get? id).map Agent.sealedSecret = some sealedSecret) :
    ((p.passed turns).state.agents.get? id).map Agent.sealedSecret = some sealedSecret := by
  induction turns generalizing p with
  | nil => exact held
  | cons turn rest ih =>
      refine ih (fun step h => apart step (List.mem_cons_of_mem _ h)) (sealedSecret_pass ?_ held)
      intro step here
      exact apart step (here ▸ List.mem_cons_self)

/-!
# What an agent can show
-/

theorem identify_sign {agentId secret method path : String} {body nonce : List UInt8}
    {timestamp : Int64} {now : Instant} (known : p.secretOf agentId = .ok secret)
    (time : checkTime p.config.signatureWindowSeconds now timestamp.toInt = .ok ())
    (size : nonce.length = nonceSize)
    (unused : ∀ s ∈ p.guard.seen, ¬ (s.agentId = agentId ∧ s.nonce = nonceText nonce)) :
    (p.authenticate (Signed.sign agentId secret method path body timestamp.toInt
      (nonceText nonce)).parts method path body now).answer = .ok agentId := by
  refine identify_of_accepts (r := ⟨_, method, path, body, now⟩) known
    (accepts_iff.mpr ⟨Call.correct_of_sign rfl time size, ?_⟩)
  rw [knows_kept_eq_false]
  intro s seen _
  exact unused s seen

/-- The time at which the plane forgets a nonce that it has accepted at some time, if there is
one. -/
def forgets? (p : Plane) (time : Instant) : Option Instant :=
  time.addSeconds? (2 * p.config.signatureWindowSeconds)

/-- The row of an agent that has registered holds the secret that the agent was given, sealed
once and for all.  As long as the agent is not disabled, every request that it signs in time with
this secret is accepted as its own, if the nonce has not been accepted before.  Two windows are a
span, which holds its milliseconds in 64 bits, and every nonce can be forgotten: then this is so
for each of the nonces that the plane has to look through. -/
theorem identity_lasts (registered : (p.register fresh req now).answer = .ok credential)
    (named : fresh.agent ≠ "") (size : fresh.sealNonce.length = Crypto.Seal.nonceSize)
    (window : 2000 * (p.config.signatureWindowSeconds.natAbs : Int) ≤ Int64.maxValue.toInt)
    (apart : ∀ step, .step step ∈ turns → step.fresh.agent ≠ credential.agentId)
    (remembered : ∀ s ∈ p.guard.seen, (p.forgets? s.time).isSome)
    (presented : ∀ r, .presented r ∈ turns → (p.forgets? r.now).isSome) :
    ∃ agent, ((p.register fresh req now).plane.passed turns).state.agents.get?
        credential.agentId = some agent ∧
      agent.sealedSecret =
        Crypto.Seal.close p.config.masterKey fresh.sealNonce credential.secret ∧
      Crypto.Seal.openSealed p.config.masterKey agent.sealedSecret = .ok credential.secret ∧
      (∀ s ∈ ((p.register fresh req now).plane.passed turns).guard.seen,
        (p.forgets? s.time).isSome) ∧
      (agent.status ≠ .disabled → ∀ (method path : String) (body nonce : List UInt8)
        (timestamp : Int64) (later : Instant), nonce.length = nonceSize →
          (later.seconds - timestamp.toInt).natAbs ≤ p.config.signatureWindowSeconds.natAbs →
          p.guard.knows credential.agentId (nonceText nonce) = false →
          (credential.agentId, nonceText nonce) ∉
            (p.register fresh req now).plane.accepted turns →
          (((p.register fresh req now).plane.passed turns).authenticate
            (Signed.sign credential.agentId credential.secret method path body timestamp.toInt
              (nonceText nonce)).parts method path body later).answer =
            .ok credential.agentId) := by
  rcases register_eq_ok registered with ⟨rfl, first, closed, plane⟩
  have held : (((p.register fresh req now).plane.state.agents.get? fresh.agent).map
      Agent.sealedSecret) = some first.sealedSecret := by
    rw [plane, state, Store.agents_apply, Table.get?_insert, if_pos rfl]
    rfl
  have guard : (p.register fresh req now).plane.guard = p.guard := by rw [plane]
  rcases Option.map_eq_some_iff.mp (sealedSecret_passed apart held) with ⟨agent, found, same⟩
  have config : ((p.register fresh req now).plane.passed turns).config = p.config := by
    rw [config_passed, plane]
  have opened : Crypto.Seal.openSealed p.config.masterKey agent.sealedSecret =
      .ok fresh.secret := by
    rw [same, closed]
    exact Crypto.Seal.openSealed_close _ size _
  refine ⟨agent, found, same.trans closed, opened, ?_, ?_⟩
  · intro s seen
    rcases mem_seen_passed seen with before | ⟨_, r, mem, time⟩
    · exact remembered s (guard ▸ before)
    · rw [time]
      exact presented r mem
  · intro enabled method path body nonce timestamp later nonceSize within unknown unaccepted
    have known : ((p.register fresh req now).plane.passed turns).secretOf fresh.agent =
        .ok fresh.secret :=
      secretOf_eq_ok.mpr ⟨by simpa using named, agent, found, enabled, config ▸ opened⟩
    have fits : (p.config.signatureWindowSeconds.natAbs : Int) ≤ Int64.maxValue.toInt := by omega
    refine identify_sign known ((checkTime_iff_within (config ▸ fits)).mpr (config ▸ within))
      nonceSize ?_
    intro s seen own
    rcases mem_seen_passed seen with before | ⟨after, _⟩
    · rw [guard] at before
      have knows : p.guard.knows fresh.agent (nonceText nonce) = true :=
        List.any_eq_true.mpr ⟨s, before, by simp [own]⟩
      rw [knows] at unknown
      cases unknown
    · rw [own.1, own.2] at after
      exact unaccepted after

/-!
# Two requests

The agent registers, and sends a heartbeat.  Then it signs two requests.
-/

def partsWith (byte : UInt8) : Parts :=
  (Signed.sign "a" "a" "GET" "/agent/jobs" [] 0 (nonceText (List.replicate 16 byte))).parts

def firstRequest : Presented :=
  { parts := partsWith 1, method := "GET", path := "/agent/jobs", body := [], now := .epoch }

def firstTurns : List Turn :=
  [.step
    { fresh := .strokes 'b', now := .epoch, observers := []
      operation := .heartbeat "a" ⟨"1.0", .empty, [], none, none⟩ none },
   .presented firstRequest]

def newcomerPlane : Plane :=
  (emptyPlane.register (.strokes 'a') ⟨"token", "node", [], .empty⟩ .epoch).plane

theorem status_firstTurns :
    ((newcomerPlane.passed firstTurns).state.agents.get? "a").map Agent.status =
      some .online := by
  rw [firstTurns, passed, passed, passed, state_pass_presented]
  decide +kernel

theorem not_mem_accepted_firstTurns :
    ("a", nonceText (List.replicate 16 2)) ∉ newcomerPlane.accepted firstTurns := by
  intro accepted
  rcases presented_of_mem_accepted accepted with ⟨r, mem, _, nonce⟩
  rcases List.mem_pair.mp mem with here | here
  · cases here
  · cases here
    exact absurd (nonceText_inj.mp nonce) (by decide)

/-- The second request is accepted, for it has another nonce than the first. -/
theorem identity_lasts_secondRequest :
    (emptyPlane.register (.strokes 'a') ⟨"token", "node", [], .empty⟩ .epoch).answer =
        .ok ⟨"a", "a"⟩ ∧
      (Fresh.strokes 'a').agent ≠ "" ∧
      (Fresh.strokes 'a').sealNonce.length = Crypto.Seal.nonceSize ∧
      2000 * (emptyPlane.config.signatureWindowSeconds.natAbs : Int) ≤ Int64.maxValue.toInt ∧
      (∀ step, .step step ∈ firstTurns → step.fresh.agent ≠ "a") ∧
      (∀ r, .presented r ∈ firstTurns → (emptyPlane.forgets? r.now).isSome) ∧
      ("a", nonceText (List.replicate 16 2)) ∉ newcomerPlane.accepted firstTurns ∧
      ((newcomerPlane.passed firstTurns).authenticate (partsWith 2) "GET" "/agent/jobs" []
        .epoch).answer = .ok "a" := by
  have registered : (emptyPlane.register (.strokes 'a') ⟨"token", "node", [], .empty⟩
      .epoch).answer = .ok ⟨"a", "a"⟩ := rfl
  have apart : ∀ step, .step step ∈ firstTurns → step.fresh.agent ≠ "a" := by
    intro step mem
    rcases List.mem_pair.mp mem with here | here
    · cases here
      decide
    · cases here
  have ends : ∀ r, .presented r ∈ firstTurns → (emptyPlane.forgets? r.now).isSome := by
    intro r mem
    rcases List.mem_pair.mp mem with here | here
    · cases here
    · cases here
      decide +kernel
  rcases identity_lasts registered (by decide) rfl (by decide) apart (by rintro _ ⟨⟩) ends with
    ⟨agent, found, _, _, _, shows⟩
  have enabled : agent.status ≠ .disabled := by
    have online := status_firstTurns
    rw [newcomerPlane, found] at online
    rw [Option.some.inj online]
    decide
  exact ⟨registered, by decide, rfl, by decide, apart, ends, not_mem_accepted_firstTurns,
    shows enabled "GET" "/agent/jobs" [] (List.replicate 16 2) 0 .epoch rfl (by decide) rfl
      not_mem_accepted_firstTurns⟩

end Plane
end FleetControl
