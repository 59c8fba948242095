import FleetControl.Proofs.Crypto.Seal
import FleetControl.Proofs.Plane.Agency
import FleetControl.Proofs.Plane.Transactions

/-!
# Authority

A request changes the state only with authority: that of a newcomer with the bootstrap token,
of an operator with the admin token, or of an agent that has signed it.
-/

namespace FleetControl

open Refusal
open Time

namespace Plane

variable {p : Plane} {parts : Signature.Parts} {method path : String} {body : List UInt8}
  {now : Instant}

/-!
# Signers
-/

theorem plane_authenticate (p : Plane) (parts : Signature.Parts) (method path : String)
    (body : List UInt8) (now : Instant) :
    ∃ guard, (p.authenticate parts method path body now).plane = { p with guard := guard } := by
  unfold authenticate
  split
  · exact ⟨p.guard, rfl⟩
  · exact ⟨_, rfl⟩

theorem secretOf_eq_ok {agentId secret : String} :
    p.secretOf agentId = .ok secret ↔ agentId.isEmpty = false ∧
      ∃ agent, p.state.agents.get? agentId = some agent ∧ agent.status ≠ .disabled ∧
        Crypto.Seal.openSealed p.config.masterKey agent.sealedSecret = .ok secret := by
  unfold secretOf
  cases agentId.isEmpty with
  | true =>
      simp
  | false =>
      cases p.state.agents.get? agentId with
      | none =>
          simp
      | some agent =>
          by_cases disabled : agent.status = .disabled
          · simp [disabled]
          · cases opened : Crypto.Seal.openSealed p.config.masterKey agent.sealedSecret <;>
              simp [disabled, opened]

theorem authenticate_eq_ok {agentId : String}
    (h : (p.authenticate parts method path body now).answer = .ok agentId) :
    parts.agentId = agentId ∧ ∃ secret, p.secretOf agentId = .ok secret ∧
      (Signature.verify p.config.signatureWindowSeconds p.guard parts secret method path body
        now).1 = .ok () := by
  unfold authenticate at h
  split at h
  · cases h
  · rename_i secret known
    dsimp only at h
    split at h
    · rename_i verified
      cases h
      exact ⟨rfl, secret, known, verified⟩
    · cases h

theorem authenticate_of_verified {secret : String} (known : p.secretOf parts.agentId = .ok secret)
    (verified : (Signature.verify p.config.signatureWindowSeconds p.guard parts secret method path
      body now).1 = .ok ()) :
    ∃ guard, p.authenticate parts method path body now =
      { answer := .ok parts.agentId, notices := .none, plane := { p with guard := guard } } := by
  unfold authenticate
  rw [known]
  dsimp only
  rw [verified]
  exact ⟨_, rfl⟩

end Plane

namespace Http

structure Visit where
  fresh : Fresh
  now : Instant
  request : Request

/-- The request shows that it comes from this caller. -/
inductive Authority (p : Plane) (visit : Visit) : Caller → Prop
  | newcomer {r : Registration} (post : visit.request.method = "POST")
      (path : visit.request.segments = ["agent", "register"])
      (read : visit.request.json Wire.registration = .ok r)
      (token : r.bootstrapToken = p.config.bootstrapToken)
      (configured : p.config.bootstrapToken ≠ "") : Authority p visit .newcomer
  | agent {agentId secret : String} {agent : Agent}
      (path : visit.request.segments.head? = some "agent")
      (name : (signatureParts visit.request).agentId = agentId)
      (found : p.state.agents.get? agentId = some agent) (enabled : agent.status ≠ .disabled)
      (opened : Crypto.Seal.openSealed p.config.masterKey agent.sealedSecret = .ok secret)
      (verified : (Signature.verify p.config.signatureWindowSeconds p.guard
        (signatureParts visit.request) secret visit.request.method visit.request.pathAndQuery
        visit.request.body visit.now).1 = .ok ()) : Authority p visit (.agent agentId)
  | operator (path : visit.request.segments.head? = some "admin")
      (token : bearerToken visit.request = p.config.adminToken)
      (configured : p.config.adminToken ≠ "") : Authority p visit .operator

/-- The request comes to nothing but an entry in the memory of nonces, or to an operation of
a caller from which it comes. -/
inductive Serves (p : Plane) (visit : Visit) : Plane → Prop
  | nothing {q : Plane} (kept : q.store = p.store) : Serves p visit q
  | operation {operation : Operation} {guard : Signature.Guard} {q : Plane}
      (authority : Authority p visit operation.caller)
      (ends : { p with guard := guard }.Ends visit.fresh visit.now operation q) :
      Serves p visit q

variable {p : Plane} {visit : Visit}

/-!
# Paths
-/

theorem Route.head_of_ofSegments? {segments : List String} {route : Route}
    (h : Route.ofSegments? segments = some route) :
    segments.head? = some (if route.endpoint.access = .admin then "admin" else "agent") ∧
      (route.endpoint = .register → segments = ["agent", "register"]) := by
  unfold Route.ofSegments? at h
  split at h
  case h_8 =>
      split at h
      · cases h
      · cases h
        exact ⟨rfl, nofun⟩
  case h_18 => cases h
  all_goals
    cases h
    refine ⟨rfl, ?_⟩
    first | exact fun _ => rfl | nofun

/-!
# From requests to operations
-/

theorem caller_of_operation {e : Endpoint} {parameter : String} {req : Request}
    {op : Operation} (h : operation e parameter req = .ok op) (admin : e.access = .admin) :
    op.caller = .operator := by
  cases e <;> cases admin
  all_goals
    first
    | cases h
      rfl
    | rcases map_eq_ok.mp h with ⟨_, _, rfl⟩
      rfl

theorem caller_of_signedOperation {e : Endpoint} {agentId parameter : String}
    {limit : Option Nat} {req : Request} {op : Operation}
    (h : signedOperation e agentId parameter limit req = .ok op) :
    op.caller = .agent agentId := by
  unfold signedOperation at h
  split at h
  case h_4 =>
      cases h
      rfl
  all_goals
    rcases map_eq_ok.mp h with ⟨_, _, rfl⟩
    rfl

theorem isOperator_iff {req : Request} :
    isOperator p req = true ↔
      p.config.adminToken ≠ "" ∧ bearerToken req = p.config.adminToken := by
  simp [isOperator]

theorem admits_iff {token : String} :
    p.admits token = true ↔ p.config.bootstrapToken ≠ "" ∧ token = p.config.bootstrapToken := by
  simp [Plane.admits]

/-!
# From requests to planes
-/

theorem serves_perform {e : Endpoint} {op : Operation} (guard : Signature.Guard)
    (authority : Authority p visit op.caller) :
    Serves p visit
      (perform { p with guard := guard } visit.fresh visit.now e op).plane :=
  .operation authority (Plane.ends_run _ visit.fresh visit.now op)

theorem plane_register_of_not_admits {r : Registration} (refused : ¬ p.admits r.bootstrapToken)
    (fresh : Fresh) (now : Instant) : (p.run fresh now (.register r)).plane = p := by
  rw [Plane.run, Plane.plane_map, Plane.register, if_neg refused]
  rfl

theorem serves_respondUnsigned_register {parameter : String}
    (post : visit.request.method = "POST")
    (path : visit.request.segments = ["agent", "register"]) :
    Serves p visit
      (respondUnsigned p visit.fresh visit.now .register parameter visit.request).plane := by
  unfold respondUnsigned
  split
  · rename_i op asked
    rcases map_eq_ok.mp asked with ⟨r, read, rfl⟩
    by_cases admitted : p.admits r.bootstrapToken = true
    · rcases admits_iff.mp admitted with ⟨configured, token⟩
      have authority : Authority p visit (Operation.register r).caller :=
        .newcomer post path read token configured
      exact serves_perform p.guard authority
    · apply Serves.nothing
      exact congrArg Plane.store
        (plane_register_of_not_admits admitted visit.fresh visit.now)
  · exact .nothing rfl

theorem serves_respondUnsigned {e : Endpoint} {parameter : String} (admin : e.access = .admin)
    (authority : Authority p visit .operator) :
    Serves p visit
      (respondUnsigned p visit.fresh visit.now e parameter visit.request).plane := by
  unfold respondUnsigned
  split
  · rename_i op asked
    rw [← caller_of_operation asked admin] at authority
    exact serves_perform p.guard authority
  · exact .nothing rfl

theorem authority_of_authenticate {agentId : String}
    (path : visit.request.segments.head? = some "agent")
    (h : (p.authenticate (signatureParts visit.request) visit.request.method
      visit.request.pathAndQuery visit.request.body visit.now).answer = .ok agentId) :
    Authority p visit (.agent agentId) := by
  rcases Plane.authenticate_eq_ok h with ⟨name, secret, known, verified⟩
  rcases Plane.secretOf_eq_ok.mp known with ⟨_, agent, found, enabled, opened⟩
  exact .agent path name found enabled opened verified

theorem serves_respondSigned {e : Endpoint} {parameter : String}
    (path : visit.request.segments.head? = some "agent") :
    Serves p visit
      (respondSigned p visit.fresh visit.now e parameter visit.request).plane := by
  unfold respondSigned
  split
  · exact .nothing rfl
  · rcases p.plane_authenticate (signatureParts visit.request) visit.request.method
      visit.request.pathAndQuery visit.request.body visit.now with ⟨guard, same⟩
    have signed : ∀ agentId, (p.authenticate (signatureParts visit.request)
        visit.request.method visit.request.pathAndQuery visit.request.body
        visit.now).answer = .ok agentId → Authority p visit (.agent agentId) :=
      fun _ => authority_of_authenticate path
    generalize p.authenticate _ _ _ _ _ = signer at same signed ⊢
    rcases signer with ⟨answer, notices, q⟩
    cases same
    cases answer with
    | error e =>
        exact .nothing rfl
    | ok agentId =>
        dsimp only
        split
        · rename_i op asked
          have authority := signed agentId rfl
          rw [← caller_of_signedOperation asked] at authority
          exact serves_perform guard authority
        · exact .nothing rfl

theorem serves_respondAt {route : Route}
    (routed : Route.ofSegments? visit.request.segments = some route) :
    Serves p visit (respondAt p visit.fresh visit.now route visit.request).plane := by
  rcases Route.head_of_ofSegments? routed with ⟨head, register⟩
  unfold respondAt
  dsimp only
  split
  · exact .nothing rfl
  · rename_i admitted
    split
    · exact .nothing rfl
    · rename_i served
      split
      · exact .nothing rfl
      · cases access : route.endpoint.access with
        | agent =>
            rw [access] at head
            exact serves_respondSigned head
        | admin =>
            rw [access] at head admitted
            have operates : isOperator p visit.request = true := by simpa using admitted
            rcases isOperator_iff.mp operates with ⟨configured, token⟩
            exact serves_respondUnsigned access (.operator head token configured)
        | anyone =>
            have endpoint : route.endpoint = .register := by
              revert access
              cases route.endpoint <;> simp [Endpoint.access]
            rw [endpoint] at served ⊢
            have post : visit.request.method = "POST" := by
              simpa [Endpoint.serves, Endpoint.isReading] using served
            exact serves_respondUnsigned_register post (register endpoint)

end Http

namespace Plane

def serve (p : Plane) (visit : Http.Visit) : Plane :=
  (Http.respond p visit.fresh visit.now visit.request).plane

def served (p : Plane) : List Http.Visit → Plane
  | [] => p
  | visit :: rest => (p.serve visit).served rest

/-- Each request would name a newcomer by a name that no agent has. -/
def NamesNewcomers (p : Plane) : List Http.Visit → Prop
  | [] => True
  | visit :: rest => visit.fresh.NamesNewAgent p.state ∧ (p.serve visit).NamesNewcomers rest

end Plane

namespace Http

variable {p q : Plane} {visit : Visit}

theorem serves_serve (p : Plane) (visit : Visit) : Serves p visit (p.serve visit) := by
  unfold Plane.serve respond
  split
  · exact .nothing rfl
  · split
    · exact .nothing rfl
    · rename_i route routed
      dsimp only
      split
      · exact serves_respondAt routed
      · exact serves_respondAt routed

/-!
# What requests do
-/

theorem Serves.authority (serves : Serves p visit q) (changes : q.state ≠ p.state) :
    ∃ caller, Authority p visit caller ∧ ∀ agentId, caller = .agent agentId →
      p.state.Confined visit.fresh p.reportPolicy visit.now agentId q.state := by
  cases serves with
  | nothing kept =>
      exact absurd (congrArg Store.state kept) changes
  | @operation operation guard _ authority ends =>
      exact ⟨operation.caller, authority, fun _ own => ends.confined own⟩

theorem Serves.named (serves : Serves p visit q) (named : p.state.jobStore.Named) :
    q.state.jobStore.Named := by
  cases serves with
  | nothing kept =>
      have same : q.state = p.state := congrArg Store.state kept
      rw [same]
      exact named
  | operation _ ends =>
      exact ends.named named

/-- An agent that is disabled has no authority, so nothing becomes of its row. -/
theorem Serves.disabled (serves : Serves p visit q)
    (fresh : visit.fresh.NamesNewAgent p.state) {id : String} {agent : Agent}
    (found : p.state.agents.get? id = some agent) (disabled : agent.status = .disabled) :
    q.state.agents.get? id = some agent := by
  cases serves with
  | nothing kept =>
      have same : q.state = p.state := congrArg Store.state kept
      rw [same]
      exact found
  | operation authority ends =>
      rcases ends.agent_row id with kept | ⟨_, here⟩ | own
      · exact kept.trans found
      · have missing : p.state.agents.get? id = none := here ▸ fresh
        cases missing.symm.trans found
      · rw [own] at authority
        cases authority with
        | agent _ _ found' enabled _ _ =>
            cases Option.some.inj (found.symm.trans found')
            exact absurd disabled enabled

theorem named_served (named : p.state.jobStore.Named) (visits : List Visit) :
    (p.served visits).state.jobStore.Named := by
  induction visits generalizing p with
  | nil =>
      exact named
  | cons visit rest ih =>
      exact ih ((serves_serve p visit).named named)

theorem disabled_served {visits : List Visit} (fresh : p.NamesNewcomers visits) {id : String}
    {agent : Agent} (found : p.state.agents.get? id = some agent)
    (disabled : agent.status = .disabled) :
    (p.served visits).state.agents.get? id = some agent := by
  induction visits generalizing p with
  | nil =>
      exact found
  | cons visit rest ih =>
      exact ih fresh.2 ((serves_serve p visit).disabled fresh.1 found disabled)

/-- A request that changes the state has the authority of its caller; if that is an agent, the
change is confined to what the agent may change, and leases of other agents that are not over
stand.  Over any run of requests every job stays under its own name, and the row of an agent
that is disabled stays as it is. -/
theorem changes_authorized (p : Plane) :
    (∀ visit, (p.serve visit).state ≠ p.state →
      ∃ caller, Authority p visit caller ∧ ∀ agentId, caller = .agent agentId →
        p.state.Confined visit.fresh p.reportPolicy visit.now agentId (p.serve visit).state ∧
        (p.state.jobStore.Named → ∀ id job, (∀ n, id ≠ visit.fresh.job n) →
          p.state.jobs.get? id = some job → job.IsHeldFrom agentId visit.now →
          (p.serve visit).state.dossier id = p.state.dossier id)) ∧
      (∀ visits, p.state.jobStore.Named → (p.served visits).state.jobStore.Named) ∧
      ∀ visits, p.NamesNewcomers visits → ∀ id agent,
        p.state.agents.get? id = some agent → agent.status = .disabled →
          (p.served visits).state.agents.get? id = some agent := by
  refine ⟨?_, fun visits named => named_served named visits,
    fun _ fresh _ _ found disabled => disabled_served fresh found disabled⟩
  intro visit changes
  rcases (serves_serve p visit).authority changes with ⟨caller, authority, confined⟩
  refine ⟨caller, authority, ?_⟩
  intro agentId own
  exact ⟨confined agentId own, fun named _ _ old found held =>
    (confined agentId own).lease named old found held⟩

/-!
# A poll with a signature
-/

theorem plane_respond_poll {p q : Plane} {fresh : Fresh} {now : Instant} {req : Request}
    {agentId : String} {limit : Option Nat} (get : req.method = "GET")
    (path : req.segments = ["agent", "jobs"]) (query : req.limit = .ok limit)
    (signed : p.authenticate (signatureParts req) req.method req.pathAndQuery req.body now =
      { answer := .ok agentId, notices := .none, plane := q }) :
    (respond p fresh now req).plane = (q.run fresh now (.poll agentId limit)).plane := by
  have route : Route.ofSegments? req.segments = some { endpoint := .poll, parameter := "" } := by
    rw [path]
    rfl
  have parameter : Percent.decode? "".toList = some "" := by decide +kernel
  have signer : (respondSigned p fresh now .poll "" req).plane =
      (q.run fresh now (.poll agentId limit)).plane := by
    simp only [respondSigned, limitFor, if_true, query, signed]
    rfl
  simp only [respond, get, route, respondAt, parameter]
  simpa [Endpoint.access, Endpoint.serves, Endpoint.isReading] using signer

/-!
# Two agents

One agent polls.  The other one is disabled, but it still holds a job.
-/

def dutyAgent (id sealedSecret : String) (status : Agent.Status) : Agent :=
  { id := id
    name := id
    sealedSecret := sealedSecret
    roles := .empty
    status := status
    lastHeartbeatAt := none
    lastHeartbeatIp := none
    lastHeartbeatVersion := none
    lastHeartbeatStats := .empty
    jobConcurrency := 4
    metadata := .empty
    registeredAt := .epoch }

def dutyJob (id : String) (seq : UInt64) : Job :=
  { id := id
    type := "node.reboot"
    payload := .empty
    status := .queued
    lockedBy := none
    lockToken := none
    lockExpiresAt := none
    createdAt := .epoch
    updatedAt := .epoch
    seq := seq
    createdBy := none }

def dutyLease : Job :=
  (dutyJob "r" 2).leased "b" "token" (Instant.epoch.addMillis 1000) .epoch

def dutyJobs : Table Job :=
  (Table.empty.insert "q" (dutyJob "q" 1)).insert "r" dutyLease

def dutyPlane (sealedSecret : String) (jobs : Table Job) : Plane :=
  { Plane.idle { Config.standard "" with masterKey := "key" } with
    store := { Store.inMemory with
      state := { State.empty with
        agents := (Table.empty.insert "a" (dutyAgent "a" sealedSecret .online)).insert "b"
          (dutyAgent "b" sealedSecret .disabled)
        jobs := jobs } } }

def dutyPoll : Visit :=
  { fresh := .strokes 'c'
    now := .epoch
    request :=
      { method := "GET"
        target := "/agent/jobs"
        headers := [("x-agent-id", "a"), ("x-agent-timestamp", "0"), ("x-agent-nonce", "n"),
          ("x-agent-signature",
            "839273fdb6b53c2d3867fe1070793121282c37011f5b17c08fbc9f6dbd9f998b")]
        body := []
        peer := none } }

def dutySeal : String := Crypto.Seal.close "key" (List.replicate 12 0) "secret"

theorem plane_dutyPoll (jobs : Table Job) : ∃ guard, (dutyPlane dutySeal jobs).serve dutyPoll =
    (({ dutyPlane dutySeal jobs with guard := guard } : Plane).run dutyPoll.fresh dutyPoll.now
      (.poll "a" none)).plane := by
  have name : (signatureParts dutyPoll.request).agentId = "a" := by decide +kernel
  have known : (dutyPlane dutySeal jobs).secretOf (signatureParts dutyPoll.request).agentId =
      .ok "secret" := by
    rw [name]
    have found : (dutyPlane dutySeal jobs).state.agents.get? "a" =
        some (dutyAgent "a" dutySeal .online) := rfl
    exact Plane.secretOf_eq_ok.mpr ⟨rfl, _, found, by simp [dutyAgent],
      Crypto.Seal.openSealed_close "key" rfl "secret"⟩
  have verified : (Signature.verify 300 .empty (signatureParts dutyPoll.request) "secret"
      dutyPoll.request.method dutyPoll.request.pathAndQuery dutyPoll.request.body
      dutyPoll.now).1.toOption = some () := by
    decide +kernel
  rcases Plane.authenticate_of_verified known (Refusal.toOption_eq_some.mp verified) with
    ⟨guard, signed⟩
  rw [name] at signed
  have query : dutyPoll.request.limit.toOption = some none := by decide +kernel
  have path : dutyPoll.request.segments = ["agent", "jobs"] := by decide +kernel
  refine ⟨guard, ?_⟩
  rw [Plane.serve]
  exact plane_respond_poll rfl path (Refusal.toOption_eq_some.mp query) signed

theorem leased_dutyPoll (sealedSecret : String) (guard : Signature.Guard) :
    ((({ dutyPlane sealedSecret dutyJobs with guard := guard } : Plane).run dutyPoll.fresh
      dutyPoll.now (.poll "a" none)).plane.state.jobs.get? "q").map Job.lockedBy =
        some (some "a") := by
  with_unfolding_all rfl

theorem caller_dutyPoll {p : Plane} {caller : Caller} (authority : Authority p dutyPoll caller) :
    caller = .agent "a" := by
  cases authority with
  | newcomer post => exact absurd post (by decide)
  | operator path => exact absurd path (by decide +kernel)
  | agent _ name =>
      rw [← name]
      exact congrArg Caller.agent (by decide +kernel)

theorem ne_job_dutyPoll (n : UInt64) : "r" ≠ dutyPoll.fresh.job n := by
  intro same
  have letters := congrArg String.toList same
  simp [dutyPoll, Fresh.strokes] at letters

theorem isHeldFrom_dutyLease : dutyLease.IsHeldFrom "a" dutyPoll.now :=
  ⟨rfl, ⟨"b", by decide, rfl⟩, _, rfl, by decide +kernel⟩

/-- The poll is given the job that waits; the lease of the other agent stands, although the
agent itself is disabled, and its row stays as it is. -/
theorem changes_authorized_poll :
    ((dutyPlane dutySeal dutyJobs).serve dutyPoll).state ≠ (dutyPlane dutySeal dutyJobs).state ∧
      (dutyPlane dutySeal dutyJobs).state.jobStore.Named ∧
      (dutyPlane dutySeal dutyJobs).NamesNewcomers [dutyPoll] ∧
      Authority (dutyPlane dutySeal dutyJobs) dutyPoll (.agent "a") ∧
      (((dutyPlane dutySeal dutyJobs).serve dutyPoll).state.jobs.get? "q").map Job.lockedBy =
        some (some "a") ∧
      ((dutyPlane dutySeal dutyJobs).serve dutyPoll).state.dossier "r" =
        (dutyPlane dutySeal dutyJobs).state.dossier "r" ∧
      ((dutyPlane dutySeal dutyJobs).served [dutyPoll]).state.agents.get? "b" =
        some (dutyAgent "b" dutySeal .disabled) := by
  have leased : (((dutyPlane dutySeal dutyJobs).serve dutyPoll).state.jobs.get? "q").map
      Job.lockedBy = some (some "a") := by
    rcases plane_dutyPoll dutyJobs with ⟨guard, same⟩
    rw [same]
    exact leased_dutyPoll dutySeal guard
  have changes : ((dutyPlane dutySeal dutyJobs).serve dutyPoll).state ≠
      (dutyPlane dutySeal dutyJobs).state := by
    intro same
    rw [same] at leased
    cases leased
  have named : (dutyPlane dutySeal dutyJobs).state.jobStore.Named := by
    intro id job found
    simp only [dutyPlane, dutyJobs, Plane.state, State.jobStore, Table.get?_insert,
      Table.get?_empty] at found
    split at found
    · rename_i here
      cases found
      exact here.symm
    · split at found
      · rename_i here
        cases found
        exact here.symm
      · cases found
  have newcomers : (dutyPlane dutySeal dutyJobs).NamesNewcomers [dutyPoll] := ⟨rfl, trivial⟩
  rcases changes_authorized (dutyPlane dutySeal dutyJobs) with ⟨authorized, _, disabled⟩
  rcases authorized dutyPoll changes with ⟨caller, authority, confined⟩
  have agent := caller_dutyPoll authority
  rw [agent] at authority
  refine ⟨changes, named, newcomers, authority, leased, ?_, ?_⟩
  · exact (confined "a" agent).2 named "r" dutyLease ne_job_dutyPoll rfl isHeldFrom_dutyLease
  · exact disabled [dutyPoll] newcomers "b" _ rfl rfl

/-!
# A job that does not stand under its own name

The sweep looks for leases that are over, and then for the jobs by the names in their rows.  A row
whose name is that of another job makes it end that job.
-/

/-- A request of an agent leaves the row of every job as it is that another agent holds. -/
def LeavesLeases (p : Plane) (visit : Visit) : Prop :=
  ∀ agentId, Authority p visit (.agent agentId) → ∀ id job, (∀ n, id ≠ visit.fresh.job n) →
    p.state.jobs.get? id = some job → job.IsHeldFrom agentId visit.now →
    (p.serve visit).state.jobs.get? id = some job

def misfiledJobs : Table Job :=
  dutyJobs.insert "k" ((dutyJob "r" 3).leased "b" "token" .epoch .epoch)

theorem swept_dutyPoll (sealedSecret : String) (guard : Signature.Guard) :
    ((({ dutyPlane sealedSecret misfiledJobs with guard := guard } : Plane).run dutyPoll.fresh
      dutyPoll.now (.poll "a" none)).plane.state.jobs.get? "r").map Job.status =
        some .failed := by
  with_unfolding_all rfl

theorem not_leavesLeases_misfiled : ¬ LeavesLeases (dutyPlane dutySeal misfiledJobs) dutyPoll := by
  intro leaves
  have failed : (((dutyPlane dutySeal misfiledJobs).serve dutyPoll).state.jobs.get? "r").map
      Job.status = some .failed := by
    rcases plane_dutyPoll misfiledJobs with ⟨guard, same⟩
    rw [same]
    exact swept_dutyPoll dutySeal guard
  have changes : ((dutyPlane dutySeal misfiledJobs).serve dutyPoll).state ≠
      (dutyPlane dutySeal misfiledJobs).state := by
    intro same
    rw [same] at failed
    cases failed
  rcases (serves_serve _ dutyPoll).authority changes with ⟨caller, authority, _⟩
  rw [caller_dutyPoll authority] at authority
  have found : misfiledJobs.get? "r" = some dutyLease := by
    rw [misfiledJobs, Table.get?_insert, if_neg (by decide), dutyJobs, Table.get?_insert,
      if_pos rfl]
  have kept := leaves "a" authority "r" dutyLease ne_job_dutyPoll found isHeldFrom_dutyLease
  rw [kept] at failed
  cases failed

end Http
end FleetControl
