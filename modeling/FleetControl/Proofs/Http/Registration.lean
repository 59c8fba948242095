import FleetControl.Proofs.Http.Server
import FleetControl.Proofs.Text.Bytes

/-!
# Registrations

An accepted registration is one commit, and puts the metadata on record as they came.
-/

namespace FleetControl

open Time

namespace Http

def registrationOf (text : String) : Request :=
  { method := "POST"
    target := "/agent/register"
    headers := [("content-type", "application/json")]
    body := Text.utf8 text
    peer := none }

variable {text : String} {r : Registration}

theorem segments_registrationOf (text : String) :
    (registrationOf text).segments = ["agent", "register"] := by
  have target : (registrationOf text).segments = (registrationOf "").segments := by
    simp only [Request.segments, Request.path, Request.pathAndQuery, registrationOf]
  rw [target]
  decide +kernel

theorem isJson_registrationOf (text : String) :
    ((registrationOf text).header? "content-type").any MediaType.isJson = true := by
  have headers : (registrationOf text).header? "content-type" =
      (registrationOf "").header? "content-type" := by
    simp only [Request.header?, registrationOf]
  rw [headers]
  decide +kernel

theorem operation_registrationOf (decoded : Wire.registration.runLead text = .ok r) :
    operation .register "" (registrationOf text) = .ok (.register r) := by
  have utf8 : Text.ofUtf8? (registrationOf text).body = some text := Text.ofUtf8?_utf8 text
  simp only [operation, Request.json, isJson_registrationOf, if_true, utf8, decoded]
  rfl

theorem respond_registrationOf {p : Plane} {fresh : Fresh} {now : Instant}
    (decoded : Wire.registration.runLead text = .ok r) :
    respond p fresh now (registrationOf text) =
      perform p fresh now .register (.register r) := by
  have route : Route.ofSegments? (registrationOf text).segments =
      some { endpoint := .register, parameter := "" } := by
    rw [segments_registrationOf]
    rfl
  have method : (registrationOf text).method = "POST" := rfl
  have parameter : Percent.decode? "".toList = some "" := by decide +kernel
  have answered : respondAt p fresh now { endpoint := .register, parameter := "" }
      (registrationOf text) = perform p fresh now .register (.register r) := by
    simp only [respondAt, method, parameter]
    simp [Endpoint.access, Endpoint.serves, Endpoint.isReading, respondUnsigned,
      operation_registrationOf decoded]
  simp only [respond, route, answered, method]
  simp

end Http

namespace Plane

theorem store_register {p : Plane} {req : Registration} (fresh : Fresh) (now : Instant)
    (admitted : p.admits req.bootstrapToken = true)
    (named : (Text.trim req.name).isEmpty = false) :
    ∃ agent : Agent, agent.metadata = req.metadata ∧ agent.lastHeartbeatStats = .empty ∧
      (p.register fresh req now).plane.store = p.store.apply .durable
        { p.state with agents := p.state.agents.insert fresh.agent agent } := by
  rw [register, if_pos admitted, plane_map]
  simp only [transactDurably, State.registerAgent, named, Bool.false_eq_true, if_false]
  exact ⟨_, rfl, rfl, rfl⟩

end Plane

namespace Server

/-!
# The first registration
-/

def emptyPlane : Plane :=
  { Plane.idle { Config.standard "" with bootstrapToken := "boot" } with
    store := { state := .empty, persistent := true, disk := .fresh none } }

def stateWith (agentId : String) (agent : Agent) : State :=
  { State.empty with agents := Table.empty.insert agentId agent, revision := 1 }

theorem restorable_stateWith_iff {agentId : String} {agent : Agent}
    (stats : agent.lastHeartbeatStats = .empty) :
    (stateWith agentId agent).Restorable ↔
      Json.MembersRestore State.valueRoom agent.metadata := by
  have only : ∀ k a, (stateWith agentId agent).agents.get? k = some a → a = agent := by
    intro k a h
    simp only [stateWith, Table.get?_insert, Table.get?_empty] at h
    split at h
    · exact (Option.some.inj h).symm
    · cases h
  constructor
  · intro restorable
    exact restorable.metadata agentId agent ((Table.get?_insert _ _ _ _).trans (if_pos rfl))
  · intro metadata
    constructor
    · intro jobId result h
      cases h
    · intro k a h
      rw [only k a h, stats]
      exact fun entry hentry => absurd hentry List.not_mem_nil
    · intro k a h
      rw [only k a h]
      exact metadata

theorem not_revision_stateWith_le {agentId : String} {agent : Agent} :
    ¬ (stateWith agentId agent).revision ≤ 0 := by
  show ¬ (1 : UInt64) ≤ 0
  decide

theorem apply_withTray (agentId : String) (agent : Agent) :
    (withTray emptyPlane).store.apply .durable
        { (withTray emptyPlane).state with
          agents := (withTray emptyPlane).state.agents.insert agentId agent } =
      { state := stateWith agentId agent
        persistent := true
        disk := .holding (stateWith agentId agent) } := by
  show Store.mk (stateWith agentId agent) true
      ((Disk.fresh none).save (.ofState (stateWith agentId agent))) = _
  rw [Disk.save_fresh not_revision_stateWith_le]

theorem first_registration {text : String} {r : Registration} (fresh : Fresh) (now : Instant)
    (decoded : Wire.registration.runLead text = .ok r)
    (token : r.bootstrapToken = "boot") (named : (Text.trim r.name).isEmpty = false) :
    ∃ agent : Agent, agent.metadata = r.metadata ∧ agent.lastHeartbeatStats = .empty ∧
      ((start emptyPlane).next (.request fresh now (Http.registrationOf text))).disk =
        .fresh none ∧
      ((start emptyPlane).next (.request fresh now (Http.registrationOf text))).commits =
        [{ state := stateWith fresh.agent agent
           snapshot := .ofState (stateWith fresh.agent agent) }] := by
  have admitted : (withTray emptyPlane).admits r.bootstrapToken = true := by
    rw [token]
    decide +kernel
  rcases Plane.store_register fresh now admitted named with ⟨agent, metadata, stats, applied⟩
  have store : (Http.respond (withTray emptyPlane) fresh now
      (Http.registrationOf text)).plane.store =
        { state := stateWith fresh.agent agent
          persistent := true
          disk := .holding (stateWith fresh.agent agent) } := by
    rw [Http.respond_registrationOf decoded, Http.perform, Plane.run, Plane.plane_map, applied]
    exact apply_withTray fresh.agent agent
  have commits := commits_settle_holding (start emptyPlane)
    (p := (Http.respond (withTray emptyPlane) fresh now (Http.registrationOf text)).plane)
    (by rw [store])
  rw [store] at commits
  exact ⟨agent, metadata, stats, rfl, commits⟩

end Server
end FleetControl
