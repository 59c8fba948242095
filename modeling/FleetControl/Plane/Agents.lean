import FleetControl.Crypto.Seal
import FleetControl.Plane.Basic
import FleetControl.Signature.Verify
import FleetControl.State.Agents
import FleetControl.Wire.Agents

/-!
# What agents ask of the plane

An agent registers once with the bootstrap token, and from then on signs what it
sends with the secret it was given.
-/

namespace FleetControl
namespace Plane

open Time

/-!
# Identity
-/

/-- Without a bootstrap token in the configuration nobody can register. -/
def admits (p : Plane) (token : String) : Bool :=
  !p.config.bootstrapToken.isEmpty && token = p.config.bootstrapToken

def register (p : Plane) (fresh : Fresh) (req : Registration) (now : Instant) :
    Outcome Credential :=
  if p.admits req.bootstrapToken then
    let sealedSecret := Crypto.Seal.close p.config.masterKey fresh.sealNonce fresh.secret
    let registered := p.transactDurably (p.state.registerAgent fresh req sealedSecret now)
      (fun agent => .ofAudit
        [(AuditEvent.plain "agent.registered" agent.id agent.id now).noting "name" agent.name])
    registered.map (fun agent => { agentId := agent.id, secret := fresh.secret })
  else p.refuse .badBootstrapToken

/-- The secret of an agent that may sign requests. -/
def secretOf (p : Plane) (agentId : String) : Except Error String :=
  if agentId.isEmpty then .error .missingAgentId
  else
    match p.state.agents.get? agentId with
    | none => .error (.unknownAgent agentId)
    | some agent =>
        if agent.status = .disabled then .error (.agentDisabled agentId)
        else
          match Crypto.Seal.openSealed p.config.masterKey agent.sealedSecret with
          | .ok secret => .ok secret
          | .error flaw => .error (.sealedSecret flaw)

/-- Verify a signed request; the answer is the agent that signed it. -/
def authenticate (p : Plane) (parts : Signature.Parts) (method path : String)
    (body : List UInt8) (now : Instant) : Outcome String :=
  match p.secretOf parts.agentId with
  | .error e => p.refuse e
  | .ok secret =>
      let (verdict, guard) := Signature.verify p.config.signatureWindowSeconds p.guard parts
        secret method path body now
      { answer :=
          match verdict with
          | .ok () => .ok parts.agentId
          | .error flaw => .error (.badSignature flaw)
        notices := .none
        plane := { p with guard := guard } }

/-!
# Signs of life and work
-/

def heartbeat (p : Plane) (agentId : String) (beat : Heartbeat) (ip : Option String)
    (now : Instant) : Outcome Unit :=
  p.transact
    ((p.state.takeHeartbeat agentId beat ip p.config.windowsEnabled now).map
      (fun (durable, s) => ((), .durableIf durable, s)))
    (fun () => .none)

def poll (p : Plane) (fresh : Fresh) (agentId : String) (limit : Option Nat)
    (now : Instant) : Outcome PollReply :=
  let polled := p.transact
    ((p.state.pollForWork fresh agentId (p.config.clampPollLimit limit)
        p.config.dispatchPolicy p.observers now).map
      (fun (outcome, s) =>
        (outcome, .durableIf (!outcome.leased.isEmpty || !outcome.expired.isEmpty), s)))
    (fun outcome => .ofAudit
      (outcome.expired.map (jobEvent "job.expired" system now) ++
        outcome.leased.map (jobEvent "job.leased" agentId now)))
  polled.map (fun outcome =>
    { jobs := outcome.leased.map Envelope.ofJob, maxConcurrency := outcome.maxConcurrency })

/-!
# Reports
-/

def resultEvent (agentId jobId : String) (now : Instant) (r : Reported) : AuditEvent :=
  ((AuditEvent.plain "job.result" agentId jobId now).noting "type" r.job.type).noting
    "status" r.result.status.word

def submitResult (p : Plane) (fresh : Fresh) (agentId jobId : String) (report : ResultReport)
    (now : Instant) : Outcome Unit :=
  let submitted := p.transactDurably
    (p.state.submitResult fresh agentId jobId report p.reportPolicy now)
    (fun r =>
      { Notices.ofAudit [resultEvent agentId jobId now r] with
        finished := [{ job := r.job, result := r.result }] } ++ tellFollowUp now r.followUp)
  submitted.map (fun _ => ())

/-- Take a progress report in; the answer is the new end of the lease. -/
def submitLogs (p : Plane) (agentId jobId : String) (report : LogReport) (now : Instant) :
    Outcome Instant :=
  p.transactDurably (p.state.submitLogs agentId jobId report p.reportPolicy now)
    (fun _ => .none)

end Plane
end FleetControl
