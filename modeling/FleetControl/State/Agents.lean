import FleetControl.State.Firewalls

/-!
# Agents in the state

Registration puts an agent on record, and heartbeats keep its record up to date.
What only shows that an agent is alive need not be kept for good; what decides
which jobs it may be given must be.
-/

namespace FleetControl

open Port
open Time

structure Registration where
  bootstrapToken : String
  name : String
  roles : List String
  metadata : Members

structure Heartbeat where
  version : String
  stats : Members
  roles : List String
  metadata : Option Members
  status : Option String

/-!
# Heartbeats
-/

namespace Heartbeat

def reportsWindows (beat : Heartbeat) : Bool :=
  match (beat.stats.get? "os").bind Value.text? with
  | some os => Agent.namesWindows os
  | none => false

def agentStatus (beat : Heartbeat) : Except Error Agent.Status :=
  match beat.status with
  | none => .ok .online
  | some word =>
      match Agent.Status.reported? word with
      | some status => .ok status
      | none => .error (.unknownAgentStatus word)

def rulesOf (items : List Json) : Except Error (List Rule) :=
  (items.filterMap (fun item =>
    match item with
    | .text s => some s
    | _ => none)).mapM (fun s =>
      match Rule.read s with
      | .ok r => .ok r
      | .error flaw => .error (.badRule flaw))

/-- The ports that a heartbeat reports as open, if it reports any list. -/
def openPorts (beat : Heartbeat) : Except Error (Option RuleSet) :=
  match (beat.stats.get? "open_ports").map Value.document with
  | some (.array items) => (rulesOf items).map (fun rules => some (RuleSet.ofList rules))
  | _ => .ok none

end Heartbeat

namespace State

/-!
# Registration
-/

/-- Names without blanks around them, and without those that are blank. -/
def roleSet (roles : List String) : NameSet :=
  NameSet.ofList ((roles.map Text.trim).filter (fun role => !role.isEmpty))

def standardConcurrency : UInt32 := 4

/-- How many jobs an agent runs at a time: from 1 to 64, as it asks for. -/
def concurrencyOf (metadata : Members) : UInt32 :=
  match (metadata.get? "job_concurrency").map Value.document with
  | some (.number n) =>
      match n.natural? with
      | some wanted => UInt32.ofNat (max 1 (min wanted 64))
      | none => standardConcurrency
  | _ => standardConcurrency

def registerAgent (s : State) (fresh : Fresh) (req : Registration) (sealedSecret : String)
    (now : Instant) : Except Error (Agent × State) :=
  let name := Text.trim req.name
  if name.isEmpty then .error .agentNameMissing
  else
    let agent : Agent :=
      { id := fresh.agent
        name := name
        sealedSecret := sealedSecret
        roles := roleSet req.roles
        status := .registered
        lastHeartbeatAt := none
        lastHeartbeatIp := none
        lastHeartbeatVersion := none
        lastHeartbeatStats := .empty
        jobConcurrency := concurrencyOf req.metadata
        metadata := req.metadata
        registeredAt := now }
    .ok (agent, { s with agents := s.agents.insert agent.id agent })

/-!
# Keeping the record up to date
-/

def mergeMembers (a b : Members) : Members :=
  b.toList.foldl (fun all entry => all.insert entry.1 entry.2) a

def copyMember (stats : Members) (all : Members) (key : String) : Members :=
  match stats.get? key with
  | some value => all.insert key value
  | none => all

/-- The record of an agent after a heartbeat. -/
def beatAgent (agent : Agent) (beat : Heartbeat) (status : Agent.Status)
    (ip : Option String) (now : Instant) : Agent :=
  let metadata := mergeMembers agent.metadata (beat.metadata.getD .empty)
  { agent with
    lastHeartbeatAt := some now
    lastHeartbeatIp := ip
    lastHeartbeatVersion := some beat.version
    metadata := ["os", "arch"].foldl (copyMember beat.stats) metadata
    roles := if beat.roles.isEmpty then agent.roles else roleSet beat.roles
    status := status
    lastHeartbeatStats := beat.stats }

/-- Take a heartbeat in.  The result tells whether more than a sign of life has
changed. -/
def takeHeartbeat (s : State) (agentId : String) (beat : Heartbeat) (ip : Option String)
    (windowsEnabled : Bool) (now : Instant) : Except Error (Bool × State) :=
  if beat.reportsWindows ∧ !windowsEnabled then .error .windowsDisabled
  else do
    let status ← beat.agentStatus
    let openPorts ← beat.openPorts
    match s.agents.get? agentId with
    | none => throw (.unknownAgent agentId)
    | some agent =>
        let after := beatAgent agent beat status ip now
        let s := { s with agents := s.agents.insert agentId after }
        let durable := agent.status ≠ status || agent.roles ≠ after.roles || openPorts.isSome
        match openPorts with
        | some ports => return (durable, s.recordOpenPorts agentId ports now)
        | none => return (durable, s)

end State
end FleetControl
