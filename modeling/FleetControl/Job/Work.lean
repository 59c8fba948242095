import FleetControl.Job.Kind
import FleetControl.Port.Rule
import FleetControl.Table

/-!
# The work of a job

A job carries a flat table of texts as its payload.  Together with the job type
the payload means a piece of work, and a payload that lacks a field or has a field
that cannot be read means none.  Texts are trimmed, and a blank text is as good as
no text.

Job types without a meaning of their own carry their payload through untouched.
-/

namespace FleetControl

/-- The texts that every job carries. -/
abbrev Payload := Table String

namespace Job

open Text
open Port

inductive Work where
  | domain (domainId : String)
  | firewall (nodeId : String) (ports : List Rule)
  | ddosCheck (nodeId : String)
  | ddosPolicy (nodeId mode : String) (ports : List UInt16) (protocols : List String)
      (enabled : Bool)
  | voiceServer (serverId : String) (flavor : Inventory.Flavor)
      (action : Inventory.Lifecycle)
  | lifecycle (instanceId : String) (nodeId : Option String)
      (action : Inventory.Lifecycle)
  | diskScan (instanceId : String) (nodeId : Option String)
  | nodeDiskStat (nodeId : String)
  | statusCheck (instanceId : String)
  | backup (backupId : String) (instanceId : Option String)
  | anonymize (userId requestId : String)
  | agentUpdate (version : Option String)
  | generic (payload : Payload)
  deriving DecidableEq

namespace Work

inductive Reason where
  | rule (flaw : RuleFlaw)
  | noPort (written : String)
  | noFlag (written : String)
  deriving DecidableEq

namespace Reason

def message : Reason → String
  | .rule flaw => flaw.message
  | .noPort written => "`" ++ written ++ "` is not a port"
  | .noFlag written => "`" ++ written ++ "` is not a boolean"

end Reason

/-- Why a payload means no work. -/
inductive Flaw where
  | missing (type field : String)
  | invalid (type field : String) (reason : Reason)
  deriving DecidableEq

namespace Flaw

def message : Flaw → String
  | .missing type field => "job type " ++ type ++ ": missing payload field `" ++ field ++ "`"
  | .invalid type field reason =>
      "job type " ++ type ++ ": invalid payload field `" ++ field ++ "`: " ++ reason.message

end Flaw

/-!
# Fields
-/

/-- The trimmed text of a field, unless it is blank. -/
def optional (payload : Payload) (field : String) : Option String :=
  ((payload.get? field).map trim).filter (fun s => !s.isEmpty)

def required (type : String) (payload : Payload) (field : String) :
    Except Flaw String :=
  match optional payload field with
  | some s => .ok s
  | none => .error (.missing type field)

/-- The node that the job is for; an agent is known by the name of its node. -/
def nodeOption (payload : Payload) : Option String :=
  (optional payload "node_id").or (optional payload "agent_id")

def node (type : String) (payload : Payload) : Except Flaw String :=
  match nodeOption payload with
  | some s => .ok s
  | none => .error (.missing type "node_id")

def items (s : String) : List String :=
  (listItems s.toList).map String.ofList

def ruleList (type : String) (s : String) : Except Flaw (List Rule) :=
  (items s).mapM (fun item =>
    match Rule.read item with
    | .ok r => .ok r
    | .error flaw => .error (.invalid type "ports" (.rule flaw)))

def portList (type : String) (payload : Payload) (field : String) :
    Except Flaw (List UInt16) :=
  match optional payload field with
  | none => .ok []
  | some s =>
      (items s).mapM (fun item =>
        match Numeral.uint16? item.toList with
        | some port => .ok port
        | none => .error (.invalid type field (.noPort item)))

def wordList (payload : Payload) (field : String) : List String :=
  match optional payload field with
  | none => []
  | some s => (items s).map lower

def flag (type : String) (payload : Payload) (field : String) (absent : Bool) :
    Except Flaw Bool :=
  match optional payload field with
  | none => .ok absent
  | some s =>
      if s = "1" || s = "true" || s = "yes" then .ok true
      else if s = "0" || s = "false" || s = "no" then .ok false
      else .error (.invalid type field (.noFlag s))

/-!
# Families
-/

def ofVoiceServer (type : String) (flavor : Inventory.Flavor) (payload : Payload) :
    Except Flaw Work :=
  match (optional payload "ts_server_id").or (optional payload "instance_id") with
  | some serverId => .ok (.voiceServer serverId flavor (.ofWord (lastSegment type)))
  | none => .error (.missing type "ts_server_id")

/-- The work of job types that stand for a whole family. -/
def ofFamily (type : String) (payload : Payload) : Except Flaw Work :=
  if isUpdate type then .ok (.agentUpdate (optional payload "version"))
  else
    match flavor? type with
    | some flavor => ofVoiceServer type flavor payload
    | none =>
        match stripLead "instance.".toList type.toList with
        | some action => do
            let instanceId ← required type payload "instance_id"
            return .lifecycle instanceId (nodeOption payload)
              (.ofWord (String.ofList action))
        | none => .ok (.generic payload)

def ofFirewall (type : String) (payload : Payload) : Except Flaw Work := do
  let ports ← required type payload "ports"
  let rules ← ruleList type ports
  let nodeId ← node type payload
  return .firewall nodeId rules

def ofDdosPolicy (type : String) (payload : Payload) : Except Flaw Work := do
  let nodeId ← node type payload
  let mode ← required type payload "mode"
  let ports ← portList type payload "ports"
  let enabled ← flag type payload "enabled" true
  return .ddosPolicy nodeId mode ports (wordList payload "protocols") enabled

def decode (type : String) (payload : Payload) : Except Flaw Work :=
  match type with
  | "domain.add" => (required type payload "domain_id").map .domain
  | "domain.ssl.issue" => (required type payload "domain_id").map .domain
  | "firewall.open_ports" => ofFirewall type payload
  | "firewall.close_ports" => ofFirewall type payload
  | "ddos.status.check" => (node type payload).map .ddosCheck
  | "ddos.policy.apply" => ofDdosPolicy type payload
  | "instance.disk.scan" =>
      (required type payload "instance_id").map
        (fun instanceId => .diskScan instanceId (nodeOption payload))
  | "instance.backup.create" =>
      (required type payload "backup_id").map
        (fun backupId => .backup backupId (optional payload "instance_id"))
  | "server.status.check" => (required type payload "instance_id").map .statusCheck
  | "instance.query.check" => (required type payload "instance_id").map .statusCheck
  | "node.disk.stat" => (node type payload).map .nodeDiskStat
  | "gdpr.anonymize_user" => do
      let userId ← required type payload "user_id"
      let requestId ← required type payload "request_id"
      return .anonymize userId requestId
  | _ => ofFamily type payload

end Work
end Job
end FleetControl
