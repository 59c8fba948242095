import FleetControl.State.Agents
import FleetControl.State.Reports
import FleetControl.Wire.Jobs

/-!
# Written form of agents and of what they send and receive
-/

namespace FleetControl

open Time

/-- What an agent is told once, when it registers. -/
structure Credential where
  agentId : String
  secret : String

/-- A leased job as the agent sees it. -/
structure Envelope where
  id : String
  type : String
  payload : Payload
  createdAt : Instant
  lockToken : String
  lockExpiresAt : Instant

namespace Envelope

def ofJob (job : Job) : Envelope :=
  { id := job.id
    type := job.type
    payload := job.payload
    createdAt := job.createdAt
    lockToken := job.lockToken.getD ""
    lockExpiresAt := job.lockExpiresAt.getD job.updatedAt }

end Envelope

structure PollReply where
  jobs : List Envelope
  maxConcurrency : UInt32

namespace Wire

open Json

def ofAgent (a : Agent) : Json :=
  .object
    [("id", .text a.id), ("name", .text a.name), ("secret_payload", .text a.sealedSecret),
     ("roles", ofNames a.roles), ("status", .text a.status.word),
     ("last_heartbeat_at", ofInstant? a.lastHeartbeatAt),
     ("last_heartbeat_ip", ofText? a.lastHeartbeatIp),
     ("last_heartbeat_version", ofText? a.lastHeartbeatVersion),
     ("last_heartbeat_stats", ofMembers a.lastHeartbeatStats),
     ("job_concurrency", ofUInt32 a.jobConcurrency), ("metadata", ofMembers a.metadata),
     ("registered_at", ofInstant a.registeredAt)]

def agent : Decoder Agent :=
  Record.decode
    (Agent.mk <$> .required "id" Decoder.text
      <*> .required "name" Decoder.text
      <*> .required "secret_payload" Decoder.text
      <*> .required "roles" names
      <*> .required "status" (wordIn Agent.Status.all Agent.Status.word)
      <*> .optional "last_heartbeat_at" instant
      <*> .optional "last_heartbeat_ip" Decoder.text
      <*> .optional "last_heartbeat_version" Decoder.text
      <*> .defaulted "last_heartbeat_stats" Decoder.members Table.empty
      <*> .required "job_concurrency" Decoder.uint32
      <*> .defaulted "metadata" Decoder.members Table.empty
      <*> .required "registered_at" instant)

/-!
# Registration and heartbeats
-/

def ofRegistration (r : Registration) : Json :=
  .object
    [("bootstrap_token", .text r.bootstrapToken), ("name", .text r.name),
     ("roles", ofTexts r.roles), ("metadata", ofMembers r.metadata)]

def registration : Decoder Registration :=
  Record.decode
    (Registration.mk <$> .required "bootstrap_token" Decoder.text
      <*> .required "name" Decoder.text
      <*> .defaulted "roles" texts []
      <*> .defaulted "metadata" Decoder.members Table.empty)

def ofCredential (c : Credential) : Json :=
  .object [("agent_id", .text c.agentId), ("secret", .text c.secret)]

def credential : Decoder Credential :=
  Record.decode
    (Credential.mk <$> .required "agent_id" Decoder.text <*> .required "secret" Decoder.text)

def ofHeartbeat (h : Heartbeat) : Json :=
  .object
    [("version", .text h.version), ("stats", ofMembers h.stats), ("roles", ofTexts h.roles),
     ("metadata", ofOption ofMembers h.metadata), ("status", ofText? h.status)]

def heartbeat : Decoder Heartbeat :=
  Record.decode
    (Heartbeat.mk <$> .required "version" Decoder.text
      <*> .defaulted "stats" Decoder.members Table.empty
      <*> .defaulted "roles" texts []
      <*> .defaultedOption "metadata" Decoder.members
      <*> .defaultedOption "status" Decoder.text)

/-- The short answer to what needs no other. -/
def ofAcknowledgement (status : String) : Json :=
  .object [("status", .text status)]

def acknowledgement : Decoder String :=
  Record.decode (id <$> .required "status" Decoder.text)

/-!
# Polling and reporting
-/

def ofEnvelope (e : Envelope) : Json :=
  .object
    [("id", .text e.id), ("type", .text e.type), ("payload", ofPayload e.payload),
     ("created_at", ofInstant e.createdAt), ("lock_token", .text e.lockToken),
     ("lock_expires_at", ofInstant e.lockExpiresAt)]

def envelope : Decoder Envelope :=
  Record.decode
    (Envelope.mk <$> .required "id" Decoder.text
      <*> .required "type" Decoder.text
      <*> .required "payload" payload
      <*> .required "created_at" instant
      <*> .required "lock_token" Decoder.text
      <*> .required "lock_expires_at" instant)

def ofPollReply (r : PollReply) : Json :=
  .object [("jobs", ofList ofEnvelope r.jobs), ("max_concurrency", ofUInt32 r.maxConcurrency)]

def pollReply : Decoder PollReply :=
  Record.decode
    (PollReply.mk <$> .required "jobs" (Decoder.listOf envelope)
      <*> .required "max_concurrency" Decoder.uint32)

def ofResultReport (r : ResultReport) : Json :=
  .object
    [("job_id", .text r.jobId), ("status", .text r.status),
     ("completed_at", ofInstant? r.completedAt), ("output", ofMembers r.output),
     ("lock_token", ofText? r.lockToken)]

def resultReport : Decoder ResultReport :=
  Record.decode
    (ResultReport.mk <$> .required "job_id" Decoder.text
      <*> .required "status" Decoder.text
      <*> .defaultedOption "completed_at" instant
      <*> .defaulted "output" Decoder.members Table.empty
      <*> .defaultedOption "lock_token" Decoder.text)

def int64 : Decoder Int :=
  Decoder.integer Int64.minValue.toInt Int64.maxValue.toInt

def ofLogReport (r : LogReport) : Json :=
  .object
    [("job_id", .text r.jobId), ("progress", ofOption integer r.progress),
     ("message", ofText? r.message), ("stdout", ofText? r.stdout),
     ("stderr", ofText? r.stderr), ("logs", ofOption Value.document r.logs),
     ("lock_token", ofText? r.lockToken)]

def logReport : Decoder LogReport :=
  Record.decode
    (LogReport.mk <$> .required "job_id" Decoder.text
      <*> .defaultedOption "progress" int64
      <*> .defaultedOption "message" Decoder.text
      <*> .defaultedOption "stdout" Decoder.text
      <*> .defaultedOption "stderr" Decoder.text
      <*> .defaultedOption "logs" Decoder.value
      <*> .defaultedOption "lock_token" Decoder.text)

end Wire
end FleetControl
