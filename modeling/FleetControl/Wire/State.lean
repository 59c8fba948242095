import FleetControl.State.Basic
import FleetControl.Wire.Agents
import FleetControl.Wire.Inventory
import FleetControl.Wire.Jobs
import FleetControl.Wire.Ports

/-!
# Written form of the state

Any part of the state may be missing from a document and is empty then.
-/

namespace FleetControl
namespace Wire

open Json

def ofState (s : State) : Json :=
  .object
    [("jobs", ofTable ofJob s.jobs),
     ("results", ofTable ofResult s.results),
     ("logs", ofTable (ofList ofLogLine) s.logs),
     ("agents", ofTable ofAgent s.agents),
     ("ports", ofTables s.ports),
     ("firewalls", ofTable ofFirewall s.firewalls),
     ("ddos_status", ofTable ofDdosReport s.ddosReports),
     ("ddos_policy", ofTable ofDdosPolicy s.ddosPolicies),
     ("domains", ofTable ofDomain s.domains),
     ("instances", ofTable ofInstance s.instances),
     ("ts_servers", ofTable ofVoiceServer s.voiceServers),
     ("backups", ofTable ofBackup s.backups),
     ("users", ofTable ofUser s.users),
     ("deletion_requests", ofTable ofDeletionRequest s.deletionRequests),
     ("node_disks", ofTable ofNodeDisk s.nodeDisks),
     ("next_seq", ofUInt64 s.lastSeq),
     ("revision", ofUInt64 s.revision)]

def stateRecord : Record State :=
  State.mk <$> .defaulted "jobs" (Decoder.tableOf job) Table.empty
    <*> .defaulted "results" (Decoder.tableOf result) Table.empty
    <*> .defaulted "logs" (Decoder.tableOf (Decoder.listOf logLine)) Table.empty
    <*> .defaulted "agents" (Decoder.tableOf agent) Table.empty
    <*> .defaulted "ports" tables Port.Tables.empty
    <*> .defaulted "firewalls" (Decoder.tableOf firewall) Table.empty
    <*> .defaulted "ddos_status" (Decoder.tableOf ddosReport) Table.empty
    <*> .defaulted "ddos_policy" (Decoder.tableOf ddosPolicy) Table.empty
    <*> .defaulted "domains" (Decoder.tableOf domain) Table.empty
    <*> .defaulted "instances" (Decoder.tableOf instanceRow) Table.empty
    <*> .defaulted "ts_servers" (Decoder.tableOf voiceServer) Table.empty
    <*> .defaulted "backups" (Decoder.tableOf backup) Table.empty
    <*> .defaulted "users" (Decoder.tableOf user) Table.empty
    <*> .defaulted "deletion_requests" (Decoder.tableOf deletionRequest) Table.empty
    <*> .defaulted "node_disks" (Decoder.tableOf nodeDisk) Table.empty
    <*> .defaulted "next_seq" Decoder.uint64 0
    <*> .defaulted "revision" Decoder.uint64 0

def state : Decoder State :=
  stateRecord.decode

end Wire
end FleetControl
