import FleetControl.Inventory.Basic
import FleetControl.Wire.Scalar

/-!
# Written form of the inventory
-/

namespace FleetControl
namespace Wire

open Json
open Inventory

def ofDomain (d : Domain) : Json :=
  .object
    [("id", .text d.id), ("name", .text d.name), ("status", .text d.status.word),
     ("ssl_expires_at", ofInstant? d.sslExpiresAt), ("updated_at", ofInstant? d.updatedAt)]

def domain : Decoder Domain :=
  Record.decode
    (Domain.mk <$> .required "id" Decoder.text
      <*> .required "name" Decoder.text
      <*> .required "status" (wordIn DomainStatus.all DomainStatus.word)
      <*> .defaultedOption "ssl_expires_at" instant
      <*> .defaultedOption "updated_at" instant)

/-!
# Instances and voice servers
-/

def ofQuery (q : Query) : Json :=
  .object
    [("state", .text q.state.word), ("players", ofOption ofUInt32 q.players),
     ("max_players", ofOption ofUInt32 q.maxPlayers), ("error", ofText? q.error),
     ("checked_at", ofInstant q.checkedAt)]

def query : Decoder Query :=
  Record.decode
    (Query.mk <$> .required "state" (wordIn QueryState.all QueryState.word)
      <*> .optional "players" Decoder.uint32
      <*> .optional "max_players" Decoder.uint32
      <*> .optional "error" Decoder.text
      <*> .required "checked_at" instant)

def instanceStatus : Decoder InstanceStatus :=
  wordIn InstanceStatus.all InstanceStatus.word

def ofInstance (i : Instance) : Json :=
  .object
    [("id", .text i.id), ("customer_id", .text i.customerId), ("node_id", .text i.nodeId),
     ("status", .text i.status.word), ("disk_used_bytes", ofOption ofUInt64 i.diskUsedBytes),
     ("disk_error", ofText? i.diskError), ("disk_scanned_at", ofInstant? i.diskScannedAt),
     ("query", ofOption ofQuery i.query), ("updated_at", ofInstant? i.updatedAt)]

def instanceRow : Decoder Instance :=
  Record.decode
    (Instance.mk <$> .required "id" Decoder.text
      <*> .required "customer_id" Decoder.text
      <*> .required "node_id" Decoder.text
      <*> .required "status" instanceStatus
      <*> .defaultedOption "disk_used_bytes" Decoder.uint64
      <*> .defaultedOption "disk_error" Decoder.text
      <*> .defaultedOption "disk_scanned_at" instant
      <*> .defaultedOption "query" query
      <*> .defaultedOption "updated_at" instant)

def ofVoiceServer (v : VoiceServer) : Json :=
  .object
    [("id", .text v.id), ("flavor", .text v.flavor.word), ("node_id", .text v.nodeId),
     ("status", .text v.status.word), ("updated_at", ofInstant? v.updatedAt)]

def voiceServer : Decoder VoiceServer :=
  Record.decode
    (VoiceServer.mk <$> .required "id" Decoder.text
      <*> .required "flavor" (wordIn [Flavor.ts3, Flavor.ts6] Flavor.word)
      <*> .required "node_id" Decoder.text
      <*> .required "status" instanceStatus
      <*> .defaultedOption "updated_at" instant)

/-!
# Backups and users
-/

def ofBackup (b : Backup) : Json :=
  .object
    [("id", .text b.id), ("instance_id", .text b.instanceId), ("status", .text b.status.word),
     ("size_bytes", ofOption ofUInt64 b.sizeBytes), ("error", ofText? b.error),
     ("completed_at", ofInstant? b.completedAt)]

def backup : Decoder Backup :=
  Record.decode
    (Backup.mk <$> .required "id" Decoder.text
      <*> .required "instance_id" Decoder.text
      <*> .required "status" (wordIn BackupStatus.all BackupStatus.word)
      <*> .defaultedOption "size_bytes" Decoder.uint64
      <*> .defaultedOption "error" Decoder.text
      <*> .defaultedOption "completed_at" instant)

def ofUser (u : User) : Json :=
  .object
    [("id", .text u.id), ("email", .text u.email), ("display_name", .text u.displayName),
     ("anonymized_at", ofInstant? u.anonymizedAt)]

def user : Decoder User :=
  Record.decode
    (User.mk <$> .required "id" Decoder.text
      <*> .required "email" Decoder.text
      <*> .required "display_name" Decoder.text
      <*> .defaultedOption "anonymized_at" instant)

def ofDeletionRequest (r : DeletionRequest) : Json :=
  .object
    [("id", .text r.id), ("user_id", .text r.userId), ("status", .text r.status.word),
     ("completed_at", ofInstant? r.completedAt)]

def deletionRequest : Decoder DeletionRequest :=
  Record.decode
    (DeletionRequest.mk <$> .required "id" Decoder.text
      <*> .required "user_id" Decoder.text
      <*> .required "status" (wordIn DeletionStatus.all DeletionStatus.word)
      <*> .defaultedOption "completed_at" instant)

/-!
# Disks and attacks
-/

def ofNodeDisk (d : NodeDisk) : Json :=
  .object
    [("node_id", .text d.nodeId), ("total_bytes", ofOption ofUInt64 d.totalBytes),
     ("free_bytes", ofOption ofUInt64 d.freeBytes), ("level", .text d.level.word),
     ("override_active", .bool d.overrideActive), ("error", ofText? d.error),
     ("updated_at", ofInstant d.updatedAt)]

def nodeDisk : Decoder NodeDisk :=
  Record.decode
    (NodeDisk.mk <$> .required "node_id" Decoder.text
      <*> .optional "total_bytes" Decoder.uint64
      <*> .optional "free_bytes" Decoder.uint64
      <*> .required "level" (wordIn DiskLevel.all DiskLevel.word)
      <*> .defaulted "override_active" Decoder.bool false
      <*> .defaultedOption "error" Decoder.text
      <*> .required "updated_at" instant)

def ofDdosReport (r : DdosReport) : Json :=
  .object
    [("node_id", .text r.nodeId), ("attack_active", .bool r.attackActive),
     ("pps", ofUInt64 r.pps), ("bps", ofOption ofUInt64 r.bps),
     ("ports", ofList ofUInt16 r.ports), ("protocols", ofTexts r.protocols),
     ("reported_at", ofInstant r.reportedAt)]

def ddosReport : Decoder DdosReport :=
  Record.decode
    (DdosReport.mk <$> .required "node_id" Decoder.text
      <*> .required "attack_active" Decoder.bool
      <*> .required "pps" Decoder.uint64
      <*> .defaultedOption "bps" Decoder.uint64
      <*> .required "ports" (Decoder.listOf Decoder.uint16)
      <*> .required "protocols" texts
      <*> .required "reported_at" instant)

def ofDdosPolicy (p : DdosPolicy) : Json :=
  .object
    [("node_id", .text p.nodeId), ("mode", .text p.mode), ("ports", ofList ofUInt16 p.ports),
     ("protocols", ofTexts p.protocols), ("enabled", .bool p.enabled),
     ("applied_at", ofInstant p.appliedAt)]

def ddosPolicy : Decoder DdosPolicy :=
  Record.decode
    (DdosPolicy.mk <$> .required "node_id" Decoder.text
      <*> .required "mode" Decoder.text
      <*> .required "ports" (Decoder.listOf Decoder.uint16)
      <*> .required "protocols" texts
      <*> .required "enabled" Decoder.bool
      <*> .required "applied_at" instant)

end Wire
end FleetControl
