import FleetControl.Effect.Event
import FleetControl.Wire.Inventory
import FleetControl.Wire.Work

/-!
# Written form of events

An object whose member `event` tells what happened, next to what it happened to.
-/

namespace FleetControl
namespace Wire

def ofEvent : Effect.Event → Json
  | .domainStatusChanged domainId status =>
      .object
        [("event", .text "DomainStatusChanged"), ("domain_id", .text domainId),
         ("status", .text status.word)]
  | .certificateIssued domainId expiresAt =>
      .object
        [("event", .text "CertificateIssued"), ("domain_id", .text domainId),
         ("expires_at", ofInstant expiresAt)]
  | .firewallApplied nodeId opened closed =>
      .object
        [("event", .text "FirewallApplied"), ("node_id", .text nodeId),
         ("opened", ofRules opened), ("closed", ofRules closed)]
  | .ddosReported report =>
      .object [("event", .text "DdosStatusReported"), ("row", ofDdosReport report)]
  | .ddosPolicyApplied policy =>
      .object [("event", .text "DdosPolicyApplied"), ("row", ofDdosPolicy policy)]
  | .voiceServerChanged serverId flavor status =>
      .object
        [("event", .text "TsServerStatusChanged"), ("ts_server_id", .text serverId),
         ("flavor", .text flavor.word), ("status", .text status.word)]
  | .instanceChanged instanceId status =>
      .object
        [("event", .text "InstanceStatusChanged"), ("instance_id", .text instanceId),
         ("status", .text status.word)]
  | .diskScanRequested instanceId nodeId =>
      .object
        [("event", .text "DiskScanRequested"), ("instance_id", .text instanceId),
         ("node_id", ofText? nodeId)]
  | .portsReleased instanceId =>
      .object [("event", .text "InstancePortsReleased"), ("instance_id", .text instanceId)]
  | .diskScanned instanceId usedBytes error =>
      .object
        [("event", .text "InstanceDiskScanned"), ("instance_id", .text instanceId),
         ("used_bytes", ofOption ofUInt64 usedBytes), ("error", ofText? error)]
  | .nodeDiskReported nodeId totalBytes freeBytes error =>
      .object
        [("event", .text "NodeDiskReported"), ("node_id", .text nodeId),
         ("total_bytes", ofOption ofUInt64 totalBytes),
         ("free_bytes", ofOption ofUInt64 freeBytes), ("error", ofText? error)]
  | .queryChanged instanceId query =>
      .object
        [("event", .text "QueryStatusChanged"), ("instance_id", .text instanceId),
         ("status", ofQuery query)]
  | .backupFinished backupId succeeded sizeBytes error =>
      .object
        [("event", .text "BackupFinished"), ("backup_id", .text backupId),
         ("succeeded", .bool succeeded), ("size_bytes", ofOption ofUInt64 sizeBytes),
         ("error", ofText? error)]
  | .userAnonymized userId requestId =>
      .object
        [("event", .text "UserAnonymized"), ("user_id", .text userId),
         ("request_id", .text requestId)]

end Wire
end FleetControl
