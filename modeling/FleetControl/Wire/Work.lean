import FleetControl.Job.Work
import FleetControl.Wire.Jobs

/-!
# Written form of work

An object whose member `kind` tells the family, next to the fields of the family.  Port
rules stand as texts.
-/

namespace FleetControl
namespace Wire

def ofRules (rules : List Port.Rule) : Json :=
  ofList (fun r => .text r.text) rules

def ofLifecycle : Inventory.Lifecycle → Json
  | .create => .text "create"
  | .start => .text "start"
  | .stop => .text "stop"
  | .restart => .text "restart"
  | .reinstall => .text "reinstall"
  | .delete => .text "delete"
  | .suspend => .text "suspend"
  | .unsuspend => .text "unsuspend"
  | .other word => .object [("other", .text word)]

def ofWork : Job.Work → Json
  | .domain domainId => .object [("kind", .text "Domain"), ("domain_id", .text domainId)]
  | .firewall nodeId ports =>
      .object [("kind", .text "Firewall"), ("node_id", .text nodeId), ("ports", ofRules ports)]
  | .ddosCheck nodeId => .object [("kind", .text "DdosCheck"), ("node_id", .text nodeId)]
  | .ddosPolicy nodeId mode ports protocols enabled =>
      .object
        [("kind", .text "DdosPolicy"), ("node_id", .text nodeId), ("mode", .text mode),
         ("ports", ofList ofUInt16 ports), ("protocols", ofTexts protocols),
         ("enabled", .bool enabled)]
  | .voiceServer serverId flavor action =>
      .object
        [("kind", .text "TsServer"), ("ts_server_id", .text serverId),
         ("flavor", .text flavor.word), ("action", ofLifecycle action)]
  | .lifecycle instanceId nodeId action =>
      .object
        [("kind", .text "Instance"), ("instance_id", .text instanceId),
         ("node_id", ofText? nodeId), ("action", ofLifecycle action)]
  | .diskScan instanceId nodeId =>
      .object
        [("kind", .text "DiskScan"), ("instance_id", .text instanceId),
         ("node_id", ofText? nodeId)]
  | .nodeDiskStat nodeId => .object [("kind", .text "NodeDiskStat"), ("node_id", .text nodeId)]
  | .statusCheck instanceId =>
      .object [("kind", .text "StatusCheck"), ("instance_id", .text instanceId)]
  | .backup backupId instanceId =>
      .object
        [("kind", .text "Backup"), ("backup_id", .text backupId),
         ("instance_id", ofText? instanceId)]
  | .anonymize userId requestId =>
      .object
        [("kind", .text "GdprAnonymize"), ("user_id", .text userId),
         ("request_id", .text requestId)]
  | .agentUpdate version =>
      .object [("kind", .text "AgentUpdate"), ("version", ofText? version)]
  | .generic payload => .object [("kind", .text "Generic"), ("map", ofPayload payload)]

end Wire
end FleetControl
