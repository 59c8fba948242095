import FleetControl.Notice
import FleetControl.Wire.Scalar

/-!
# Written form of notices
-/

namespace FleetControl
namespace Wire

def ofAudit (e : AuditEvent) : Json :=
  .object
    [("action", .text e.action), ("actor", .text e.actor), ("subject", .text e.subject),
     ("detail", ofMembers e.detail), ("at", ofInstant e.time)]

def ofNotification (n : Notification) : Json :=
  .object
    [("kind", .text n.kind.word), ("subject", .text n.subject), ("message", .text n.message)]

end Wire
end FleetControl
