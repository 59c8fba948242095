import FleetControl.Json.Basic
import FleetControl.Time.Instant

/-!
# Notices

What is told to others about an operation: events for the audit trail, and
notifications for the operators.
-/

namespace FleetControl

open Time

namespace Notification

inductive Kind where
  | instanceError
  | backupFailed
  | ddosAttack
  | diskCritical
  deriving DecidableEq, Repr

namespace Kind

def word : Kind → String
  | .instanceError => "instance_error"
  | .backupFailed => "backup_failed"
  | .ddosAttack => "ddos_attack"
  | .diskCritical => "disk_critical"

end Kind
end Notification

structure Notification where
  kind : Notification.Kind
  subject : String
  message : String
  deriving DecidableEq

structure AuditEvent where
  /-- Dotted name of what was done. -/
  action : String
  /-- An agent, `admin` or `system`. -/
  actor : String
  subject : String
  detail : Members
  time : Instant

namespace AuditEvent

def plain (action actor subject : String) (now : Instant) : AuditEvent :=
  { action := action, actor := actor, subject := subject, detail := .empty, time := now }

def noting (e : AuditEvent) (key text : String) : AuditEvent :=
  { e with detail := e.detail.insert key (.text text) }

end AuditEvent
end FleetControl
