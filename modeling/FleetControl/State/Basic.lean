import FleetControl.Agent
import FleetControl.Error
import FleetControl.Firewall.Basic
import FleetControl.Fresh
import FleetControl.Inventory.Basic
import FleetControl.Job.Basic

/-!
# State

Everything the control plane knows.  An operation is a function from a state to a
result and a new state, or to an error; with an error there is no new state, so a
refused operation leaves no trace.
-/

namespace FleetControl

structure State where
  jobs : Table Job
  results : Table Job.Result
  logs : Table (List Job.LogLine)
  agents : Table Agent
  ports : Port.Tables
  firewalls : Table Firewall.Node
  ddosReports : Table Inventory.DdosReport
  ddosPolicies : Table Inventory.DdosPolicy
  domains : Table Inventory.Domain
  instances : Table Inventory.Instance
  voiceServers : Table Inventory.VoiceServer
  backups : Table Inventory.Backup
  users : Table Inventory.User
  deletionRequests : Table Inventory.DeletionRequest
  nodeDisks : Table Inventory.NodeDisk
  /-- The sequence number of the job created last. -/
  lastSeq : UInt64
  /-- Counts the committed changes. -/
  revision : UInt64

namespace State

def empty : State :=
  { jobs := .empty, results := .empty, logs := .empty, agents := .empty, ports := .empty
    firewalls := .empty, ddosReports := .empty, ddosPolicies := .empty, domains := .empty
    instances := .empty, voiceServers := .empty, backups := .empty, users := .empty
    deletionRequests := .empty, nodeDisks := .empty, lastSeq := 0, revision := 0 }

instance : Inhabited State :=
  ⟨empty⟩

/-- Look a row up, or say that it is missing. -/
def find {α : Type} (rows : Table α) (kind : RowKind) (id : String) : Except Error α :=
  match rows.get? id with
  | some row => .ok row
  | none => .error (.missing kind id)

end State
end FleetControl
