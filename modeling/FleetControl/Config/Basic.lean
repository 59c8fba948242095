import FleetControl.Inventory.Basic
import FleetControl.State.Dispatch
import FleetControl.Text.Ascii
import FleetControl.Text.Numeral

/-!
# Configuration

What an operator can set.  Values come from a file, and the environment is laid
over them.
-/

namespace FleetControl

structure Config where
  bind : String
  dataDir : String
  persist : Bool
  /-- The token that lets agents register. -/
  bootstrapToken : String
  /-- The token of the operators. -/
  adminToken : String
  /-- What the secrets of agents are sealed with. -/
  masterKey : String
  windowsEnabled : Bool
  windowsJobTypes : List String
  leaseSeconds : Int
  signatureWindowSeconds : Int
  pollLimit : Nat
  updateJobLimit : Nat
  maxLogLines : Nat
  sweepSeconds : Nat
  diskWarnFreePercent : Float
  diskCriticalFreePercent : Float

namespace Config

/-- The job types that an agent on Windows may run. -/
def standardWindowsJobTypes : List String :=
  ["agent.update", "agent.self_update", "sniper.update", "instance.create",
   "instance.start", "instance.stop", "instance.restart", "instance.reinstall",
   "instance.delete", "instance.backup.create", "instance.disk.scan",
   "instance.query.check", "server.status.check", "node.disk.stat"]

/-- The name of a file in a directory. -/
def inDirectory (dir name : String) : String :=
  if dir.isEmpty || dir.toList.getLast? = some '/' then dir ++ name else dir ++ "/" ++ name

/-- The configuration of one who sets nothing, with data under `dataHome`. -/
def standard (dataHome : String) : Config :=
  { bind := "127.0.0.1:8088"
    dataDir := inDirectory dataHome "panel"
    persist := true
    bootstrapToken := ""
    adminToken := ""
    masterKey := ""
    windowsEnabled := false
    windowsJobTypes := standardWindowsJobTypes
    leaseSeconds := 600
    signatureWindowSeconds := 300
    pollLimit := 10
    updateJobLimit := 2
    maxLogLines := 200
    sweepSeconds := 30
    diskWarnFreePercent := 15.0
    diskCriticalFreePercent := 5.0 }

def stateFile (c : Config) : String :=
  inDirectory c.dataDir "panel-state.json"

/-- The number of jobs to lease at most: what is asked for, from 1 to 50. -/
def clampPollLimit (c : Config) (requested : Option Nat) : Nat :=
  max 1 (min (requested.getD c.pollLimit) 50)

def dispatchPolicy (c : Config) : DispatchPolicy :=
  { leaseSeconds := c.leaseSeconds
    updateJobLimit := c.updateJobLimit
    windowsEnabled := c.windowsEnabled
    windowsJobTypes := c.windowsJobTypes }

def thresholds (c : Config) : Inventory.DiskThresholds :=
  { warnFreePercent := c.diskWarnFreePercent
    criticalFreePercent := c.diskCriticalFreePercent }

/-!
# The environment
-/

/-- Where the data of programs is kept. -/
def dataHome (env : String → Option String) : String :=
  match (env "XDG_DATA_HOME").filter (Text.startsWith "/") with
  | some dir => dir
  | none =>
      match env "HOME" with
      | some home => inDirectory home ".local/share"
      | none => "/tmp"

def flag (s : String) : Bool :=
  s = "1" || Text.sameIgnoringCase s "true"

def override {α : Type} (found : Option String) (read? : String → Option α) (old : α) : α :=
  (found.bind read?).getD old

/-- Lay the environment over a configuration.  A number that cannot be read changes
nothing. -/
def withEnvironment (c : Config) (env : String → Option String) : Config :=
  { c with
    bind := override (env "PANEL_BIND") some c.bind
    dataDir := override (env "PANEL_DATA_DIR") some c.dataDir
    persist := override (env "PANEL_PERSIST") (fun s => some (flag s)) c.persist
    bootstrapToken := override (env "PANEL_BOOTSTRAP_TOKEN") some c.bootstrapToken
    adminToken := override (env "PANEL_ADMIN_TOKEN") some c.adminToken
    masterKey := override (env "PANEL_MASTER_KEY") some c.masterKey
    windowsEnabled :=
      override (env "PANEL_WINDOWS_ENABLED") (fun s => some (flag s)) c.windowsEnabled
    leaseSeconds :=
      override (env "PANEL_LEASE_TTL_SECS") (fun s => Text.Numeral.int64? s.toList)
        c.leaseSeconds
    pollLimit :=
      override (env "PANEL_POLL_LIMIT") (fun s => Text.Numeral.natural? UInt64.size s.toList)
        c.pollLimit }

/-!
# Checking
-/

inductive Flaw where
  | leaseNotPositive
  | windowNotPositive
  | thresholdsSwapped
  deriving DecidableEq, Repr

namespace Flaw

def message : Flaw → String
  | .leaseNotPositive => "lease_ttl_secs must be positive"
  | .windowNotPositive => "signature_window_secs must be positive"
  | .thresholdsSwapped => "disk_critical_free_percent must not exceed disk_warn_free_percent"

end Flaw

def check (c : Config) : Except Flaw Unit :=
  if c.leaseSeconds ≤ 0 then .error .leaseNotPositive
  else if c.signatureWindowSeconds ≤ 0 then .error .windowNotPositive
  else if c.diskWarnFreePercent < c.diskCriticalFreePercent then .error .thresholdsSwapped
  else .ok ()

end Config
end FleetControl
