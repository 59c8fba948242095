import FleetControl.Json.Basic
import FleetControl.NameSet
import FleetControl.Text.Ascii
import FleetControl.Time.Instant

/-!
# Agents

An agent runs on a node and is known by the name of that node.  It signs its
requests with a secret that is kept sealed.
-/

namespace FleetControl

open Time

namespace Agent

inductive Status where
  | registered
  | online
  | degraded
  | maintenance
  | offline
  | disabled
  deriving DecidableEq, Repr

namespace Status

def word : Status → String
  | .registered => "registered"
  | .online => "online"
  | .degraded => "degraded"
  | .maintenance => "maintenance"
  | .offline => "offline"
  | .disabled => "disabled"

def all : List Status :=
  [.registered, .online, .degraded, .maintenance, .offline, .disabled]

/-- The status an agent reports; `ok` means online. -/
def reported? (s : String) : Option Status :=
  match Text.lower s with
  | "registered" => some .registered
  | "online" => some .online
  | "ok" => some .online
  | "degraded" => some .degraded
  | "maintenance" => some .maintenance
  | "offline" => some .offline
  | "disabled" => some .disabled
  | _ => none

end Status

/-- The name of the system that is known to need its own job types. -/
def namesWindows (os : String) : Bool :=
  Text.sameIgnoringCase os "windows"

end Agent

structure Agent where
  id : String
  name : String
  /-- The shared secret, sealed. -/
  sealedSecret : String
  roles : NameSet
  status : Agent.Status
  lastHeartbeatAt : Option Instant
  lastHeartbeatIp : Option String
  lastHeartbeatVersion : Option String
  lastHeartbeatStats : Members
  jobConcurrency : UInt32
  metadata : Members
  registeredAt : Instant

namespace Agent

/-- The last heartbeat tells the system; without one the registration does. -/
def isWindows (agent : Agent) : Bool :=
  match ((agent.lastHeartbeatStats.get? "os").or (agent.metadata.get? "os")).bind
      Value.text? with
  | some os => namesWindows os
  | none => false

end Agent
end FleetControl
