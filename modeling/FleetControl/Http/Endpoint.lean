/-!
# Endpoints

Each endpoint has one path and one method.  Some paths have a parameter in the place
of a segment; a parameter at the end of a path is not empty.
-/

namespace FleetControl
namespace Http

inductive Endpoint where
  | register
  | heartbeat
  | poll
  | submitResult
  | submitLogs
  | createJob
  | expireStale
  | jobDetail
  | cancelJob
  | addPool
  | addRange
  | allocateBlocks
  | bindBlock
  | releaseBlock
  | allocatePort
  | releaseInstancePorts
  | reconcileFirewall
  deriving DecidableEq, Repr

/-- Who may use an endpoint. -/
inductive Access where
  | anyone
  /-- An agent that signs the request. -/
  | agent
  /-- An operator with the admin token. -/
  | admin
  deriving DecidableEq, Repr

namespace Endpoint

def access : Endpoint → Access
  | .register => .anyone
  | .heartbeat => .agent
  | .poll => .agent
  | .submitResult => .agent
  | .submitLogs => .agent
  | _ => .admin

/-- Reading endpoints also answer to `HEAD`. -/
def isReading : Endpoint → Bool
  | .poll => true
  | .jobDetail => true
  | _ => false

def serves (e : Endpoint) (method : String) : Bool :=
  if e.isReading then method = "GET" || method = "HEAD" else method = "POST"

/-- The status of an answer that is not an error. -/
def successStatus : Endpoint → Nat
  | .createJob => 201
  | .addPool => 201
  | .addRange => 201
  | .allocatePort => 201
  | _ => 200

end Endpoint

/-- An endpoint, and its parameter as it stands in the path. -/
structure Route where
  endpoint : Endpoint
  parameter : String
  deriving DecidableEq

namespace Route

def plain (e : Endpoint) : Option Route :=
  some { endpoint := e, parameter := "" }

def withParameter (e : Endpoint) (parameter : String) : Option Route :=
  some { endpoint := e, parameter := parameter }

/-- The route of a path, given as its segments. -/
def ofSegments? : List String → Option Route
  | ["agent", "register"] => plain .register
  | ["agent", "heartbeat"] => plain .heartbeat
  | ["agent", "jobs"] => plain .poll
  | ["agent", "jobs", job, "result"] => withParameter .submitResult job
  | ["agent", "jobs", job, "logs"] => withParameter .submitLogs job
  | ["admin", "jobs"] => plain .createJob
  | ["admin", "jobs", "expire"] => plain .expireStale
  | ["admin", "jobs", job] => if job.isEmpty then none else withParameter .jobDetail job
  | ["admin", "jobs", job, "cancel"] => withParameter .cancelJob job
  | ["admin", "pools"] => plain .addPool
  | ["admin", "ranges"] => plain .addRange
  | ["admin", "pools", pool, "blocks"] => withParameter .allocateBlocks pool
  | ["admin", "blocks", block, "bind"] => withParameter .bindBlock block
  | ["admin", "blocks", block, "release"] => withParameter .releaseBlock block
  | ["admin", "allocations"] => plain .allocatePort
  | ["admin", "instances", instanceId, "release-ports"] =>
      withParameter .releaseInstancePorts instanceId
  | ["admin", "nodes", node, "firewall", "reconcile"] => withParameter .reconcileFirewall node
  | _ => none

end Route
end Http
end FleetControl
