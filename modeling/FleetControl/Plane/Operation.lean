import FleetControl.Plane.Agents
import FleetControl.Plane.Jobs
import FleetControl.Plane.Ports

/-!
# Operations

All that can be asked of the plane, and all answers, as data.  A run of the plane is
a sequence of operations.
-/

namespace FleetControl

open Port
open Time

inductive Operation where
  | register (req : Registration)
  | heartbeat (agentId : String) (beat : Heartbeat) (ip : Option String)
  | poll (agentId : String) (limit : Option Nat)
  | submitResult (agentId jobId : String) (report : ResultReport)
  | submitLogs (agentId jobId : String) (report : LogReport)
  | createJob (order : Job.Order) (actor : String)
  | jobDetail (jobId : String)
  | cancelJob (jobId actor : String)
  | expireStale
  | addPool (pool : Pool)
  | addRange (range : Port.Range)
  | allocateBlocks (poolId : String) (req : BlockRequest) (actor : String)
  | bindBlock (blockId instanceId : String)
  | releaseBlock (blockId actor : String)
  | allocatePort (req : Port.Request) (actor : String)
  | releaseInstancePorts (instanceId actor : String)
  | reconcileFirewall (nodeId : String)

inductive Answer where
  | credential (c : Credential)
  | done
  | work (reply : PollReply)
  | leasedUntil (expiry : Instant)
  | job (job : Job)
  | detail (detail : JobDetail)
  | expired (jobs : List Job)
  | pool (pool : Pool)
  | range (range : Port.Range)
  | block (block : Block)
  | blocks (blocks : List Block)
  | allocation (allocation : Allocation)
  | release (release : PortRelease)
  | jobs (jobs : List Job)

namespace Plane

def run (p : Plane) (fresh : Fresh) (now : Instant) : Operation → Outcome Answer
  | .register req => (p.register fresh req now).map .credential
  | .heartbeat agentId beat ip => (p.heartbeat agentId beat ip now).map (fun () => .done)
  | .poll agentId limit => (p.poll fresh agentId limit now).map .work
  | .submitResult agentId jobId report =>
      (p.submitResult fresh agentId jobId report now).map (fun () => .done)
  | .submitLogs agentId jobId report => (p.submitLogs agentId jobId report now).map .leasedUntil
  | .createJob order actor => (p.createJob fresh order actor now).map .job
  | .jobDetail jobId => (p.jobDetail jobId).map .detail
  | .cancelJob jobId actor => (p.cancelJob jobId actor now).map .job
  | .expireStale => (p.expireStale now).map .expired
  | .addPool pool => (p.addPool fresh pool).map .pool
  | .addRange range => (p.addRange fresh range).map .range
  | .allocateBlocks poolId req actor => (p.allocateBlocks fresh poolId req actor now).map .blocks
  | .bindBlock blockId instanceId => (p.bindBlock fresh blockId instanceId now).map .block
  | .releaseBlock blockId actor => (p.releaseBlock fresh blockId actor now).map .block
  | .allocatePort req actor => (p.allocatePort fresh req actor now).map .allocation
  | .releaseInstancePorts instanceId actor =>
      (p.releaseInstancePorts fresh instanceId actor now).map .release
  | .reconcileFirewall nodeId => (p.reconcileFirewall fresh nodeId now).map .jobs

end Plane
end FleetControl
