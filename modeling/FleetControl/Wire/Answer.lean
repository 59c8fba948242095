import FleetControl.Plane.Operation
import FleetControl.Wire.State

/-!
# Written form of answers
-/

namespace FleetControl
namespace Wire

open Time

def ofDetail (d : JobDetail) : Json :=
  .object
    [("job", ofJob d.job), ("result", ofOption ofResult d.result),
     ("logs", ofList ofLogLine d.logs)]

def ofPortRelease (r : PortRelease) : Json :=
  .object
    [("blocks", ofTexts r.blocks), ("allocations", ofList ofAllocation r.allocations),
     ("firewall_jobs", ofList ofJob r.firewallJobs)]

def done : String := "ok"

def ofLeaseEnd (expiry : Instant) : Json :=
  .object [("status", .text done), ("lock_expires_at", ofInstant expiry)]

def ofExpired (jobs : List Job) : Json :=
  .object [("expired", ofTexts (jobs.map Job.id))]

def ofAnswer : Answer → Json
  | .credential c => ofCredential c
  | .done => ofAcknowledgement done
  | .work reply => ofPollReply reply
  | .leasedUntil expiry => ofLeaseEnd expiry
  | .job job => ofJob job
  | .detail detail => ofDetail detail
  | .expired jobs => ofExpired jobs
  | .pool pool => ofPool pool
  | .range range => ofRange range
  | .block block => ofBlock block
  | .blocks blocks => ofList ofBlock blocks
  | .allocation allocation => ofAllocation allocation
  | .release release => ofPortRelease release
  | .jobs jobs => ofList ofJob jobs

end Wire
end FleetControl
