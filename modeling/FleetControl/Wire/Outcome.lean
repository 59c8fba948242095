import FleetControl.State.Dispatch
import FleetControl.State.Reports
import FleetControl.Wire.Notice
import FleetControl.Wire.Ports
import FleetControl.Wire.Work

/-!
# Written form of what operations on the state come to
-/

namespace FleetControl
namespace Wire

def ofJobIds (jobs : List Job) : Json :=
  ofTexts (jobs.map Job.id)

def ofPollOutcome (o : PollOutcome) : Json :=
  .object
    [("leased", ofJobIds o.leased), ("expired", ofJobIds o.expired),
     ("max_concurrency", ofUInt32 o.maxConcurrency)]

def ofReported (r : Reported) : Json :=
  .object
    [("status", .text r.job.status.word), ("result", ofResult r.result),
     ("skipped_events", natural r.skipped),
     ("applied", .object
       [("notifications", ofList ofNotification r.followUp.notifications),
        ("created_jobs", ofJobIds r.followUp.createdJobs),
        ("released", ofList ofRelease r.followUp.released)])]

def ofPlan (p : Firewall.Plan) : Json :=
  .object
    [("node_id", .text p.nodeId), ("open", ofRules p.toOpen), ("close", ofRules p.toClose),
     ("empty", .bool p.isEmpty)]

end Wire
end FleetControl
