import FleetControl.Proofs.JobStore.Surroundings
import FleetControl.Proofs.State.Agents

/-!
# The network

The part of the state that the ports and the firewalls are in.  It belongs to the
surroundings of the jobs, so what is done to jobs leaves it alone; the registration of an
agent does so too.
-/

namespace FleetControl

open Time

structure Network where
  ports : Port.Tables
  firewalls : Table Firewall.Node

namespace State

def network (s : State) : Network :=
  { ports := s.ports, firewalls := s.firewalls }

variable {s s' : State} {id : String} {now : Instant}

theorem network_of_surroundings (h : s'.surroundings = s.surroundings) :
    s'.network = s.network := by
  have same := congrArg network h
  exact same

/-!
# Jobs
-/

theorem network_cancelJob {job : Job} (h : s.cancelJob id now = .ok (job, s')) :
    s'.network = s.network :=
  network_of_surroundings (surroundings_cancelJob h)

theorem network_finishJob {token : String} {status : Job.Status} {report : ResultReport}
    {cap : Nat} {job : Job} {result : Job.Result}
    (h : s.finishJob id token status report cap now = .ok (job, result, s')) :
    s'.network = s.network :=
  network_of_surroundings (surroundings_finishJob h)

theorem network_submitLogs {agentId : String} {report : LogReport} {policy : ReportPolicy}
    {expires : Instant} (h : s.submitLogs agentId id report policy now = .ok (expires, s')) :
    s'.network = s.network :=
  network_of_surroundings (surroundings_submitLogs h)

theorem network_expireStale (s : State) (now : Instant) :
    (s.expireStale now).2.network = s.network :=
  network_of_surroundings (s.surroundings_expireStale now)

theorem network_pollForWork {fresh : Fresh} {agentId : String} {limit : Nat}
    {policy : DispatchPolicy} {observers : List Observer} {outcome : PollOutcome}
    (h : s.pollForWork fresh agentId limit policy observers now = .ok (outcome, s')) :
    s'.network = s.network :=
  network_of_surroundings (surroundings_pollForWork h)

/-!
# New rows
-/

theorem network_registerAgent {fresh : Fresh} {req : Registration} {sealedSecret : String}
    {agent : Agent} (h : s.registerAgent fresh req sealedSecret now = .ok (agent, s')) :
    s'.network = s.network := by
  rw [registerAgent_eq_ok h]
  rfl

theorem network_createJob {fresh : Fresh} {order : Job.Order} {job : Job}
    (h : s.createJob fresh order now = .ok (job, s')) : s'.network = s.network :=
  network_of_surroundings (surroundings_createJob h)

theorem network_reconcileFirewall (s : State) (fresh : Fresh) (nodeId : String)
    (now : Instant) : (s.reconcileFirewall fresh nodeId now).2.network = s.network :=
  network_of_surroundings (s.surroundings_reconcileFirewall fresh nodeId now)

theorem network_reconcileFirewalls (s : State) (fresh : Fresh) (now : Instant)
    (nodes : List String) : (s.reconcileFirewalls fresh now nodes).2.network = s.network :=
  network_of_surroundings (s.surroundings_reconcileFirewalls fresh now nodes)

end State
end FleetControl
