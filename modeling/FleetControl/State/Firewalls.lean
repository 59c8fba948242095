import FleetControl.State.Jobs

/-!
# Firewalls in the state

The ports that should be open on a node follow from the port tables.  What differs
from the ports known to be open is closed by jobs, and no job is created twice for
the same difference.
-/

namespace FleetControl
namespace State

open Port
open Time

def firewallPlan (s : State) (nodeId : String) : Firewall.Plan :=
  .between nodeId (s.ports.desired nodeId) (s.firewalls.get? nodeId)

def hasFirewallJob (s : State) (type nodeId ports : String) : Bool :=
  s.jobs.values.any (fun job =>
    job.isPending && job.type = type && job.nodeId? = some nodeId &&
      job.payload.get? "ports" = some ports)

def firewallPayload (nodeId ports : String) : Payload :=
  ((Table.empty.insert "node_id" nodeId).insert "agent_id" nodeId).insert "ports" ports

/-- Enqueue a job for these ports unless there are none or such a job is pending. -/
def requestFirewallJob (s : State) (fresh : Fresh) (type nodeId : String)
    (rules : List Rule) (now : Instant) : List Job × State :=
  if rules.isEmpty then ([], s)
  else
    let ports := listText rules
    if s.hasFirewallJob type nodeId ports then ([], s)
    else
      let (job, s) := s.insertJob fresh type (firewallPayload nodeId ports) (some "system") now
      ([job], s)

def openPortsType : String := "firewall.open_ports"

def closePortsType : String := "firewall.close_ports"

def reconcileFirewall (s : State) (fresh : Fresh) (nodeId : String) (now : Instant) :
    List Job × State :=
  let plan := s.firewallPlan nodeId
  let (opening, s) := s.requestFirewallJob fresh openPortsType nodeId plan.toOpen now
  let (closing, s) := s.requestFirewallJob fresh closePortsType nodeId plan.toClose now
  (opening ++ closing, s)

def reconcileFirewalls (s : State) (fresh : Fresh) (now : Instant) :
    List String → List Job × State
  | [] => ([], s)
  | nodeId :: rest =>
      let (jobs, s) := s.reconcileFirewall fresh nodeId now
      let (more, s) := s.reconcileFirewalls fresh now rest
      (jobs ++ more, s)

def firewall (s : State) (nodeId : String) : Firewall.Node :=
  (s.firewalls.get? nodeId).getD (.fresh nodeId)

/-- A node reports which ports are open. -/
def recordOpenPorts (s : State) (nodeId : String) (ports : RuleSet) (now : Instant) : State :=
  { s with firewalls := s.firewalls.insert nodeId ((s.firewall nodeId).report ports now) }

/-- A firewall job of a node has succeeded. -/
def applyFirewallChange (s : State) (nodeId : String) (opened closed : List Rule)
    (now : Instant) : State :=
  { s with
    firewalls := s.firewalls.insert nodeId ((s.firewall nodeId).change opened closed now) }

end State
end FleetControl
