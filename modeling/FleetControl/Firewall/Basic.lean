import FleetControl.Port.Allocate

/-!
# Firewalls of nodes

A node reports which ports are open.  Ports that the control plane opened itself
are managed, and only managed ports are ever closed again.
-/

namespace FleetControl
namespace Firewall

open Port
open Time

structure Node where
  nodeId : String
  openPorts : RuleSet
  managed : RuleSet
  reportedAt : Option Instant
  deriving DecidableEq

namespace Node

def fresh (nodeId : String) : Node :=
  { nodeId := nodeId, openPorts := .empty, managed := .empty, reportedAt := none }

/-- What the node reports replaces what was known. -/
def report (f : Node) (ports : RuleSet) (now : Instant) : Node :=
  { f with openPorts := ports, reportedAt := some now }

/-- Ports that a finished job opened or closed. -/
def change (f : Node) (opened closed : List Rule) (now : Instant) : Node :=
  { f with
    openPorts := (f.openPorts.insertAll opened).eraseAll closed
    managed := (f.managed.insertAll opened).eraseAll closed
    reportedAt := some now }

end Node

/-- What has to be opened and closed on a node. -/
structure Plan where
  nodeId : String
  toOpen : List Rule
  toClose : List Rule
  deriving DecidableEq

namespace Plan

def isEmpty (p : Plan) : Bool :=
  p.toOpen.isEmpty && p.toClose.isEmpty

/-- Desired ports that are not open, and managed ports that are open and no longer
desired. -/
def between (nodeId : String) (desired : RuleSet) (known : Option Node) : Plan :=
  let f := known.getD (Node.fresh nodeId)
  { nodeId := nodeId
    toOpen := (desired.difference f.openPorts).rules
    toClose := ((f.openPorts.intersection f.managed).difference desired).rules }

end Plan
end Firewall
end FleetControl
