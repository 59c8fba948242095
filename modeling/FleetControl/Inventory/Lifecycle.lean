import FleetControl.Text.Blank

/-!
# Lifecycle actions

The verb in a job type that acts on an instance or a voice server.
-/

namespace FleetControl
namespace Inventory

inductive Lifecycle where
  | create
  | start
  | stop
  | restart
  | reinstall
  | delete
  | suspend
  | unsuspend
  | other (word : String)
  deriving DecidableEq, Repr

namespace Lifecycle

def ofWord (word : String) : Lifecycle :=
  match word with
  | "create" => .create
  | "install" => .create
  | "start" => .start
  | "stop" => .stop
  | "restart" => .restart
  | "reinstall" => .reinstall
  | "delete" => .delete
  | "destroy" => .delete
  | "suspend" => .suspend
  | "unsuspend" => .unsuspend
  | _ => .other word

/-- The action changes what it acts on. -/
def isMutating : Lifecycle → Bool
  | .other _ => false
  | _ => true

end Lifecycle

/-- The two generations of voice servers. -/
inductive Flavor where
  | ts3
  | ts6
  deriving DecidableEq, Repr, Inhabited

namespace Flavor

def word : Flavor → String
  | .ts3 => "ts3"
  | .ts6 => "ts6"

end Flavor
end Inventory
end FleetControl
