import FleetControl.Inventory.Lifecycle

/-!
# Job types

A job type is a dotted name.  The first segment tells the family, and what is left
tells the action.
-/

namespace FleetControl
namespace Job

open Text

/-- Updates are throttled apart from all other jobs. -/
def isUpdate (type : String) : Bool :=
  type = "sniper.update" || type = "agent.update" || type = "agent.self_update"

def segments (type : String) : List String :=
  (pieces '.' type.toList).map String.ofList

def firstSegment (type : String) : String :=
  (segments type).headD ""

def lastSegment (type : String) : String :=
  (segments type).getLastD ""

/-- The generation of voice server a job type is for. -/
def flavor? (type : String) : Option Inventory.Flavor :=
  match firstSegment type with
  | "ts3" => some .ts3
  | "ts6" => some .ts6
  | _ => none

end Job
end FleetControl
