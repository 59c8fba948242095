/-!
# TOML documents

The values of a TOML document.  Dates and times are told apart from all other
values and not interpreted.
-/

namespace FleetControl

inductive Toml where
  | text (s : String)
  | integer (n : Int)
  | float (x : Float)
  | bool (b : Bool)
  | time
  | array (items : List Toml)
  | table (entries : List (String × Toml))
  deriving Inhabited

namespace Toml

def get? (entries : List (String × Toml)) (key : String) : Option Toml :=
  entries.lookup key

end Toml
end FleetControl
