import FleetControl.Table

/-!
# Sets of names

A set of names lists them in ascending order, each once.
-/

namespace FleetControl

abbrev NameSet := Table Unit

namespace NameSet

def ofList (names : List String) : NameSet :=
  Table.ofList (names.map (fun name => (name, ())))

def names (s : NameSet) : List String :=
  s.keys

end NameSet
end FleetControl
