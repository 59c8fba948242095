/-!
# Letter case of ASCII text

Case is changed and ignored for the letters `A` to `Z` only; every other
character stands for itself.
-/

namespace FleetControl
namespace Text

def lower (s : String) : String :=
  String.ofList (s.toList.map Char.toLower)

def upper (s : String) : String :=
  String.ofList (s.toList.map Char.toUpper)

def sameIgnoringCase (a b : String) : Bool :=
  lower a == lower b

/-- Text behind a leading word, if it leads. -/
def stripLead (lead : List Char) (cs : List Char) : Option (List Char) :=
  if lead.isPrefixOf cs then some (cs.drop lead.length) else none

def startsWith (lead s : String) : Bool :=
  lead.toList.isPrefixOf s.toList

theorem startsWith_iff {lead s : String} :
    startsWith lead s = true ↔ lead.toList <+: s.toList :=
  List.isPrefixOf_iff_prefix

/-- The texts one after the other with a separator between neighbours. -/
def joined (sep : String) (items : List String) : String :=
  sep.intercalate items

end Text
end FleetControl
