import FleetControl.Json.Decode
import FleetControl.NameSet
import FleetControl.Port.RuleSet
import FleetControl.Time.Stamp

/-!
# Written form of scalars and collections

How numbers, instants, words and collections stand in a document.  Absent options
are written as `null`.
-/

namespace FleetControl
namespace Wire

open Time

/-- A whole number; one beyond 64 bits has no written form. -/
def integer (n : Int) : Json :=
  if h : -0x8000000000000000 ≤ n ∧ n < 0x10000000000000000 then .number (.whole n h) else .null

def natural (n : Nat) : Json :=
  integer n

def ofUInt8 (n : UInt8) : Json :=
  natural n.toNat

def ofUInt16 (n : UInt16) : Json :=
  natural n.toNat

def ofUInt32 (n : UInt32) : Json :=
  natural n.toNat

def ofUInt64 (n : UInt64) : Json :=
  natural n.toNat

def ofFloat (x : Float) : Json :=
  .number (.real x)

def ofInstant (t : Instant) : Json :=
  .text (Stamp.write t)

def ofOption {α : Type} (write : α → Json) : Option α → Json
  | some a => write a
  | none => .null

def ofText? : Option String → Json :=
  ofOption .text

def ofInstant? : Option Instant → Json :=
  ofOption ofInstant

def ofList {α : Type} (write : α → Json) (items : List α) : Json :=
  .array (items.map write)

def ofTexts : List String → Json :=
  ofList .text

def ofTable {α : Type} (write : α → Json) (t : Table α) : Json :=
  .object (t.entries.map (fun entry => (entry.1, write entry.2)))

def ofMembers : Members → Json :=
  ofTable Value.document

def ofPayload : Table String → Json :=
  ofTable .text

def ofNames (s : NameSet) : Json :=
  ofTexts s.names

/-!
# Reading
-/

open Json

def instant : Decoder Instant :=
  Decoder.parsed Stamp.read?

def texts : Decoder (List String) :=
  Decoder.listOf Decoder.text

def names : Decoder NameSet :=
  fun room d => (texts room d).map NameSet.ofList

def payload : Decoder (Table String) :=
  Decoder.tableOf Decoder.text

/-- One of the words of a choice. -/
def wordIn {α : Type} (all : List α) (word : α → String) : Decoder α :=
  Decoder.choice (all.map (fun a => (word a, a)))

/-!
# Port rules
-/

def protocol : Decoder Port.Protocol :=
  wordIn Port.Protocol.all Port.Protocol.name

def ofProtocol (p : Port.Protocol) : Json :=
  .text p.name

def ofRule (r : Port.Rule) : Json :=
  .object [("protocol", ofProtocol r.protocol), ("port", ofUInt16 r.port)]

def rule : Decoder Port.Rule :=
  Record.decode
    (Port.Rule.mk <$> .required "protocol" protocol <*> .required "port" Decoder.uint16)

def ofRuleSet (s : Port.RuleSet) : Json :=
  ofList ofRule s.rules

def ruleSet : Decoder Port.RuleSet :=
  fun room d => (Decoder.listOf rule room d).map Port.RuleSet.ofList

end Wire
end FleetControl
