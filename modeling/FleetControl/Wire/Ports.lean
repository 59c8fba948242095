import FleetControl.Firewall.Basic
import FleetControl.Wire.Scalar

/-!
# Written form of ports and firewalls
-/

namespace FleetControl
namespace Wire

open Json
open Port

/-!
# Pools, ranges, blocks and allocations
-/

def ofPool (p : Pool) : Json :=
  .object
    [("id", .text p.id), ("node_id", .text p.nodeId), ("name", .text p.name),
     ("start_port", ofUInt16 p.startPort), ("end_port", ofUInt16 p.endPort),
     ("protocols", ofList ofProtocol p.protocols), ("purpose", .text p.purpose),
     ("enabled", .bool p.enabled)]

def pool : Decoder Pool :=
  Record.decode
    (Pool.mk <$> .defaulted "id" Decoder.text ""
      <*> .required "node_id" Decoder.text
      <*> .required "name" Decoder.text
      <*> .required "start_port" Decoder.uint16
      <*> .required "end_port" Decoder.uint16
      <*> .defaulted "protocols" (Decoder.listOf protocol) Protocol.all
      <*> .defaulted "purpose" Decoder.text ""
      <*> .defaulted "enabled" Decoder.bool true)

def ofRange (r : Port.Range) : Json :=
  .object
    [("id", .text r.id), ("node_id", .text r.nodeId), ("name", .text r.name),
     ("start_port", ofUInt16 r.startPort), ("end_port", ofUInt16 r.endPort),
     ("protocol", ofProtocol r.protocol), ("purpose", .text r.purpose),
     ("enabled", .bool r.enabled)]

def range : Decoder Port.Range :=
  Record.decode
    (Range.mk <$> .defaulted "id" Decoder.text ""
      <*> .required "node_id" Decoder.text
      <*> .required "name" Decoder.text
      <*> .required "start_port" Decoder.uint16
      <*> .required "end_port" Decoder.uint16
      <*> .required "protocol" protocol
      <*> .defaulted "purpose" Decoder.text ""
      <*> .defaulted "enabled" Decoder.bool true)

def ofBlock (b : Block) : Json :=
  .object
    [("id", .text b.id), ("pool_id", .text b.poolId), ("node_id", .text b.nodeId),
     ("customer_id", .text b.customerId), ("instance_id", ofText? b.instanceId),
     ("start_port", ofUInt16 b.startPort), ("end_port", ofUInt16 b.endPort),
     ("allocated_at", ofInstant b.allocatedAt), ("released_at", ofInstant? b.releasedAt)]

def block : Decoder Block :=
  Record.decode
    (Block.mk <$> .required "id" Decoder.text
      <*> .required "pool_id" Decoder.text
      <*> .required "node_id" Decoder.text
      <*> .required "customer_id" Decoder.text
      <*> .optional "instance_id" Decoder.text
      <*> .required "start_port" Decoder.uint16
      <*> .required "end_port" Decoder.uint16
      <*> .required "allocated_at" instant
      <*> .optional "released_at" instant)

def ofAllocation (a : Allocation) : Json :=
  .object
    [("id", .text a.id), ("node_id", .text a.nodeId), ("protocol", ofProtocol a.protocol),
     ("port", ofUInt16 a.port), ("instance_id", .text a.instanceId), ("role", .text a.role),
     ("allocated_at", ofInstant a.allocatedAt)]

def allocation : Decoder Allocation :=
  Record.decode
    (Allocation.mk <$> .required "id" Decoder.text
      <*> .required "node_id" Decoder.text
      <*> .required "protocol" protocol
      <*> .required "port" Decoder.uint16
      <*> .required "instance_id" Decoder.text
      <*> .required "role" Decoder.text
      <*> .required "allocated_at" instant)

def ofTables (t : Tables) : Json :=
  .object
    [("pools", ofTable ofPool t.pools), ("ranges", ofTable ofRange t.ranges),
     ("blocks", ofTable ofBlock t.blocks), ("allocations", ofTable ofAllocation t.allocations)]

def tables : Decoder Tables :=
  Record.decode
    (Tables.mk <$> .required "pools" (Decoder.tableOf pool)
      <*> .required "ranges" (Decoder.tableOf range)
      <*> .required "blocks" (Decoder.tableOf block)
      <*> .required "allocations" (Decoder.tableOf allocation))

/-!
# Requests

The strategy of a request is an object whose member `mode` tells which other
members it has.  The whole object is read before any member is looked at, so a
fault in its text wins over a wrong shape.
-/

def offset32 : Decoder Int :=
  Decoder.integer Int32.minValue.toInt Int32.maxValue.toInt

def strategyModes : List (String × Record Strategy) :=
  [("first_free", Strategy.firstFree <$> .required "range_id" Decoder.text),
   ("derived",
     Strategy.derived <$> .required "base_role" Decoder.text <*> .required "offset" offset32),
   ("explicit", Strategy.explicit <$> .required "port" Decoder.uint16)]

def strategyMode (room : Nat) (item : Draft) : Except Flaw (Record Strategy) := do
  let word ← Decoder.text room item
  Decoder.wordOf strategyModes word

/-- Read the members, of which one tells the mode; the others are left. -/
def splitMode (room : Nat) :
    List (String × Draft) → Except Flaw (Option (Record Strategy) × List (String × Draft))
  | [] => .ok (none, [])
  | (key, item) :: rest =>
      if key = "mode" then do
        let mode ← strategyMode room item
        let (second, others) ← splitMode room rest
        match second with
        | none => return (some mode, others)
        | some _ => throw .wrongShape
      else do
        let _ ← Decoder.value room item
        let (mode, others) ← splitMode room rest
        return (mode, (key, item) :: others)

/-- Read the remaining members or items; only their shape can be wrong now. -/
def strategyRest (mode : Option (Record Strategy)) (rest : Draft) : Except Flaw Strategy :=
  match mode with
  | none => .error .wrongShape
  | some record =>
      match record.decode Decoder.depthLimit rest with
      | .ok s => .ok s
      | .error _ => .error .wrongShape

def strategy : Decoder Strategy
  | 0, .object _ _ => .error .notJson
  | room + 1, .object members closed => do
      let (mode, others) ← splitMode room members
      if closed then strategyRest mode (.object others true) else throw .notJson
  | 0, .array _ _ => .error .notJson
  | room + 1, .array items closed =>
      match items with
      | [] => .error (if closed then .wrongShape else .notJson)
      | first :: rest => do
          let mode ← strategyMode room first
          let _ ← rest.mapM (Decoder.value room)
          if closed then strategyRest (some mode) (.array rest true) else throw .notJson
  | _, d => .error (Decoder.mismatch d)

def ofStrategy : Strategy → Json
  | .firstFree rangeId => .object [("mode", .text "first_free"), ("range_id", .text rangeId)]
  | .derived baseRole offset =>
      .object [("mode", .text "derived"), ("base_role", .text baseRole),
        ("offset", integer offset)]
  | .explicit port => .object [("mode", .text "explicit"), ("port", ofUInt16 port)]

def ofRequest (r : Request) : Json :=
  .object
    [("node_id", .text r.nodeId), ("protocol", ofProtocol r.protocol),
     ("instance_id", .text r.instanceId), ("role", .text r.role),
     ("strategy", ofStrategy r.strategy)]

def request : Decoder Request :=
  Record.decode
    (Request.mk <$> .required "node_id" Decoder.text
      <*> .required "protocol" protocol
      <*> .required "instance_id" Decoder.text
      <*> .required "role" Decoder.text
      <*> .required "strategy" strategy)

def ofBlockRequest (r : BlockRequest) : Json :=
  .object
    [("customer_id", .text r.customerId), ("size", ofUInt32 r.size),
     ("start", ofOption ofUInt16 r.start), ("end", ofOption ofUInt16 r.stop)]

def blockRequest : Decoder BlockRequest :=
  Record.decode
    (BlockRequest.mk <$> .required "customer_id" Decoder.text
      <*> .required "size" Decoder.uint32
      <*> .defaultedOption "start" Decoder.uint16
      <*> .defaultedOption "end" Decoder.uint16)

def ofRelease (r : Release) : Json :=
  .object
    [("blocks", ofTexts r.blocks), ("allocations", ofList ofAllocation r.allocations),
     ("nodes", ofNames r.nodes)]

/-!
# Firewalls
-/

def ofFirewall (f : Firewall.Node) : Json :=
  .object
    [("node_id", .text f.nodeId), ("open_ports", ofRuleSet f.openPorts),
     ("managed", ofRuleSet f.managed), ("reported_at", ofInstant? f.reportedAt)]

def firewall : Decoder Firewall.Node :=
  Record.decode
    (Firewall.Node.mk <$> .required "node_id" Decoder.text
      <*> .required "open_ports" ruleSet
      <*> .defaulted "managed" ruleSet RuleSet.empty
      <*> .optional "reported_at" instant)

end Wire
end FleetControl
