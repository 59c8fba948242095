import FleetControl.Text.Ascii
import FleetControl.Text.Blank
import FleetControl.Text.Numeral

/-!
# Port rules

A rule is a protocol together with a port.  It is written `tcp:80`; `80/tcp` is
read as well, with blanks around either part and letters of any case.
-/

namespace FleetControl
namespace Port

open Text

inductive Protocol where
  | tcp
  | udp
  deriving DecidableEq, Repr, Inhabited, Hashable

namespace Protocol

def name : Protocol → String
  | .tcp => "tcp"
  | .udp => "udp"

def all : List Protocol :=
  [.tcp, .udp]

/-- The protocol named by a trimmed text in any letter case. -/
def ofWord? (word : String) : Option Protocol :=
  if word = "tcp" then some .tcp
  else if word = "udp" then some .udp
  else none

end Protocol

structure Rule where
  protocol : Protocol
  port : UInt16
  deriving DecidableEq, Repr, Inhabited, Hashable

/-- Why a text is not a rule. -/
inductive RuleFlaw where
  | unknownProtocol (word : String)
  | noPair (written : String)
  | noPort (written : String)
  | portZero
  deriving DecidableEq, Repr

namespace RuleFlaw

def message : RuleFlaw → String
  | .unknownProtocol word => "unknown protocol `" ++ word ++ "`"
  | .noPair written => "`" ++ written ++ "` is not protocol:port"
  | .noPort written => "`" ++ written ++ "` is not a port"
  | .portZero => "port 0 is not allocatable"

end RuleFlaw

namespace Protocol

def readChars (cs : List Char) : Except RuleFlaw Protocol :=
  let word := lower (String.ofList (trimChars cs))
  match ofWord? word with
  | some p => .ok p
  | none => .error (.unknownProtocol word)

def read (s : String) : Except RuleFlaw Protocol :=
  readChars s.toList

end Protocol

namespace Rule

def textChars (r : Rule) : List Char :=
  r.protocol.name.toList ++ ':' :: Numeral.ofNat r.port.toNat

def text (r : Rule) : String :=
  String.ofList r.textChars

/-- Protocol and port of a trimmed text, as they stand. -/
def parts? (cs : List Char) : Option (List Char × List Char) :=
  match cutAt ':' cs with
  | some (p, n) => some (p, n)
  | none =>
      match cutAt '/' cs with
      | some (n, p) => some (p, n)
      | none => none

def readChars (cs : List Char) : Except RuleFlaw Rule :=
  let trimmed := trimChars cs
  match parts? trimmed with
  | none => .error (.noPair (String.ofList trimmed))
  | some (protocol, number) =>
      let number := trimChars number
      match Numeral.uint16? number with
      | none => .error (.noPort (String.ofList number))
      | some port =>
          if port = 0 then .error .portZero
          else (Protocol.readChars protocol).map (fun p => { protocol := p, port := port })

def read (s : String) : Except RuleFlaw Rule :=
  readChars s.toList

/-- Rules are ordered by protocol, then by port. -/
def rank (r : Rule) : Nat :=
  match r.protocol with
  | .tcp => r.port.toNat
  | .udp => 65536 + r.port.toNat

theorem rank_injective {r s : Rule} (h : r.rank = s.rank) : r = s := by
  obtain ⟨p, n⟩ := r
  obtain ⟨q, m⟩ := s
  have hn := n.toNat_lt
  have hm := m.toNat_lt
  cases p <;> cases q <;> simp only [rank] at h
  · rw [UInt16.toNat_inj.mp h]
  · omega
  · omega
  · have same : n.toNat = m.toNat := by omega
    rw [UInt16.toNat_inj.mp same]

end Rule

/-- Rules in one line, separated by commas. -/
def listText (rules : List Rule) : String :=
  joined "," (rules.map Rule.text)

end Port
end FleetControl
