import FleetControl.Json.Render
import FleetControl.Text.Ascii
import FleetControl.Text.Blank
import FleetControl.Time.Stamp

/-!
# Reading the output of a job

Agents write their output freely: a number may be given as a text, a list as one
text with commas, a time as a stamp or in seconds.  What cannot be read counts as
not given.
-/

namespace FleetControl
namespace Effect
namespace Output

open Text
open Time

def numberText (n : Number) : String :=
  String.ofList (Json.numeral n)

/-- A text that is not blank, or a number. -/
def text? (output : Members) (key : String) : Option String :=
  match (output.get? key).map Value.document with
  | some (.text s) => some (trim s) |>.filter (fun t => !t.isEmpty)
  | some (.number n) => some (numberText n)
  | _ => none

/-- The number without sign; a fraction is cut off, and what is too large counts as
the largest. -/
def ofNumber? (n : Number) : Option UInt64 :=
  match n with
  | .whole value _ => if 0 ≤ value then some (UInt64.ofNat value.toNat) else none
  | .real value => if 0 ≤ value then some value.toUInt64 else none

def uint64? (output : Members) (key : String) : Option UInt64 :=
  match (output.get? key).map Value.document with
  | some (.number n) => ofNumber? n
  | some (.text s) => Numeral.uint64? (trimChars s.toList)
  | _ => none

def uint32? (output : Members) (key : String) : Option UInt32 :=
  (uint64? output key).bind (fun n =>
    if n.toNat < UInt32.size then some (UInt32.ofNat n.toNat) else none)

def flagWord? (s : String) : Option Bool :=
  let word := lower (trim s)
  if word = "1" || word = "true" || word = "yes" then some true
  else if word = "0" || word = "false" || word = "no" then some false
  else none

def bool? (output : Members) (key : String) : Option Bool :=
  match (output.get? key).map Value.document with
  | some (.bool b) => some b
  | some (.number n) => n.signed?.map (fun value => value ≠ 0)
  | some (.text s) => flagWord? s
  | _ => none

def itemText? : Json → Option String
  | .text s => some (trim s)
  | .number n => some (numberText n)
  | _ => none

/-- The items of a list, or the parts of a text with commas. -/
def list (output : Members) (key : String) : List String :=
  match (output.get? key).map Value.document with
  | some (.array items) => (items.filterMap itemText?).filter (fun s => !s.isEmpty)
  | some (.text s) => (listItems s.toList).map String.ofList
  | _ => []

def ports (output : Members) (key : String) : List UInt16 :=
  (list output key).filterMap (fun s => Numeral.uint16? s.toList)

def time? (output : Members) (key : String) : Option Instant :=
  match (output.get? key).map Value.document with
  | some (.text s) => Stamp.readStrict? (trim s)
  | some (.number n) => n.signed?.bind Instant.ofSeconds?
  | _ => none

def failureReason (output : Members) (fallback : String) : String :=
  ((text? output "error").or (text? output "message")).getD fallback

end Output
end Effect
end FleetControl
