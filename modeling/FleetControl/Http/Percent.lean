import FleetControl.Text.Bytes
import FleetControl.Text.Hex

/-!
# Percent encoding

A percent sign and two hexadecimal digits stand for a byte.  A percent sign that is
not followed by two digits stands for itself, and so does every other character.
-/

namespace FleetControl
namespace Http
namespace Percent

open Text

def byte? (hi lo : Char) : Option UInt8 := do
  let h ← Hex.value? hi
  let l ← Hex.value? lo
  return UInt8.ofNat (16 * h + l)

def bytes : List Char → List UInt8
  | [] => []
  | '%' :: hi :: lo :: rest =>
      match byte? hi lo with
      | some b => b :: bytes rest
      | none => utf8 "%" ++ bytes (hi :: lo :: rest)
  | c :: rest => utf8 (String.ofList [c]) ++ bytes rest

/-- The decoded text, if the bytes are UTF-8. -/
def decode? (cs : List Char) : Option String :=
  ofUtf8? (bytes cs)

/-- A text of a form, where a plus sign stands for a blank. -/
def decodeForm? (cs : List Char) : Option String :=
  decode? (cs.map (fun c => if c = '+' then ' ' else c))

end Percent
end Http
end FleetControl
