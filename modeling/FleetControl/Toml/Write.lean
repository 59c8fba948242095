import FleetControl.Decimal.Shortest
import FleetControl.Text.Hex

/-!
# Writing TOML

Entries, one after the other, each with its key in front.  Every control character
of a text is escaped.
-/

namespace FleetControl
namespace Toml

open Text

def escapeChar (c : Char) : List Char :=
  match c with
  | '"' => ['\\', '"']
  | '\\' => ['\\', '\\']
  | '\n' => ['\\', 'n']
  | '\r' => ['\\', 'r']
  | '\t' => ['\\', 't']
  | _ =>
      if c.toNat < 0x20 || c.toNat = 0x7F then
        ['\\', 'u', '0', '0', Hex.digit (c.toNat / 16), Hex.digit (c.toNat % 16)]
      else [c]

def quote (s : String) : List Char :=
  '"' :: (s.toList.flatMap escapeChar ++ ['"'])

def boolChars (b : Bool) : List Char :=
  (if b then "true" else "false").toList

def floatChars (x : Float) : List Char :=
  if x.isNaN then "nan".toList
  else if x.isInf then (if x < 0 then "-inf" else "inf").toList
  else Decimal.ofFloat x

/-- The items of a list, each in a line of its own. -/
def listChars (items : List (List Char)) : List Char :=
  if items.isEmpty then ['[', ']']
  else
    '[' :: '\n' ::
      (items.flatMap (fun item => "    ".toList ++ item ++ [',', '\n']) ++ [']'])

def line (key : String) (value : List Char) : List Char :=
  key.toList ++ ' ' :: '=' :: ' ' :: (value ++ ['\n'])

def write (entries : List (String × List Char)) : String :=
  String.ofList (entries.flatMap (fun entry => line entry.1 entry.2))

def writeTexts (entries : List (String × String)) : String :=
  write (entries.map (fun entry => (entry.1, quote entry.2)))

end Toml
end FleetControl
