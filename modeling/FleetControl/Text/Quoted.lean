import FleetControl.Text.Hidden
import FleetControl.Text.Ascii

/-!
# Quoted text

Text in double quotes for human readers.  Quotes, backslashes and control
characters are escaped, and so is every character that has no glyph of its own.
-/

namespace FleetControl
namespace Text
namespace Quoted

/-- The character by its number in hexadecimal digits. -/
def byNumber (c : Char) : List Char :=
  '\\' :: 'u' :: '\x7b' :: (Nat.toDigits 16 c.toNat ++ ['\x7d'])

def escape (c : Char) : List Char :=
  match c with
  | '\x00' => ['\\', '0']
  | '\t' => ['\\', 't']
  | '\n' => ['\\', 'n']
  | '\r' => ['\\', 'r']
  | '"' => ['\\', '"']
  | '\\' => ['\\', '\\']
  | _ =>
      if c.toNat < 0x20 || c.toNat = 0x7F || isHidden c then byNumber c else [c]

def quote (s : String) : List Char :=
  '"' :: (s.toList.flatMap escape ++ ['"'])

/-- A list of quoted texts in brackets. -/
def list (items : List String) : String :=
  "[" ++ joined ", " (items.map (fun s => String.ofList (quote s))) ++ "]"

end Quoted
end Text
end FleetControl
