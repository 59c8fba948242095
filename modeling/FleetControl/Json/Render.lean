import FleetControl.Json.Basic
import FleetControl.Decimal.Shortest
import FleetControl.Text.Hex

/-!
# JSON text

Documents are written either compactly, without any blank, or over several lines
with an indentation of two blanks.  A quote, a backslash and the control
characters below the blank are escaped; all other characters stand for themselves.
A number that is not finite has no numeral and is written as `null`.
-/

namespace FleetControl
namespace Json

def escape (c : Char) : List Char :=
  match c with
  | '"' => ['\\', '"']
  | '\\' => ['\\', '\\']
  | '\n' => ['\\', 'n']
  | '\r' => ['\\', 'r']
  | '\t' => ['\\', 't']
  | '\x08' => ['\\', 'b']
  | '\x0c' => ['\\', 'f']
  | _ =>
      if c.toNat < 0x20 then
        ['\\', 'u', '0', '0', Text.Hex.digit (c.toNat / 16), Text.Hex.digit (c.toNat % 16)]
      else [c]

def quote (s : String) : List Char :=
  '"' :: (s.toList.flatMap escape ++ ['"'])

def isFinite (x : Float) : Bool :=
  (x.toBits.toNat >>> 52) % 0x800 != 0x7ff

def numeral : Number → List Char
  | .whole value _ =>
      if value < 0 then '-' :: Nat.toDigits 10 value.natAbs else Nat.toDigits 10 value.natAbs
  | .real value => if isFinite value then Decimal.ofFloat value else "null".toList

def scalar : Json → List Char
  | .bool true => "true".toList
  | .bool false => "false".toList
  | .number n => numeral n
  | .text s => quote s
  | _ => "null".toList

/-!
# Compact text
-/

mutual

def compactChars : Json → List Char
  | .array items => '[' :: (compactItems items ++ [']'])
  | .object fields => '\x7b' :: (compactFields fields ++ ['\x7d'])
  | other => scalar other

def compactItems : List Json → List Char
  | [] => []
  | [item] => item.compactChars
  | item :: rest => item.compactChars ++ ',' :: compactItems rest

def compactFields : List (String × Json) → List Char
  | [] => []
  | [(key, item)] => quote key ++ ':' :: item.compactChars
  | (key, item) :: rest =>
      quote key ++ ':' :: (item.compactChars ++ ',' :: compactFields rest)

end

def compact (document : Json) : String :=
  String.ofList document.compactChars

/-!
# Indented text
-/

def newLine (depth : Nat) : List Char :=
  '\n' :: List.replicate (2 * depth) ' '

mutual

def prettyChars (depth : Nat) : Json → List Char
  | .array [] => ['[', ']']
  | .array items =>
      '[' :: (prettyItems (depth + 1) items ++ newLine depth ++ [']'])
  | .object [] => ['\x7b', '\x7d']
  | .object fields =>
      '\x7b' :: (prettyFields (depth + 1) fields ++ newLine depth ++ ['\x7d'])
  | other => scalar other

def prettyItems (depth : Nat) : List Json → List Char
  | [] => []
  | [item] => newLine depth ++ item.prettyChars depth
  | item :: rest =>
      newLine depth ++ item.prettyChars depth ++ ',' :: prettyItems depth rest

def prettyFields (depth : Nat) : List (String × Json) → List Char
  | [] => []
  | [(key, item)] =>
      newLine depth ++ quote key ++ ':' :: ' ' :: item.prettyChars depth
  | (key, item) :: rest =>
      newLine depth ++ quote key ++
        ':' :: ' ' :: (item.prettyChars depth ++ ',' :: prettyFields depth rest)

end

def pretty (document : Json) : String :=
  String.ofList (document.prettyChars 0)

end Json
end FleetControl
