import FleetControl.Text.Hex
import FleetControl.Text.Reader

/-!
# Text in TOML

Texts stand in double quotes with escapes, or in single quotes as they are; three
quotes open a text that may run over several lines.  A key is a word of letters,
digits, underscores and dashes, or a text in one line.
-/

namespace FleetControl
namespace Toml

open Text

def isGap (c : Char) : Bool :=
  c = ' ' || c = '\t'

def skipGap (cs : List Char) : List Char :=
  cs.dropWhile isGap

/-- A character that may stand in a text or comment as it is. -/
def isPlain (c : Char) : Bool :=
  c = '\t' || (0x20 ≤ c.toNat && c.toNat ≠ 0x7F)

/-- What follows a line end, if the text starts with one. -/
def lineEnd? : List Char → Option (List Char)
  | '\n' :: rest => some rest
  | '\r' :: '\n' :: rest => some rest
  | _ => none

def afterLineEnd (cs : List Char) : List Char :=
  (lineEnd? cs).getD cs

/-!
# Escapes
-/

def hexValue? (cs : List Char) : Option Nat :=
  cs.foldl (fun acc c => do
    let n ← acc
    let d ← Hex.value? c
    return 16 * n + d) (some 0)

/-- The character with a number, unless it is half of a surrogate pair. -/
def scalar? (n : Nat) : Option Char :=
  if n < 0xD800 ∨ (0xDFFF < n ∧ n < 0x110000) then some (Char.ofNat n) else none

def unicode? (size : Nat) : Reader Char :=
  fun cs => do
    let digits := cs.take size
    if digits.length < size then none
    else
      let n ← hexValue? digits
      let c ← scalar? n
      return (c, cs.drop size)

/-- What stands behind a backslash. -/
def escape? : Reader Char
  | 'b' :: rest => some ('\x08', rest)
  | 't' :: rest => some ('\t', rest)
  | 'n' :: rest => some ('\n', rest)
  | 'f' :: rest => some ('\x0c', rest)
  | 'r' :: rest => some ('\r', rest)
  | '"' :: rest => some ('"', rest)
  | '\\' :: rest => some ('\\', rest)
  | 'u' :: rest => unicode? 4 rest
  | 'U' :: rest => unicode? 8 rest
  | _ => none

/-!
# Texts in one line
-/

def basic (fuel : Nat) (done : List Char) (cs : List Char) : Option (String × List Char) :=
  match fuel with
  | 0 => none
  | fuel + 1 =>
      match cs with
      | '"' :: rest => some (String.ofList done.reverse, rest)
      | '\\' :: rest => do
          let (c, rest) ← escape? rest
          basic fuel (c :: done) rest
      | c :: rest => if isPlain c then basic fuel (c :: done) rest else none
      | [] => none

def literal (done : List Char) : List Char → Option (String × List Char)
  | '\'' :: rest => some (String.ofList done.reverse, rest)
  | c :: rest => if isPlain c then literal (c :: done) rest else none
  | [] => none

/-!
# Texts over several lines
-/

/-- The quotes at the front, and what follows them. -/
def quotes (q : Char) (cs : List Char) : Nat × List Char :=
  ((cs.takeWhile (· = q)).length, cs.dropWhile (· = q))

/-- Blanks and line ends behind a backslash at the end of a line. -/
def skipLines (cs : List Char) : List Char :=
  cs.dropWhile (fun c => isGap c || c = '\n' || c = '\r')

/-- The backslash before these characters ends its line. -/
def endsLine (cs : List Char) : Bool :=
  (lineEnd? (skipGap cs)).isSome

/-- Take a run of quotes: fewer than three belong to the text; from three on the
last three close it, and at most two before them belong to it. -/
def closing? (q : Char) (done : List Char) (count : Nat) : Option (List Char × Bool) :=
  if count < 3 then some (List.replicate count q ++ done, false)
  else if count ≤ 5 then some (List.replicate (count - 3) q ++ done, true)
  else none

def multiline (escapes : Bool) (q : Char) (fuel : Nat) (done : List Char) (cs : List Char) :
    Option (String × List Char) :=
  match fuel with
  | 0 => none
  | fuel + 1 =>
      match cs with
      | [] => none
      | c :: rest =>
          if c = q then do
            let (count, rest) := quotes q cs
            let (done, closed) ← closing? q done count
            if closed then return (String.ofList done.reverse, rest)
            else multiline escapes q fuel done rest
          else
            match lineEnd? cs with
            | some rest => multiline escapes q fuel ('\n' :: done) rest
            | none =>
                if escapes && c = '\\' then
                  if endsLine rest then multiline escapes q fuel done (skipLines rest)
                  else do
                    let (c, rest) ← escape? rest
                    multiline escapes q fuel (c :: done) rest
                else if isPlain c then multiline escapes q fuel (c :: done) rest
                else none

def text? : Reader String
  | '"' :: '"' :: '"' :: rest =>
      multiline true '"' (rest.length + 1) [] (afterLineEnd rest)
  | '"' :: rest => basic (rest.length + 1) [] rest
  | '\'' :: '\'' :: '\'' :: rest =>
      multiline false '\'' (rest.length + 1) [] (afterLineEnd rest)
  | '\'' :: rest => literal [] rest
  | _ => none

/-!
# Keys
-/

def isBare (c : Char) : Bool :=
  c.isAlphanum || c = '_' || c = '-'

def simpleKey? : Reader String
  | '"' :: rest => basic (rest.length + 1) [] rest
  | '\'' :: rest => literal [] rest
  | cs =>
      match cs.takeWhile isBare with
      | [] => none
      | word => some (String.ofList word, cs.dropWhile isBare)

/-- A key, or several with points between them. -/
def key? (fuel : Nat) (cs : List Char) : Option (List String × List Char) :=
  match fuel with
  | 0 => none
  | fuel + 1 => do
      let (first, rest) ← simpleKey? (skipGap cs)
      match skipGap rest with
      | '.' :: more =>
          let (others, rest) ← key? fuel more
          return (first :: others, rest)
      | rest => return ([first], rest)

end Toml
end FleetControl
