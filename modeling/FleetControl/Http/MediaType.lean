import FleetControl.Text.Ascii

/-!
# Media types

Whether the value of a content type header says that the body is JSON.  A media type
is two tokens with a slash between them, and parameters after semicolons; a value of
another form says nothing.
-/

namespace FleetControl
namespace Http
namespace MediaType

def tokenMarks : List Char :=
  "!#$%&'*+-.^_~|".toList ++ [Char.ofNat 96]

def isTokenChar (c : Char) : Bool :=
  c.isAlphanum || tokenMarks.contains c

def isTextChar (c : Char) : Bool :=
  32 ≤ c.toNat && c.toNat != 127

/-!
# Parameters

A parameter is a name, an equals sign and a value.  A quoted value is not empty; a
bare value may be empty only at the end.
-/

/-- A quoted value from behind its first character on; the result is what follows the
closing quote. -/
def closeQuote : List Char → Option (List Char)
  | [] => none
  | '"' :: rest => some rest
  | c :: rest => if isTextChar c then closeQuote rest else none

/-- What follows the next semicolon, if only blanks stand before it. -/
def nextParameter : List Char → Option (List Char)
  | [] => some []
  | ';' :: rest => some rest
  | ' ' :: rest => nextParameter rest
  | _ => none

def skipQuoted : List Char → Option (List Char)
  | [] => none
  | c :: rest => if isTextChar c then (closeQuote rest).bind nextParameter else none

def skipBare (value : List Char) : Option (List Char) :=
  match value.dropWhile isTokenChar with
  | [] => some []
  | ';' :: rest => if value.takeWhile isTokenChar = [] then none else some rest
  | _ => none

def skipValue : List Char → Option (List Char)
  | '"' :: rest => skipQuoted rest
  | value => skipBare value

/-- One parameter; the result is what follows its semicolon. -/
def skipParameter (cs : List Char) : Option (List Char) :=
  match cs.takeWhile isTokenChar, cs.dropWhile isTokenChar with
  | _ :: _, '=' :: value => skipValue value
  | _, _ => none

def parametersAreSound : Nat → List Char → Bool
  | 0, cs => cs.isEmpty
  | _ + 1, [] => true
  | fuel + 1, ' ' :: rest => parametersAreSound fuel rest
  | fuel + 1, cs =>
      match skipParameter cs with
      | some rest => parametersAreSound fuel rest
      | none => false

/-!
# The type itself
-/

def json : List Char := "json".toList

/-- The subtype is `json`, or ends in a plus sign and `json`, or starts with `json`
and a last plus sign. -/
def subtypeIsJson (subtype : List Char) : Bool :=
  match subtype.reverse.span (· != '+') with
  | (suffix, _ :: before) =>
      if before.isEmpty then subtype == json
      else before.reverse == json || suffix.reverse == json
  | (_, []) => subtype == json

def tailIsSound : List Char → Bool
  | [] => true
  | ';' :: parameters => parametersAreSound (parameters.length + 1) parameters
  | _ => false

def isJson (value : String) : Bool :=
  let cs := value.toList.map Char.toLower
  match cs.dropWhile isTokenChar with
  | '/' :: rest =>
      cs.takeWhile isTokenChar == "application".toList &&
        subtypeIsJson (rest.takeWhile isTokenChar) &&
        tailIsSound (rest.dropWhile isTokenChar)
  | _ => false

end MediaType
end Http
end FleetControl
