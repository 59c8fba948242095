import FleetControl.Error
import FleetControl.Http.Address
import FleetControl.Http.MediaType
import FleetControl.Http.Percent
import FleetControl.Json.Decode

/-!
# Messages

A request is taken as it comes in: the names of the headers are in lower case, the
target is the path with the query, and the body is a list of bytes.
-/

namespace FleetControl
namespace Http

open Text

structure Request where
  method : String
  target : String
  headers : List (String × String)
  body : List UInt8
  /-- The address at the other end of the connection, if it is known. -/
  peer : Option Address

structure Response where
  status : Nat
  /-- The document of the body, if the body is JSON. -/
  body : Option Json

namespace Response

def bare (status : Nat) : Response :=
  { status := status, body := none }

def json (status : Nat) (document : Json) : Response :=
  { status := status, body := some document }

def ofError (e : Error) : Response :=
  json e.kind.httpStatus (.object [("error", .text e.publicMessage)])

def withoutBody (r : Response) : Response :=
  { r with body := none }

end Response

/-- Why a request is turned away before it is understood. -/
inductive Rejection where
  | badParameter
  | badQuery
  | notJson
  | wrongMediaType
  | wrongShape
  deriving DecidableEq, Repr

namespace Rejection

def status : Rejection → Nat
  | .badParameter => 400
  | .badQuery => 400
  | .notJson => 400
  | .wrongMediaType => 415
  | .wrongShape => 422

def ofFlaw : Json.Flaw → Rejection
  | .notJson => .notJson
  | .wrongShape => .wrongShape

end Rejection

namespace Request

/-!
# Headers
-/

def isPlainChar (c : Char) : Bool :=
  c = '\t' || (32 ≤ c.toNat && c.toNat < 127)

/-- The value of a header; a value with other characters than those of plain text
counts as missing. -/
def header? (req : Request) (name : String) : Option String :=
  (req.headers.lookup name).filter (fun value => value.toList.all isPlainChar)

/-- The trimmed value of a header, empty if it is missing. -/
def header (req : Request) (name : String) : String :=
  trim ((req.header? name).getD "")

/-- The address of the client: the first one that was forwarded, or the peer. -/
def clientAddress (req : Request) : Option String :=
  let forwarded := (pieces ',' (req.header "x-forwarded-for").toList).headD []
  match trimChars forwarded with
  | [] => req.peer.map Address.text
  | first => some (String.ofList first)

/-!
# Path and query
-/

/-- The path with the query, without a fragment. -/
def pathAndQuery (req : Request) : String :=
  String.ofList (req.target.toList.takeWhile (· != '#'))

def path (req : Request) : List Char :=
  req.pathAndQuery.toList.takeWhile (· != '?')

def query (req : Request) : List Char :=
  (req.pathAndQuery.toList.dropWhile (· != '?')).drop 1

/-- What stands between the slashes of the path; none if it does not start with one. -/
def segments (req : Request) : List String :=
  match req.path with
  | '/' :: rest => (pieces '/' rest).map String.ofList
  | _ => []

/-- The values that the query gives to a key. -/
def queryValues (req : Request) (key : String) : List (Option String) :=
  (pieces '&' req.query).filterMap (fun piece =>
    let (name, value) := (cutAt '=' piece).getD (piece, [])
    if Percent.decodeForm? name = some key then some (Percent.decodeForm? value) else none)

/-- The number that the query gives to `limit`, at most once. -/
def limit (req : Request) : Except Rejection (Option Nat) :=
  match req.queryValues "limit" with
  | [] => .ok none
  | [some value] =>
      match Numeral.natural? UInt64.size value.toList with
      | some n => .ok (some n)
      | none => .error .badQuery
  | _ => .error .badQuery

/-!
# Body
-/

/-- Decode a body that must be declared as JSON.  What follows the document is
ignored. -/
def json {α : Type} (req : Request) (decoder : Json.Decoder α) : Except Rejection α :=
  if (req.header? "content-type").any MediaType.isJson then
    match ofUtf8? req.body with
    | none => .error .notJson
    | some s =>
        match decoder.runLead s with
        | .ok a => .ok a
        | .error flaw => .error (.ofFlaw flaw)
  else .error .wrongMediaType

/-- Decode a body whatever it is declared as. -/
def rawJson {α : Type} (req : Request) (decoder : Json.Decoder α) : Except Error α :=
  match (ofUtf8? req.body).map decoder.run with
  | some (.ok a) => .ok a
  | _ => .error .malformedBody

end Request
end Http
end FleetControl
