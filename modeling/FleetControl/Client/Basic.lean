import FleetControl.Json.Decode
import FleetControl.Json.Render
import FleetControl.Signature.Canonical
import FleetControl.Text.Blank
import FleetControl.Toml.Read
import FleetControl.Toml.Write

/-!
# The client

What the command line of an agent or operator needs: payloads from `key=value`
pairs, the judgement of an HTTP reply, signed requests, and the file that keeps the
credentials of an agent.
-/

namespace FleetControl
namespace Client

open Text

/-!
# Payloads
-/

/-- A trimmed key that is not empty, and a trimmed value. -/
def pair? (s : String) : Option (String × String) :=
  match cutAt '=' s.toList with
  | none => none
  | some (key, value) =>
      let key := trimChars key
      if key.isEmpty then none
      else some (String.ofList key, String.ofList (trimChars value))

def readPair (s : String) : Except String (String × String) :=
  match pair? s with
  | some entry => .ok entry
  | none => .error s

/-- The payload of pairs, or the first text that is no pair. -/
def payload (pairs : List String) : Except String (Table String) :=
  (pairs.mapM readPair).map Table.ofList

def pairMessage (s : String) : String :=
  "expected key=value, got `" ++ s ++ "`"

/-!
# Replies
-/

/-- The reason that the standards give for a status. -/
def reason? (status : Nat) : Option String :=
  [(100, "Continue"), (101, "Switching Protocols"), (102, "Processing"),
   (103, "Early Hints"), (200, "OK"), (201, "Created"), (202, "Accepted"),
   (203, "Non Authoritative Information"),
   (204, "No Content"), (205, "Reset Content"), (206, "Partial Content"),
   (207, "Multi-Status"), (208, "Already Reported"), (226, "IM Used"),
   (300, "Multiple Choices"), (301, "Moved Permanently"), (302, "Found"),
   (303, "See Other"), (304, "Not Modified"), (305, "Use Proxy"),
   (307, "Temporary Redirect"), (308, "Permanent Redirect"), (400, "Bad Request"),
   (401, "Unauthorized"), (402, "Payment Required"), (403, "Forbidden"),
   (404, "Not Found"), (405, "Method Not Allowed"), (406, "Not Acceptable"),
   (407, "Proxy Authentication Required"), (408, "Request Timeout"), (409, "Conflict"),
   (410, "Gone"), (411, "Length Required"), (412, "Precondition Failed"),
   (413, "Payload Too Large"), (414, "URI Too Long"), (415, "Unsupported Media Type"),
   (416, "Range Not Satisfiable"), (417, "Expectation Failed"), (418, "I'm a teapot"),
   (421, "Misdirected Request"), (422, "Unprocessable Entity"), (423, "Locked"),
   (424, "Failed Dependency"), (425, "Too Early"), (426, "Upgrade Required"),
   (428, "Precondition Required"), (429, "Too Many Requests"),
   (431, "Request Header Fields Too Large"), (451, "Unavailable For Legal Reasons"),
   (500, "Internal Server Error"), (501, "Not Implemented"), (502, "Bad Gateway"),
   (503, "Service Unavailable"), (504, "Gateway Timeout"),
   (505, "HTTP Version Not Supported"), (506, "Variant Also Negotiates"),
   (507, "Insufficient Storage"), (508, "Loop Detected"), (510, "Not Extended"),
   (511, "Network Authentication Required")].lookup status

def statusText (status : Nat) : String :=
  String.ofList (Numeral.ofNat status) ++ " " ++
    (reason? status).getD "<unknown status code>"

/-- The JSON value of a reply; a reply that is not JSON is a text. -/
def replyValue (text : String) : Value :=
  match Json.Decoder.run Json.Decoder.value text with
  | .ok value => value
  | .error _ => .text text

/-- What a reply says about its failure. -/
def replyMessage (value : Value) : String :=
  match value.document with
  | .object fields =>
      match fields.lookup "error" with
      | some (.text s) => s
      | _ => value.document.compact
  | document => document.compact

/-- The value of a successful reply, or the message of a failed one. -/
def judge (status : Nat) (text : String) : Except String Value :=
  let value := replyValue text
  if 200 ≤ status ∧ status < 300 then .ok value
  else .error (statusText status ++ ": " ++ replyMessage value)

/-!
# Credentials and requests
-/

structure Credentials where
  url : String
  agentId : String
  secret : String
  deriving DecidableEq

namespace Credentials

def write (c : Credentials) : String :=
  Toml.writeTexts [("url", c.url), ("agent_id", c.agentId), ("secret", c.secret)]

def text? (entries : List (String × Toml)) (key : String) : Option String :=
  match Toml.get? entries key with
  | some (.text s) => some s
  | _ => none

def read? (s : String) : Option Credentials := do
  let entries ← Toml.read? s
  let url ← text? entries "url"
  let agentId ← text? entries "agent_id"
  let secret ← text? entries "secret"
  return { url := url, agentId := agentId, secret := secret }

end Credentials

structure Request where
  method : String
  url : String
  headers : List (String × String)
  body : String

/-- A request over a body, signed with the credentials of an agent. -/
def signedRequest (base : String) (c : Credentials) (method path body : String)
    (timestamp : Int) (nonce : String) : Request :=
  let signed := Signature.Signed.sign c.agentId c.secret method path (utf8 body) timestamp nonce
  { method := method
    url := base ++ path
    headers := signed.headers ++
      (if body.isEmpty then [] else [("content-type", "application/json")])
    body := body }

end Client
end FleetControl
