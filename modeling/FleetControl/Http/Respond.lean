import FleetControl.Http.Endpoint
import FleetControl.Http.Message
import FleetControl.Wire.Answer

/-!
# Answering requests

A request is turned away by the first of these that does not hold: the path is known,
an operator's path comes with the admin token, the method is the endpoint's, the
parameter and the query can be read, the signature of an agent is good, and the body
can be read.  What is left is an operation of the plane.
-/

namespace FleetControl
namespace Http

open Time

/-- What a request comes to. -/
structure Exchange where
  response : Response
  notices : Notices
  plane : Plane

/-- The actor of all that operators ask for. -/
def operator : String := "admin"

/-!
# Admission
-/

def bearerLead : List Char := "Bearer ".toList

/-- The token of an operator, without blanks around it. -/
def bearerToken (req : Request) : String :=
  let value := (req.header? "authorization").getD ""
  String.ofList (Text.trimChars ((Text.stripLead bearerLead value.toList).getD []))

/-- Without an admin token in the configuration nobody is an operator. -/
def isOperator (p : Plane) (req : Request) : Bool :=
  !p.config.adminToken.isEmpty && bearerToken req = p.config.adminToken

def signatureParts (req : Request) : Signature.Parts :=
  { agentId := req.header Signature.agentIdHeader
    timestamp := req.header Signature.timestampHeader
    nonce := req.header Signature.nonceHeader
    signature := req.header Signature.signatureHeader }

/-!
# From requests to operations
-/

structure BindOrder where
  instanceId : String

def bindOrder : Json.Decoder BindOrder :=
  Json.Record.decode (BindOrder.mk <$> .required "instance_id" Json.Decoder.text)

/-- What a request asks for that needs no signature. -/
def operation (e : Endpoint) (parameter : String) (req : Request) :
    Except Rejection Operation :=
  match e with
  | .register => (req.json Wire.registration).map .register
  | .createJob => (req.json Wire.order).map (fun order => .createJob order operator)
  | .expireStale => .ok .expireStale
  | .jobDetail => .ok (.jobDetail parameter)
  | .cancelJob => .ok (.cancelJob parameter operator)
  | .addPool => (req.json Wire.pool).map .addPool
  | .addRange => (req.json Wire.range).map .addRange
  | .allocateBlocks =>
      (req.json Wire.blockRequest).map (fun order => .allocateBlocks parameter order operator)
  | .bindBlock =>
      (req.json bindOrder).map (fun order => .bindBlock parameter order.instanceId)
  | .releaseBlock => .ok (.releaseBlock parameter operator)
  | .allocatePort => (req.json Wire.request).map (fun order => .allocatePort order operator)
  | .releaseInstancePorts => .ok (.releaseInstancePorts parameter operator)
  | .reconcileFirewall => .ok (.reconcileFirewall parameter)
  | _ => .error .badParameter

/-- What an agent asks for with a request that it signed. -/
def signedOperation (e : Endpoint) (agentId parameter : String) (limit : Option Nat)
    (req : Request) : Except Error Operation :=
  match e with
  | .heartbeat =>
      (req.rawJson Wire.heartbeat).map (fun beat => .heartbeat agentId beat req.clientAddress)
  | .submitResult =>
      (req.rawJson Wire.resultReport).map (fun report => .submitResult agentId parameter report)
  | .submitLogs =>
      (req.rawJson Wire.logReport).map (fun report => .submitLogs agentId parameter report)
  | _ => .ok (.poll agentId limit)

/-!
# From operations to responses
-/

def turnAway (p : Plane) (response : Response) : Exchange :=
  { response := response, notices := .none, plane := p }

def perform (p : Plane) (fresh : Fresh) (now : Instant) (e : Endpoint)
    (operation : Operation) : Exchange :=
  let outcome := p.run fresh now operation
  { response :=
      match outcome.answer with
      | .ok answer => .json e.successStatus (Wire.ofAnswer answer)
      | .error error => .ofError error
    notices := outcome.notices
    plane := outcome.plane }

def respondUnsigned (p : Plane) (fresh : Fresh) (now : Instant) (e : Endpoint)
    (parameter : String) (req : Request) : Exchange :=
  match operation e parameter req with
  | .ok operation => perform p fresh now e operation
  | .error rejection => turnAway p (.bare rejection.status)

/-- The query counts only when an agent polls. -/
def limitFor (e : Endpoint) (req : Request) : Except Rejection (Option Nat) :=
  if e = .poll then req.limit else .ok none

def respondSigned (p : Plane) (fresh : Fresh) (now : Instant) (e : Endpoint)
    (parameter : String) (req : Request) : Exchange :=
  match limitFor e req with
  | .error rejection => turnAway p (.bare rejection.status)
  | .ok limit =>
      let signer := p.authenticate (signatureParts req) req.method req.pathAndQuery req.body now
      match signer.answer with
      | .error error => turnAway signer.plane (.ofError error)
      | .ok agentId =>
          match signedOperation e agentId parameter limit req with
          | .ok operation => perform signer.plane fresh now e operation
          | .error error => turnAway signer.plane (.ofError error)

def respondAt (p : Plane) (fresh : Fresh) (now : Instant) (route : Route) (req : Request) :
    Exchange :=
  let e := route.endpoint
  if e.access = .admin ∧ !isOperator p req then turnAway p (.ofError .badAdminToken)
  else if !e.serves req.method then turnAway p (.bare 405)
  else
    match Percent.decode? route.parameter.toList with
    | none => turnAway p (.bare Rejection.badParameter.status)
    | some parameter =>
        if e.access = .agent then respondSigned p fresh now e parameter req
        else respondUnsigned p fresh now e parameter req

/-- Answer a request.  `OPTIONS` is allowed everywhere and does nothing, and an answer
to `HEAD` has no body. -/
def respond (p : Plane) (fresh : Fresh) (now : Instant) (req : Request) : Exchange :=
  if req.method = "OPTIONS" then turnAway p (.bare 200)
  else
    match Route.ofSegments? req.segments with
    | none => turnAway p (.bare 404)
    | some route =>
        let exchange := respondAt p fresh now route req
        if req.method = "HEAD" then
          { exchange with response := exchange.response.withoutBody }
        else exchange

end Http
end FleetControl
