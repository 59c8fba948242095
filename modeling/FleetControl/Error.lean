import FleetControl.Crypto.Seal
import FleetControl.Job.Status
import FleetControl.Job.Work
import FleetControl.Port.Rule
import FleetControl.Signature.Verify

/-!
# Errors

Every way in which an operation can be refused, one constructor for each cause.
A cause belongs to one of twelve kinds, and the kind decides the status of the
HTTP answer.
-/

namespace FleetControl

open Text

/-- What kinds of rows are looked up by name. -/
inductive RowKind where
  | job
  | domain
  | voiceServer
  | instance_
  | backup
  | user
  | deletionRequest
  | portPool
  | portRange
  | portBlock
  deriving DecidableEq, Repr

namespace RowKind

def noun : RowKind → String
  | .job => "job"
  | .domain => "domain"
  | .voiceServer => "ts server"
  | .instance_ => "instance"
  | .backup => "backup"
  | .user => "user"
  | .deletionRequest => "deletion request"
  | .portPool => "port pool"
  | .portRange => "port range"
  | .portBlock => "port block"

end RowKind

namespace Error

inductive Kind where
  | unauthenticated
  | signatureInvalid
  | notFound
  | conflict
  | badRequest
  | serviceUnavailable
  | invalidTransition
  | portsExhausted
  | invalidRange
  | portConflict
  | payload
  | internal
  deriving DecidableEq, Repr

end Error

inductive Error where
  | badBootstrapToken
  | missingAgentId
  | unknownAgent (id : String)
  | agentDisabled (id : String)
  | badAdminToken
  | badSignature (flaw : Signature.Flaw)
  | missing (kind : RowKind) (id : String)
  | noBasePort (instanceId role : String)
  | poolDisabled (id : String)
  | rangeDisabled (id : String)
  | blockReleased (id : String)
  | blockBound (id instanceId : String)
  | roleTaken (instanceId : String) (protocol : Port.Protocol) (role : String)
  | notLeasable (jobId : String)
  | leaseExpired (jobId : String)
  | notRunning (jobId : String) (status : Job.Status)
  | notLeasedTo (jobId agentId : String)
  | tokenMismatch (jobId : String)
  | alreadyRunning (jobId : String)
  | alreadyHasResult (jobId : String)
  | blockSizeZero
  | wrongRange (id nodeId : String) (protocol : Port.Protocol) (wantedNode : String)
      (wantedProtocol : Port.Protocol)
  | badJobType (type : String)
  | jobIdMismatch (inBody inPath : String)
  | unknownResultStatus (word : String)
  | unknownAgentStatus (word : String)
  | badRule (flaw : Port.RuleFlaw)
  | agentNameMissing
  | malformedBody
  | windowsDisabled
  | illegalTransition (before after : Job.Status)
  | portsExhausted (poolId : String) (size : Nat)
  | notARange (start stop : UInt16)
  | startAfterEnd (start stop : UInt16)
  | outsidePool (start stop : UInt16) (poolId : String) (poolStart poolEnd : UInt16)
  | derivedOutOfRange (port : Int)
  | portZero
  | portTaken (nodeId : String) (protocol : Port.Protocol) (port : UInt16)
  | badPayload (flaw : Job.Work.Flaw)
  | sealedSecret (flaw : Crypto.Seal.Flaw)
  deriving DecidableEq

namespace Error

def kind : Error → Kind
  | .badBootstrapToken => .unauthenticated
  | .missingAgentId => .unauthenticated
  | .unknownAgent _ => .unauthenticated
  | .agentDisabled _ => .unauthenticated
  | .badAdminToken => .unauthenticated
  | .badSignature _ => .signatureInvalid
  | .missing _ _ => .notFound
  | .noBasePort _ _ => .notFound
  | .poolDisabled _ => .conflict
  | .rangeDisabled _ => .conflict
  | .blockReleased _ => .conflict
  | .blockBound _ _ => .conflict
  | .roleTaken _ _ _ => .conflict
  | .notLeasable _ => .conflict
  | .leaseExpired _ => .conflict
  | .notRunning _ _ => .conflict
  | .notLeasedTo _ _ => .conflict
  | .tokenMismatch _ => .conflict
  | .alreadyRunning _ => .conflict
  | .alreadyHasResult _ => .conflict
  | .blockSizeZero => .badRequest
  | .wrongRange _ _ _ _ _ => .badRequest
  | .badJobType _ => .badRequest
  | .jobIdMismatch _ _ => .badRequest
  | .unknownResultStatus _ => .badRequest
  | .unknownAgentStatus _ => .badRequest
  | .badRule _ => .badRequest
  | .agentNameMissing => .badRequest
  | .malformedBody => .badRequest
  | .windowsDisabled => .serviceUnavailable
  | .illegalTransition _ _ => .invalidTransition
  | .portsExhausted _ _ => .portsExhausted
  | .notARange _ _ => .invalidRange
  | .startAfterEnd _ _ => .invalidRange
  | .outsidePool _ _ _ _ _ => .invalidRange
  | .derivedOutOfRange _ => .invalidRange
  | .portZero => .invalidRange
  | .portTaken _ _ _ => .portConflict
  | .badPayload _ => .payload
  | .sealedSecret _ => .internal

namespace Kind

/-- The status of the HTTP answer. -/
def httpStatus : Kind → Nat
  | .unauthenticated => 401
  | .signatureInvalid => 401
  | .notFound => 404
  | .conflict => 409
  | .invalidTransition => 409
  | .portsExhausted => 409
  | .portConflict => 409
  | .badRequest => 400
  | .invalidRange => 400
  | .payload => 400
  | .serviceUnavailable => 503
  | .internal => 500

/-- What stands before the cause in a message. -/
def lead : Kind → String
  | .unauthenticated => "unauthenticated: "
  | .signatureInvalid => "signature invalid: "
  | .notFound => "not found: "
  | .conflict => "conflict: "
  | .badRequest => "bad request: "
  | .serviceUnavailable => "service unavailable: "
  | .invalidRange => "invalid range: "
  | .internal => "internal error: "
  | _ => ""

end Kind

def natText (n : Nat) : String :=
  String.ofList (Numeral.ofNat n)

def portText (port : UInt16) : String :=
  natText port.toNat

def span (start stop : UInt16) : String :=
  portText start ++ "-" ++ portText stop

def cause : Error → String
  | .badBootstrapToken => "bad bootstrap token"
  | .missingAgentId => "missing agent id"
  | .unknownAgent id => "unknown agent " ++ id
  | .agentDisabled id => "agent " ++ id ++ " is disabled"
  | .badAdminToken => "admin token"
  | .badSignature flaw => flaw.message
  | .missing kind id => kind.noun ++ " " ++ id
  | .noBasePort instanceId role =>
      "instance " ++ instanceId ++ " has no " ++ role ++ " port to derive from"
  | .poolDisabled id => "port pool " ++ id ++ " is disabled"
  | .rangeDisabled id => "port range " ++ id ++ " is disabled"
  | .blockReleased id => "port block " ++ id ++ " is released"
  | .blockBound id instanceId => "port block " ++ id ++ " is bound to " ++ instanceId
  | .roleTaken instanceId protocol role =>
      "instance " ++ instanceId ++ " already has a " ++ protocol.name ++ " port for role " ++
        role
  | .notLeasable jobId => "job " ++ jobId ++ " is not available for leasing"
  | .leaseExpired jobId => "lease on job " ++ jobId ++ " has expired"
  | .notRunning jobId status => "job " ++ jobId ++ " is " ++ status.word ++ ", not running"
  | .notLeasedTo jobId agentId => "job " ++ jobId ++ " is not leased to agent " ++ agentId
  | .tokenMismatch jobId => "lease token for job " ++ jobId ++ " does not match"
  | .alreadyRunning jobId =>
      "job " ++ jobId ++ " is running and can only be reclaimed by lease expiry"
  | .alreadyHasResult jobId => "job " ++ jobId ++ " already has a result"
  | .blockSizeZero => "block size must be at least 1"
  | .wrongRange id nodeId protocol wantedNode wantedProtocol =>
      "range " ++ id ++ " serves " ++ nodeId ++ "/" ++ protocol.name ++ ", not " ++
        wantedNode ++ "/" ++ wantedProtocol.name
  | .badJobType type => "invalid job type `" ++ type ++ "`"
  | .jobIdMismatch inBody inPath =>
      "body job_id " ++ inBody ++ " does not match " ++ inPath
  | .unknownResultStatus word => "unknown result status `" ++ word ++ "`"
  | .unknownAgentStatus word => "unknown agent status `" ++ word ++ "`"
  | .badRule flaw => flaw.message
  | .agentNameMissing => "agent name is required"
  | .malformedBody => "malformed JSON body"
  | .windowsDisabled => "windows agents are disabled"
  | .illegalTransition before after =>
      "invalid transition from " ++ before.word ++ " to " ++ after.word
  | .portsExhausted poolId size =>
      "no free run of " ++ natText size ++ " ports in pool " ++ poolId
  | .notARange start stop => span start stop ++ " is not a valid port range"
  | .startAfterEnd start stop =>
      "start " ++ portText start ++ " is after end " ++ portText stop
  | .outsidePool start stop poolId poolStart poolEnd =>
      span start stop ++ " is outside pool " ++ poolId ++ " (" ++ span poolStart poolEnd ++ ")"
  | .derivedOutOfRange port =>
      "derived port " ++ String.ofList (Signature.integerText port) ++ " is out of range"
  | .portZero => "port 0 is not allocatable"
  | .portTaken nodeId protocol port =>
      "port " ++ protocol.name ++ "/" ++ portText port ++ " already allocated on node " ++ nodeId
  | .badPayload flaw => flaw.message
  | .sealedSecret flaw => flaw.message

def message (e : Error) : String :=
  e.kind.lead ++ e.cause

/-- The message that an HTTP answer shows.  Nothing is told about secrets. -/
def publicMessage (e : Error) : String :=
  match e.kind with
  | .unauthenticated => "unauthenticated"
  | .signatureInvalid => "signature invalid"
  | .internal => "internal server error"
  | _ => e.message

end Error
end FleetControl
