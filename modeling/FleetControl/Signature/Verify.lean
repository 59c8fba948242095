import FleetControl.Signature.Canonical
import FleetControl.Signature.Guard
import FleetControl.Text.Blank

/-!
# Verifying a signed request

The time stamp must lie within a window around the present, the nonce must be
fresh, and the signature must be the keyed hash of the canonical request.  Only a
request that passes everything else uses up its nonce.
-/

namespace FleetControl
namespace Signature

open Text
open Time

inductive Flaw where
  | noTimestamp
  | skewed (seconds : Nat)
  | timestampOutOfRange
  | badNonce
  | notHex
  | mismatch
  | nonceUsed
  deriving DecidableEq, Repr

namespace Flaw

def message : Flaw → String
  | .noTimestamp => "timestamp is not unix seconds"
  | .skewed seconds =>
      "timestamp skew of " ++ String.ofList (Numeral.ofNat seconds) ++ "s"
  | .timestampOutOfRange => "timestamp out of range"
  | .badNonce => "bad nonce"
  | .notHex => "signature is not hex"
  | .mismatch => "signature mismatch"
  | .nonceUsed => "nonce already used"

end Flaw

/-- The header values of one request, as sent. -/
structure Parts where
  agentId : String
  timestamp : String
  nonce : String
  signature : String

def nonceLimit : Nat := 128

/-- The difference of two signed 64-bit numbers, if it is one. -/
def difference? (a b : Int) : Option Int :=
  let gap := a - b
  if Int64.minValue.toInt ≤ gap ∧ gap ≤ Int64.maxValue.toInt then some gap else none

def checkTime (windowSeconds : Int) (now : Instant) (timestamp : Int) : Except Flaw Unit :=
  match difference? now.seconds timestamp with
  | none => .error .timestampOutOfRange
  | some d =>
      if d.natAbs ≤ windowSeconds.natAbs then .ok () else .error (.skewed d.natAbs)

def checkNonce (nonce : String) : Except Flaw Unit :=
  if nonce.isEmpty ∨ nonceLimit < utf8Length nonce then .error .badNonce else .ok ()

def checkSignature (parts : Parts) (secret method path : String) (body : List UInt8)
    (timestamp : Int) : Except Flaw Unit :=
  match Hex.decode? (trimChars parts.signature.toList) with
  | none => .error .notHex
  | some presented =>
      let request := canonical method path timestamp parts.nonce body
      if presented = Crypto.Hmac.digest (utf8 secret) (utf8 request) then .ok ()
      else .error .mismatch

/-- Everything but the freshness of the nonce. -/
def checkRequest (windowSeconds : Int) (parts : Parts) (secret method path : String)
    (body : List UInt8) (now : Instant) : Except Flaw Unit :=
  match Numeral.int64? (trimChars parts.timestamp.toList) with
  | none => .error .noTimestamp
  | some timestamp => do
      checkTime windowSeconds now timestamp
      checkNonce parts.nonce
      checkSignature parts secret method path body timestamp

/-- The verdict on a request, and the guard afterwards. -/
def verify (windowSeconds : Int) (guard : Guard) (parts : Parts)
    (secret method path : String) (body : List UInt8) (now : Instant) :
    Except Flaw Unit × Guard :=
  match checkRequest windowSeconds parts secret method path body now with
  | .error flaw => (.error flaw, guard)
  | .ok () =>
      match guard.check parts.agentId parts.nonce now (2000 * windowSeconds) with
      | (true, after) => (.ok (), after)
      | (false, after) => (.error .nonceUsed, after)

end Signature
end FleetControl
