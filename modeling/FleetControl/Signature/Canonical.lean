import FleetControl.Crypto.Hmac
import FleetControl.Text.Ascii
import FleetControl.Text.Numeral

/-!
# Signed requests

A request is signed over five lines: the method in capitals, the path with its
query, the time stamp, the nonce, and the hash of the body.  The body may be any
bytes, but only its hash is part of the lines.
-/

namespace FleetControl
namespace Signature

open Text

/-- Decimal text of a whole number of any sign. -/
def integerText (n : Int) : List Char :=
  if n < 0 then '-' :: Numeral.ofNat n.natAbs else Numeral.ofNat n.natAbs

def canonicalChars (method path : String) (timestamp : Int) (nonce : String)
    (body : List UInt8) : List Char :=
  (upper method).toList ++ '\n' :: (path.toList ++ '\n' ::
    (integerText timestamp ++ '\n' :: (nonce.toList ++ '\n' ::
      Hex.encode (Crypto.Sha256.digest body))))

def canonical (method path : String) (timestamp : Int) (nonce : String)
    (body : List UInt8) : String :=
  String.ofList (canonicalChars method path timestamp nonce body)

def agentIdHeader : String := "x-agent-id"

def timestampHeader : String := "x-agent-timestamp"

def nonceHeader : String := "x-agent-nonce"

def signatureHeader : String := "x-agent-signature"

/-- The size of a nonce in bytes; it is sent in hexadecimal digits. -/
def nonceSize : Nat := 16

/-- What an agent adds to every request it signs. -/
structure Signed where
  agentId : String
  timestamp : Int
  nonce : String
  signature : String

namespace Signed

def sign (agentId secret method path : String) (body : List UInt8) (timestamp : Int)
    (nonce : String) : Signed :=
  { agentId := agentId
    timestamp := timestamp
    nonce := nonce
    signature := Crypto.Hmac.hexDigest secret (canonical method path timestamp nonce body) }

def headers (s : Signed) : List (String × String) :=
  [(agentIdHeader, s.agentId),
   (timestampHeader, String.ofList (integerText s.timestamp)),
   (nonceHeader, s.nonce),
   (signatureHeader, s.signature)]

end Signed
end Signature
end FleetControl
