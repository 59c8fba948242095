import FleetControl.Crypto.Gcm
import FleetControl.Crypto.Sha256
import FleetControl.Text.Base64
import FleetControl.Text.Bytes

/-!
# Sealed secrets

A secret at rest is sealed under the hash of a master key.  Its written form is
Base64 of a nonce of twelve bytes followed by what AES-256-GCM makes of the text.
-/

namespace FleetControl
namespace Crypto
namespace Seal

open Text

/-- Why a sealed secret does not open. -/
inductive Flaw where
  | notBase64
  | truncated
  | wrongKey
  | notUtf8
  deriving DecidableEq, Repr

namespace Flaw

def message : Flaw → String
  | .notBase64 => "stored secret is not base64"
  | .truncated => "stored secret is truncated"
  | .wrongKey => "stored secret does not decrypt with this master key"
  | .notUtf8 => "stored secret is not utf-8"

end Flaw

def nonceSize : Nat := 12

def key (masterKey : String) : List UInt8 :=
  Sha256.digest (utf8 masterKey)

/-- Seal a text with a nonce of twelve bytes. -/
def close (masterKey : String) (nonce : List UInt8) (plain : String) : String :=
  String.ofList (Base64.encode (nonce ++ Gcm.encrypt (key masterKey) nonce (utf8 plain)))

def openSealed (masterKey sealedText : String) : Except Flaw String :=
  match Base64.decode? sealedText.toList with
  | none => .error .notBase64
  | some bytes =>
      if bytes.length ≤ nonceSize then .error .truncated
      else
        match Gcm.decrypt? (key masterKey) (bytes.take nonceSize) (bytes.drop nonceSize) with
        | none => .error .wrongKey
        | some plain =>
            match ofUtf8? plain with
            | some s => .ok s
            | none => .error .notUtf8

end Seal
end Crypto
end FleetControl
