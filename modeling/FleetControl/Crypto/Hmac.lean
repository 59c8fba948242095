import FleetControl.Crypto.Sha256

/-!
# HMAC-SHA256

The keyed hash of RFC 2104.  A key longer than a block is hashed first.
-/

namespace FleetControl
namespace Crypto
namespace Hmac

def blockKey (key : List UInt8) : List UInt8 :=
  let short := if 64 < key.length then Sha256.digest key else key
  short ++ List.replicate (64 - short.length) 0

def digest (key message : List UInt8) : List UInt8 :=
  let k := blockKey key
  let inner := Sha256.digest (k.map (· ^^^ 0x36) ++ message)
  Sha256.digest (k.map (· ^^^ 0x5c) ++ inner)

theorem length_digest (key message : List UInt8) : (digest key message).length = 32 :=
  Sha256.length_digest _

def hexDigest (secret message : String) : String :=
  String.ofList (Text.Hex.encode (digest (Text.utf8 secret) (Text.utf8 message)))

end Hmac
end Crypto
end FleetControl
