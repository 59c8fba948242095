import FleetControl.Crypto.Seal
import FleetControl.Proofs.Text.Bytes

/-!
# Sealed secrets open

What was sealed under a master key opens under it to the same text.
-/

namespace FleetControl
namespace Crypto
namespace Seal

open Text

theorem openSealed_close (masterKey : String) {nonce : List UInt8}
    (size : nonce.length = nonceSize) (plain : String) :
    openSealed masterKey (close masterKey nonce plain) = .ok plain := by
  have long : ¬ (nonce ++ Gcm.encrypt (key masterKey) nonce (utf8 plain)).length ≤ nonceSize := by
    simp only [Gcm.encrypt, List.length_append, Gcm.length_tag, size]
    omega
  have opened : Gcm.decrypt? (key masterKey) nonce
      (Gcm.encrypt (key masterKey) nonce (utf8 plain)) = some (utf8 plain) :=
    Gcm.decrypt?_encrypt _ _ _
  unfold openSealed close
  rw [String.toList_ofList, Base64.decode?_encode]
  dsimp only
  rw [if_neg long, ← size, List.take_left, List.drop_left, opened]
  dsimp only
  rw [ofUtf8?_utf8]

end Seal
end Crypto
end FleetControl
