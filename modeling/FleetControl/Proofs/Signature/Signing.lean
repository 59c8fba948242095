import FleetControl.Proofs.Signature.Replay
import FleetControl.Proofs.Text.Hex
import FleetControl.Proofs.Text.Numeral

/-!
# Signing

What an agent adds to a request is text.  The verifier cuts blanks from it and reads the time
stamp and the signature back, so what was signed with a secret is correct under that secret.
-/

namespace FleetControl
namespace Signature

open Text
open Time

theorem isBlank_of_mem_integerText (n : Int) : ∀ c ∈ integerText n, isBlank c = false := by
  have digits : ∀ c ∈ Numeral.ofNat n.natAbs, isBlank c = false :=
    fun c h => Numeral.isBlank_of_isDigit (Numeral.isDigit_of_mem_ofNat h)
  unfold integerText
  split
  · exact List.forall_mem_cons.mpr ⟨rfl, digits⟩
  · exact digits

theorem trimChars_integerText (n : Int) : trimChars (integerText n) = integerText n :=
  trimChars_of_plain (isBlank_of_mem_integerText n)

theorem integer?_integerText {lo hi n : Int} (low : lo ≤ n) (high : n ≤ hi) :
    Numeral.integer? lo hi (integerText n) = some n := by
  have bounds : (decide (lo ≤ n) && decide (n ≤ hi)) = true := by
    rw [decide_eq_true low, decide_eq_true high]
    rfl
  unfold Numeral.integer? integerText
  by_cases negative : n < 0
  · have size : -(n.natAbs : Int) = n := by omega
    simp only [if_pos negative, Numeral.digits?_ofNat]
    show Option.filter _ (some (-(n.natAbs : Int))) = some n
    rw [size, Option.filter_some, if_pos bounds]
  · have size : (n.natAbs : Int) = n := by omega
    rw [if_neg negative]
    dsimp only
    split
    · rename_i rest signed
      cases Numeral.isDigit_of_ofNat_eq_cons signed
    · rename_i rest signed
      cases Numeral.isDigit_of_ofNat_eq_cons signed
    · rw [Numeral.digits?_ofNat, Option.map_some, Int.ofNat_eq_natCast, size,
        Option.filter_some, if_pos bounds]

/-!
# Signed requests
-/

def nonceText (bytes : List UInt8) : String :=
  String.ofList (Hex.encode bytes)

theorem nonceText_inj {a b : List UInt8} : nonceText a = nonceText b ↔ a = b := by
  rw [nonceText, nonceText, String.ofList_inj, Hex.encode_inj]

def Signed.parts (s : Signed) : Parts :=
  { agentId := (s.headers.lookup agentIdHeader).getD ""
    timestamp := (s.headers.lookup timestampHeader).getD ""
    nonce := (s.headers.lookup nonceHeader).getD ""
    signature := (s.headers.lookup signatureHeader).getD "" }

theorem Signed.parts_eq (s : Signed) :
    s.parts =
      { agentId := s.agentId
        timestamp := String.ofList (integerText s.timestamp)
        nonce := s.nonce
        signature := s.signature } :=
  rfl

theorem checkNonce_nonceText {bytes : List UInt8} (size : bytes.length = nonceSize) :
    checkNonce (nonceText bytes) = .ok () := by
  have length : utf8Length (nonceText bytes) = 32 := by
    rw [nonceText, Hex.utf8Length_encode, size]
    rfl
  have some_ : (nonceText bytes).isEmpty = false := by
    rw [String.isEmpty_eq_false_iff]
    intro empty
    rw [empty] at length
    cases length
  have short : ¬ nonceLimit < utf8Length (nonceText bytes) := by
    rw [length]
    decide
  rw [checkNonce, if_neg (by simp [some_, short])]

theorem checkSignature_sign {agentId secret method path nonce : String} {body : List UInt8}
    {timestamp : Int} :
    checkSignature (Signed.sign agentId secret method path body timestamp nonce).parts secret
      method path body timestamp = .ok () := by
  unfold checkSignature
  simp only [Signed.parts_eq, Signed.sign, Crypto.Hmac.hexDigest, String.toList_ofList,
    Hex.trimChars_encode, Hex.decode?_encode, if_true]

theorem checkTime_iff_within {window timestamp : Int} {now : Instant}
    (fits : (window.natAbs : Int) ≤ Int64.maxValue.toInt) :
    checkTime window now timestamp = .ok () ↔
      (now.seconds - timestamp).natAbs ≤ window.natAbs := by
  have most : Int64.maxValue.toInt = 9223372036854775807 := rfl
  have least : Int64.minValue.toInt = -9223372036854775808 := rfl
  rw [most] at fits
  rw [checkTime_eq_ok_iff, least, most]
  omega

theorem Call.correct_of_sign {window : Int} {c : Call} {agentId : String} {timestamp : Int64}
    {nonce : List UInt8}
    (signed : c.parts = (Signed.sign agentId c.secret c.method c.path c.body timestamp.toInt
      (nonceText nonce)).parts)
    (time : checkTime window c.now timestamp.toInt = .ok ()) (size : nonce.length = nonceSize) :
    c.Correct window := by
  refine Call.correct_iff.mpr ⟨timestamp.toInt, ?_, time, ?_, ?_⟩
  · rw [timestamp?, signed]
    simp only [Signed.parts_eq, Signed.sign, String.toList_ofList, trimChars_integerText]
    exact integer?_integerText timestamp.minValue_le_toInt timestamp.toInt_le
  · rw [signed]
    exact checkNonce_nonceText size
  · rw [signed]
    exact checkSignature_sign

end Signature
end FleetControl
