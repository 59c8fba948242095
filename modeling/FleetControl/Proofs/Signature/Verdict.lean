import Mathlib.Algebra.Order.Group.Unbundled.Int
import FleetControl.Proofs.Signature.Signing

/-!
# Which requests are accepted

A verifier accepts a request exactly when all of its parts are valid and its nonce is not in
use.  A request that is refused leaves no trace: no nonce is remembered for it, and every
later request is judged as if it had never been made.
-/

namespace FleetControl
namespace Signature

open Text
open Time

/-!
# Single checks
-/

theorem checkTime_iff_abs_le {window timestamp : Int} {now : Instant} (positive : 0 < window)
    (fits : window ≤ Int64.maxValue.toInt) :
    checkTime window now timestamp = .ok () ↔ |now.seconds - timestamp| ≤ window := by
  have same : (window.natAbs : Int) = window := Int.natAbs_of_nonneg (Int.le_of_lt positive)
  rw [checkTime_iff_within (same ▸ fits), Int.abs_eq_natAbs]
  omega

theorem checkNonce_eq_ok_iff {nonce : String} :
    checkNonce nonce = .ok () ↔ 1 ≤ utf8Length nonce ∧ utf8Length nonce ≤ 128 := by
  have some_ : nonce.isEmpty = false ↔ 1 ≤ utf8Length nonce := by
    rw [String.isEmpty_eq_false_iff, Nat.one_le_iff_ne_zero, utf8Length, ne_eq, ne_eq,
      String.utf8ByteSize_eq_zero_iff]
  rw [← some_, checkNonce, nonceLimit]
  cases nonce.isEmpty <;> simp

theorem checkSignature_eq_ok_iff {parts : Parts} {secret method path : String}
    {body : List UInt8} {timestamp : Int} :
    checkSignature parts secret method path body timestamp = .ok () ↔
      lower (trim parts.signature) =
        Crypto.Hmac.hexDigest secret (canonical method path timestamp parts.nonce body) := by
  have shown : lower (trim parts.signature) =
      Crypto.Hmac.hexDigest secret (canonical method path timestamp parts.nonce body) ↔
        Hex.decode? (trimChars parts.signature.toList) = some (Crypto.Hmac.digest (utf8 secret)
          (utf8 (canonical method path timestamp parts.nonce body))) := by
    rw [Hex.decode?_eq_some_iff, lower, trim, String.toList_ofList, Crypto.Hmac.hexDigest,
      String.ofList_inj]
  rw [shown, checkSignature]
  cases Hex.decode? (trimChars parts.signature.toList) with
  | none => simp
  | some presented => simp

/-!
# Valid requests
-/

/-- All that speaks for a request apart from what was asked before: a time stamp within the
window, a nonce of a good length, and the keyed hash of the request in hexadecimal digits. -/
def Call.Valid (window : Int) (c : Call) : Prop :=
  ∃ timestamp, c.timestamp? = some timestamp ∧ |c.now.seconds - timestamp| ≤ window ∧
    (1 ≤ utf8Length c.parts.nonce ∧ utf8Length c.parts.nonce ≤ 128) ∧
    lower (trim c.parts.signature) =
      Crypto.Hmac.hexDigest c.secret (canonical c.method c.path timestamp c.parts.nonce c.body)

theorem Call.correct_iff_valid {window : Int} {c : Call} (positive : 0 < window)
    (fits : window ≤ Int64.maxValue.toInt) : c.Correct window ↔ c.Valid window := by
  simp only [Call.correct_iff, Call.Valid, checkTime_iff_abs_le positive fits,
    checkNonce_eq_ok_iff, checkSignature_eq_ok_iff]

/-!
# Nonces in use

A nonce is in use until two windows have passed since the request that it came with.  A verifier
works out that time for every nonce that it remembers, so all of them have to be instants.
-/

def Call.InUse (window : Int) (c : Call) (now : Instant) : Prop :=
  ∃ ends, c.now.addSeconds? (2 * window) = some ends ∧ now < ends

/-- Two windows after each of the calls that are accepted is an instant. -/
def NoncesEnd (window : Int) (calls : List Call) : Prop :=
  ∀ c ∈ accepted window .empty calls, (c.now.addSeconds? (2 * window)).isSome

theorem Call.inUse_iff {window : Int} {c : Call} {now : Instant}
    (ends : (c.now.addSeconds? (2 * window)).isSome) :
    c.InUse window now ↔ now < c.expiry window := by
  rcases Option.isSome_iff_exists.mp ends with ⟨end_, sum⟩
  have expiry : c.expiry window = end_ := by
    rw [Call.expiry, ← Instant.addSeconds_of_eq_some sum, Instant.addSeconds]
    congr 1
    omega
  rw [InUse, sum, expiry]
  simp only [Option.some.injEq, exists_eq_left']

/-!
# Guards that remember the same
-/

/-- Guards that remember the same requests accept the same requests from then on. -/
theorem Remembers.accepted_eq {window : Int} {past calls : List Call} {now : Instant}
    {guard guard' : Guard} (h : Remembers window past now guard)
    (h' : Remembers window past now guard')
    (ordered : calls.Pairwise (fun a b => a.now ≤ b.now)) (from_ : ∀ c ∈ calls, now ≤ c.now) :
    accepted window guard calls = accepted window guard' calls := by
  induction calls generalizing past now guard guard' with
  | nil => rfl
  | cons c rest ih =>
      rcases List.pairwise_cons.mp ordered with ⟨first, ordered⟩
      have le := from_ c List.mem_cons_self
      have next := h.next le
      have next' := h'.next le
      have same : Accepts window guard c ↔ Accepts window guard' c := by
        rw [h.accepts_iff le, h'.accepts_iff le]
      by_cases accepts : Accepts window guard c
      · have accepts' := same.mp accepts
        rw [accepted_cons_of_accepts accepts] at next
        rw [accepted_cons_of_accepts accepts'] at next'
        rw [accepted_cons_of_accepts accepts, accepted_cons_of_accepts accepts',
          ih next next' ordered first]
      · have refused := mt same.mpr accepts
        rw [accepted_cons_of_not_accepts accepts] at next
        rw [accepted_cons_of_not_accepts refused] at next'
        rw [accepted_cons_of_not_accepts accepts, accepted_cons_of_not_accepts refused,
          ih next next' ordered first]

/-!
# Verdicts
-/

/-- A call behind others leaves nothing to them that follow: no nonce is remembered that was
not remembered before, and whatever is asked later, the answer is the same without it. -/
structure Traceless (window : Int) (before : List Call) (c : Call) : Prop where
  remembered : ∀ s ∈ (guardAfter window .empty (before ++ [c])).seen,
    s ∈ (guardAfter window .empty before).seen
  unfelt : ∀ between last,
    (before ++ c :: (between ++ [last])).Pairwise (fun a b => a.now ≤ b.now) →
      NoncesEnd window (before ++ c :: between) →
      (Accepts window (guardAfter window .empty (before ++ c :: between)) last ↔
        Accepts window (guardAfter window .empty (before ++ between)) last)

theorem traceless_of_not_accepts {window : Int} {before : List Call} {c : Call}
    (refused : ¬ Accepts window (guardAfter window .empty before) c) :
    Traceless window before c where
  remembered := by
    intro s hs
    rw [guardAfter_append] at hs
    rcases mem_seen_answer hs with old | ⟨accepts, _⟩
    · exact old
    · exact absurd accepts refused
  unfelt := by
    intro between last ordered _
    rcases List.pairwise_append.mp ordered with ⟨early, late, across⟩
    rcases List.pairwise_cons.mp late with ⟨afterC, rest⟩
    rcases List.pairwise_append.mp rest with ⟨betweenOrdered, _, untilLast⟩
    have fromC : ∀ d ∈ between, c.now ≤ d.now :=
      fun d hd => afterC d (List.mem_append_left _ hd)
    have toLast : ∀ d ∈ between, d.now ≤ last.now := fun d hd => untilLast d hd last (by simp)
    have cToLast : c.now ≤ last.now := afterC last (by simp)
    -- with the call and without it, the guard remembers what was accepted before
    have without : Remembers window (accepted window .empty before) c.now
        (guardAfter window .empty before) :=
      remembers_after early fun d hd => across d hd c List.mem_cons_self
    have with_ := without.next (Instant.le_refl c.now)
    rw [accepted_cons_of_not_accepts refused] at with_
    simp only [accepted, List.append_nil] at with_
    have same := with_.accepted_eq without betweenOrdered fromC
    rw [guardAfter_append, guardAfter_append, guardAfter,
      (with_.after betweenOrdered fromC toLast cToLast).accepts_iff (Instant.le_refl _),
      (without.after betweenOrdered fromC toLast cToLast).accepts_iff (Instant.le_refl _), same]

/-- After any calls, a verifier accepts a request exactly when it is valid and no nonce like its
own is in use; and a request that it refuses leaves no trace.  Two windows are a span, which holds
its milliseconds in 64 bits, and they end at an instant for each of the nonces so far. -/
theorem accepts_iff_valid_and_fresh {window : Int} {before : List Call} {c : Call}
    (positive : 0 < window) (fits : 2000 * window ≤ Int64.maxValue.toInt)
    (ordered : (before ++ [c]).Pairwise (fun a b => a.now ≤ b.now))
    (ends : NoncesEnd window before) :
    (Accepts window (guardAfter window .empty before) c ↔
      c.Valid window ∧
        ¬ ∃ d ∈ accepted window .empty before, d.SameNonce c ∧ d.InUse window c.now) ∧
    (¬ Accepts window (guardAfter window .empty before) c → Traceless window before c) := by
  rcases List.pairwise_append.mp ordered with ⟨early, _, across⟩
  have remembers : Remembers window (accepted window .empty before) c.now
      (guardAfter window .empty before) :=
    remembers_after early fun d hd => across d hd c (by simp)
  refine ⟨?_, traceless_of_not_accepts⟩
  rw [remembers.accepts_iff (Instant.le_refl c.now),
    Call.correct_iff_valid positive (by omega)]
  apply and_congr_right
  intro _
  simp only [not_exists, not_and]
  refine forall₂_congr fun d hd => imp_congr_right fun _ => ?_
  rw [Call.inUse_iff (ends d hd), Instant.not_lt]

/-- The probe is valid, but it is accepted once only while its nonce is in use. -/
theorem accepts_iff_valid_and_fresh_probe :
    (probe fiveMinutesBefore).Valid 300 ∧ Accepts 300 .empty (probe fiveMinutesBefore) ∧
      ¬ Accepts 300 (guardAfter 300 .empty [probe fiveMinutesBefore])
        (probe fiveMinutesBefore) ∧
      Traceless 300 [probe fiveMinutesBefore] (probe fiveMinutesBefore) := by
  have valid : (probe fiveMinutesBefore).Valid 300 :=
    (Call.correct_iff_valid (by decide) (by decide)).mp (correct_probe (by decide))
  have alone : ([] ++ [probe fiveMinutesBefore]).Pairwise (fun a b : Call => a.now ≤ b.now) :=
    List.pairwise_singleton _ _
  have twice : ([probe fiveMinutesBefore] ++ [probe fiveMinutesBefore]).Pairwise
      (fun a b => a.now ≤ b.now) := List.pairwise_pair.mpr (Instant.le_refl fiveMinutesBefore)
  have first := accepts_iff_valid_and_fresh (by decide : (0 : Int) < 300) (by decide) alone
    (by rintro _ ⟨⟩)
  have once : Accepts 300 .empty (probe fiveMinutesBefore) :=
    first.1.mpr ⟨valid, by rintro ⟨_, none_, _⟩; cases none_⟩
  have accepted_ : accepted 300 .empty [probe fiveMinutesBefore] = [probe fiveMinutesBefore] :=
    accepted_cons_of_accepts once []
  have ends : NoncesEnd 300 [probe fiveMinutesBefore] := by
    intro d hd
    rw [accepted_, List.mem_singleton] at hd
    rw [hd]
    decide
  have again := accepts_iff_valid_and_fresh (by decide : (0 : Int) < 300) (by decide) twice ends
  have refused : ¬ Accepts 300 (guardAfter 300 .empty [probe fiveMinutesBefore])
      (probe fiveMinutesBefore) := by
    intro accepts
    refine (again.1.mp accepts).2 ⟨probe fiveMinutesBefore, ?_, ⟨rfl, rfl⟩, _, rfl, by decide⟩
    rw [accepted_]
    exact List.mem_cons_self
  exact ⟨valid, once, refused, again.2 refused⟩

end Signature
end FleetControl
