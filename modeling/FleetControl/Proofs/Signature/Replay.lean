import FleetControl.Proofs.Refusal
import FleetControl.Proofs.Signature.Memory
import FleetControl.Proofs.Time.Order

/-!
# Replays

The time stamp of a request is good for two windows at most, and its nonce is remembered
for two windows.  The ends of the two do not meet: when a request was accepted a full
window before its time stamp, the whole second that ends both spans belongs to the time
stamp, but not all of it to the nonce.
-/

namespace FleetControl
namespace Signature

open Refusal
open Text
open Time

/-!
# Correct requests
-/

theorem Call.correct_iff {window : Int} {c : Call} :
    c.Correct window ↔ ∃ timestamp, c.timestamp? = some timestamp ∧
      checkTime window c.now timestamp = .ok () ∧ checkNonce c.parts.nonce = .ok () ∧
      checkSignature c.parts c.secret c.method c.path c.body timestamp = .ok () := by
  unfold Call.Correct checkRequest Call.timestamp?
  cases Numeral.int64? (trimChars c.parts.timestamp.toList) with
  | none => simp
  | some timestamp =>
      simp only [bind_eq_ok, Option.some.injEq, exists_eq_left']
      constructor
      · intro parts
        rcases parts with ⟨_, time, _, nonce, signature⟩
        exact ⟨time, nonce, signature⟩
      · intro parts
        rcases parts with ⟨time, nonce, signature⟩
        exact ⟨(), time, (), nonce, signature⟩

theorem checkTime_eq_ok_iff {window : Int} {now : Instant} {timestamp : Int} :
    checkTime window now timestamp = .ok () ↔
      (Int64.minValue.toInt ≤ now.seconds - timestamp ∧
        now.seconds - timestamp ≤ Int64.maxValue.toInt) ∧
      (now.seconds - timestamp).natAbs ≤ window.natAbs := by
  unfold checkTime difference?
  simp only
  split
  · rename_i hnone
    split at hnone
    · cases hnone
    · rename_i outside
      constructor
      · intro h
        cases h
      · intro parts
        rcases parts with ⟨inside, _⟩
        exact absurd inside outside
  · rename_i d hd
    split at hd
    · rename_i inside
      cases hd
      simp only [inside, true_and]
      split <;> simp_all
    · cases hd

/-!
# The gap between the two spans
-/

/-- A later call comes in the second at the end of both spans, when the nonce of the
earlier one is forgotten and its time stamp is still good. -/
def Gap (window : Int) (a b : Call) : Prop :=
  a.timestamp? = some (a.now.seconds + window) ∧
    b.now.seconds = a.now.seconds + 2 * window ∧ a.now.nanos % billion ≤ b.now.nanos

theorem expiry_le_iff {window : Int} {a b : Call} (positive : 0 < window)
    (before : b.now.seconds < lastSecond) :
    a.expiry window ≤ b.now ↔ a.now.seconds + 2 * window < b.now.seconds ∨
      (a.now.seconds + 2 * window = b.now.seconds ∧ a.now.nanos % billion ≤ b.now.nanos) := by
  have span : 2000 * window = 1000 * (2 * window) := by omega
  unfold Call.expiry
  rw [span]
  exact Instant.addSeconds_le_iff (by omega) before

theorem gap_of_expired {window : Int} {a b : Call} (positive : 0 < window)
    (before : b.now.seconds < lastSecond) (same : b.timestamp? = a.timestamp?)
    (first : a.Correct window) (second : b.Correct window)
    (expired : a.expiry window ≤ b.now) : Gap window a b := by
  rcases Call.correct_iff.mp first with ⟨timestamp, read, time, _, _⟩
  rcases Call.correct_iff.mp second with ⟨timestamp', read', time', _, _⟩
  rw [same, read] at read'
  cases read'
  rcases checkTime_eq_ok_iff.mp time with ⟨_, skew⟩
  rcases checkTime_eq_ok_iff.mp time' with ⟨_, skew'⟩
  rcases (expiry_le_iff positive before).mp expired with later | ⟨seconds, nanos⟩
  · omega
  · refine ⟨?_, seconds.symm, nanos⟩
    rw [read]
    exact congrArg some (by omega)

theorem correct_of_gap {window : Int} {a b : Call} (positive : 0 < window)
    (same : b.timestamp? = a.timestamp?) (nonce : b.parts.nonce = a.parts.nonce)
    (first : a.Correct window) (signed : b.Signed) (gap : Gap window a b) :
    b.Correct window := by
  rcases Call.correct_iff.mp first with ⟨timestamp, read, _, good, _⟩
  rcases signed with ⟨timestamp', read', signature⟩
  rcases gap with ⟨ahead, seconds, _⟩
  have hread : timestamp' = a.now.seconds + window := by
    rw [same, ahead] at read'
    exact (Option.some.inj read').symm
  refine Call.correct_iff.mpr ⟨timestamp', read', ?_, by rw [nonce]; exact good, signature⟩
  have low := a.now.bounded.1
  have high := b.now.bounded.2
  have least : Int64.minValue.toInt = -9223372036854775808 := rfl
  have most : Int64.maxValue.toInt = 9223372036854775807 := rfl
  rw [checkTime_eq_ok_iff, hread, seconds, least, most]
  unfold firstSecond at low
  unfold lastSecond at high
  omega

/-- Two spans, one behind the other, end later than the gap. -/
theorem not_expired_again {window : Int} {a b c : Call} (positive : 0 < window)
    (before : b.now.seconds < lastSecond) (order : c.now ≤ b.now) (gap : Gap window a b)
    (reused : a.expiry window ≤ c.now) : ¬ c.expiry window ≤ b.now := by
  intro again
  have until_ := Instant.seconds_le order
  have early : c.now.seconds < lastSecond := by omega
  rw [expiry_le_iff positive early] at reused
  rw [expiry_le_iff positive before] at again
  rcases gap with ⟨_, seconds, _⟩
  omega

/-!
# Which replays are accepted

The last second that there is stays out of it, for no span ends behind that second.
-/

/-- After a call has been accepted, a later one with the same agent, time stamp and nonce
is accepted just in the gap, if it is signed and none has been accepted in between. -/
theorem accepts_replay_iff {window : Int} {first between : List Call} {a b : Call}
    (positive : 0 < window)
    (ordered : (first ++ a :: (between ++ [b])).Pairwise (fun x y => x.now ≤ y.now))
    (before : b.now.seconds < lastSecond)
    (once : Accepts window (guardAfter window .empty first) a)
    (agent : b.parts.agentId = a.parts.agentId)
    (timestamp : b.parts.timestamp = a.parts.timestamp)
    (nonce : b.parts.nonce = a.parts.nonce) :
    Accepts window (guardAfter window .empty (first ++ a :: between)) b ↔
      b.Signed ∧ Gap window a b ∧
        ∀ c ∈ accepted window (guardAfter window .empty (first ++ [a])) between,
          ¬ c.SameNonce b := by
  rcases List.pairwise_append.mp ordered with ⟨early, late, across⟩
  rcases List.pairwise_cons.mp late with ⟨afterA, lateB⟩
  rcases List.pairwise_append.mp lateB with ⟨betweenOrdered, _, untilB⟩
  have aToB : a.now ≤ b.now := afterA b (by simp)
  have firstToA : ∀ c ∈ first, c.now ≤ a.now := fun c hc => across c hc a List.mem_cons_self
  have betweenToB : ∀ c ∈ between, c.now ≤ b.now := fun c hc => untilB c hc b (by simp)
  have fromA : ∀ c ∈ between, a.now ≤ c.now :=
    fun c hc => afterA c (List.mem_append_left _ hc)
  have atA : Remembers window (accepted window .empty first) a.now
      (guardAfter window .empty first) := remembers_after early firstToA
  have pastA : Remembers window (accepted window .empty first ++ [a]) a.now
      (guardAfter window .empty (first ++ [a])) := by
    have next := atA.next (Instant.le_refl a.now)
    rw [accepted_cons_of_accepts once] at next
    rw [guardAfter_append]
    exact next
  have atB := pastA.after betweenOrdered fromA betweenToB aToB
  rw [show first ++ a :: between = first ++ [a] ++ between by simp, guardAfter_append,
    atB.accepts_iff (Instant.le_refl b.now)]
  rcases (atA.accepts_iff (Instant.le_refl a.now)).mp once with ⟨correctA, forgottenA⟩
  have sameStamp : b.timestamp? = a.timestamp? := by
    unfold Call.timestamp?
    rw [timestamp]
  have sameNonce : a.SameNonce b := ⟨agent.symm, nonce.symm⟩
  constructor
  · intro parts
    rcases parts with ⟨correctB, forgotten⟩
    have expired : a.expiry window ≤ b.now := forgotten a (by simp) sameNonce
    have gap := gap_of_expired positive before sameStamp correctA correctB expired
    refine ⟨?_, gap, ?_⟩
    · rcases Call.correct_iff.mp correctB with ⟨stamp, read, _, _, signature⟩
      exact ⟨stamp, read, signature⟩
    · intro c hc same
      rcases pastA.of_mem_accepted betweenOrdered fromA hc with ⟨mem, forgottenC⟩
      have reused := forgottenC a (by simp) ⟨sameNonce.1.trans same.1.symm,
        sameNonce.2.trans same.2.symm⟩
      have again := forgotten c (List.mem_append_right _ hc) same
      exact not_expired_again positive before (betweenToB c mem) gap reused again
  · intro parts
    rcases parts with ⟨signed, gap, none_⟩
    constructor
    · exact correct_of_gap positive sameStamp nonce correctA signed gap
    · intro c hc same
      rcases List.mem_append.mp hc with hc | hc
      · rcases List.mem_append.mp hc with hc | hc
        · exact Instant.le_trans (forgottenA c hc ⟨same.1.trans agent, same.2.trans nonce⟩) aToB
        · rw [List.mem_singleton.mp hc]
          exact (expiry_le_iff positive before).mpr (Or.inr ⟨gap.2.1.symm, gap.2.2⟩)
      · exact absurd same (none_ c hc)

def probe (now : Instant) : Call :=
  { parts :=
      { agentId := "a1"
        timestamp := "1767225900"
        nonce := "n1"
        signature := "2a1ce66ab475762051a6cb311e8712da1927fd4654c22f76080537c469609cc8" }
    secret := "s3cret"
    method := "POST"
    path := "/agent/heartbeat"
    body := [123, 125]
    now := now }

def fiveMinutesBefore : Instant :=
  { seconds := 1767225600, nanos := 0, bounded := by decide, fine := by decide }

def fiveMinutesAfter : Instant :=
  { seconds := 1767226200, nanos := 0, bounded := by decide, fine := by decide }

theorem timestamp_probe (now : Instant) : (probe now).timestamp? = some 1767225900 := by
  show (probe .epoch).timestamp? = some 1767225900
  decide +kernel

theorem checkSignature_probe (now : Instant) :
    checkSignature (probe now).parts (probe now).secret (probe now).method (probe now).path
      (probe now).body 1767225900 = .ok () := by
  show checkSignature (probe .epoch).parts (probe .epoch).secret (probe .epoch).method
    (probe .epoch).path (probe .epoch).body 1767225900 = .ok ()
  decide +kernel

theorem correct_probe {now : Instant} (h : checkTime 300 now 1767225900 = .ok ()) :
    (probe now).Correct 300 := by
  have nonce : checkNonce (probe now).parts.nonce = .ok () := rfl
  exact Call.correct_iff.mpr
    ⟨1767225900, timestamp_probe now, h, nonce, checkSignature_probe now⟩

theorem accepts_probe : Accepts 300 .empty (probe fiveMinutesBefore) :=
  accepts_iff.mpr ⟨correct_probe (by decide), rfl⟩

theorem accepts_replay_iff_probe :
    Accepts 300 (guardAfter 300 .empty [probe fiveMinutesBefore]) (probe fiveMinutesAfter) ↔
      (probe fiveMinutesAfter).Signed ∧
        Gap 300 (probe fiveMinutesBefore) (probe fiveMinutesAfter) ∧
          ∀ c ∈ accepted 300 (guardAfter 300 .empty [probe fiveMinutesBefore]) [],
            ¬ c.SameNonce (probe fiveMinutesAfter) := by
  refine @accepts_replay_iff 300 [] [] (probe fiveMinutesBefore) (probe fiveMinutesAfter)
    (by decide) ?_ (by decide) accepts_probe rfl rfl rfl
  simp only [List.nil_append, List.pairwise_cons, List.mem_singleton, forall_eq]
  decide

/-- A request that is accepted five minutes before its time is accepted again ten minutes
later, with all its parts the same. -/
theorem probe_accepted_twice :
    Accepts 300 .empty (probe fiveMinutesBefore) ∧
      fiveMinutesBefore ≤ fiveMinutesAfter ∧
        Accepts 300 (guardAfter 300 .empty [probe fiveMinutesBefore])
          (probe fiveMinutesAfter) := by
  have guard := guard_of_accepts accepts_probe
  refine ⟨accepts_probe, by decide, accepts_iff.mpr ⟨correct_probe (by decide), ?_⟩⟩
  rw [guardAfter, guardAfter, guard]
  decide

end Signature
end FleetControl
