import FleetControl.Proofs.Refusal
import FleetControl.Proofs.Time.Order
import FleetControl.Signature.Verify

/-!
# What a verifier remembers

A verifier is asked about one request after the other, at times that do not go back.
Of each request that it has accepted it remembers the nonce until a span has passed, and
a correct request is accepted unless its nonce is remembered.
-/

namespace FleetControl
namespace Signature

open Text
open Time

structure Call where
  parts : Parts
  secret : String
  method : String
  path : String
  body : List UInt8
  now : Instant

namespace Call

def timestamp? (c : Call) : Option Int :=
  Numeral.int64? (trimChars c.parts.timestamp.toList)

def SameNonce (a b : Call) : Prop :=
  a.parts.agentId = b.parts.agentId ∧ a.parts.nonce = b.parts.nonce

def sighting (c : Call) : Sighting :=
  { agentId := c.parts.agentId, nonce := c.parts.nonce, time := c.now }

def expiry (window : Int) (c : Call) : Instant :=
  c.now.addMillis (2000 * window)

/-- All but the nonce speaks for the request. -/
def Correct (window : Int) (c : Call) : Prop :=
  checkRequest window c.parts c.secret c.method c.path c.body c.now = .ok ()

def Signed (c : Call) : Prop :=
  ∃ timestamp, c.timestamp? = some timestamp ∧
    checkSignature c.parts c.secret c.method c.path c.body timestamp = .ok ()

end Call

/-!
# Sequences of calls
-/

def answer (window : Int) (guard : Guard) (c : Call) : Except Flaw Unit × Guard :=
  verify window guard c.parts c.secret c.method c.path c.body c.now

def Accepts (window : Int) (guard : Guard) (c : Call) : Prop :=
  (answer window guard c).1 = .ok ()

instance (window : Int) (guard : Guard) (c : Call) : Decidable (Accepts window guard c) :=
  Refusal.decidableEqOk _

def guardAfter (window : Int) (guard : Guard) : List Call → Guard
  | [] => guard
  | c :: rest => guardAfter window (answer window guard c).2 rest

def accepted (window : Int) (guard : Guard) : List Call → List Call
  | [] => []
  | c :: rest =>
      (match (answer window guard c).1 with
        | .ok () => [c]
        | .error _ => []) ++ accepted window (answer window guard c).2 rest

theorem guardAfter_append (window : Int) (guard : Guard) (first second : List Call) :
    guardAfter window guard (first ++ second) =
      guardAfter window (guardAfter window guard first) second := by
  induction first generalizing guard with
  | nil =>
      rfl
  | cons c rest ih =>
      exact ih (answer window guard c).2

theorem accepted_append (window : Int) (guard : Guard) (first second : List Call) :
    accepted window guard (first ++ second) =
      accepted window guard first ++ accepted window (guardAfter window guard first) second := by
  induction first generalizing guard with
  | nil =>
      rfl
  | cons c rest ih =>
      simp only [List.cons_append, accepted, guardAfter, ih, List.append_assoc]

theorem accepted_cons_of_accepts {window : Int} {guard : Guard} {c : Call}
    (h : Accepts window guard c) (rest : List Call) :
    accepted window guard (c :: rest) =
      c :: accepted window (answer window guard c).2 rest := by
  unfold Accepts at h
  simp only [accepted, h]
  rfl

theorem accepted_cons_of_not_accepts {window : Int} {guard : Guard} {c : Call}
    (h : ¬ Accepts window guard c) (rest : List Call) :
    accepted window guard (c :: rest) = accepted window (answer window guard c).2 rest := by
  unfold Accepts at h
  cases hanswer : (answer window guard c).1 with
  | ok u => exact absurd hanswer h
  | error flaw =>
      simp only [accepted, hanswer]
      rfl

/-!
# The guard over one call
-/

abbrev kept (window : Int) (guard : Guard) (c : Call) : Guard :=
  guard.retain c.now (2000 * window)

theorem knows_kept_eq_false {window : Int} {guard : Guard} {c : Call} :
    (kept window guard c).knows c.parts.agentId c.parts.nonce = false ↔
      ∀ s ∈ guard.seen, c.now < s.time.addMillis (2000 * window) →
        ¬ (s.agentId = c.parts.agentId ∧ s.nonce = c.parts.nonce) := by
  simp [kept, Guard.knows, Guard.retain]

theorem answer_of_correct {window : Int} {guard : Guard} {c : Call}
    (correct : c.Correct window) :
    answer window guard c =
      if (kept window guard c).knows c.parts.agentId c.parts.nonce then
        (.error .nonceUsed, kept window guard c)
      else (.ok (), { seen := c.sighting :: (kept window guard c).seen }) := by
  unfold answer verify
  rw [show checkRequest window c.parts c.secret c.method c.path c.body c.now = .ok () from
    correct]
  cases known : (guard.retain c.now (2000 * window)).knows c.parts.agentId c.parts.nonce <;>
    simp [Guard.check, kept, known, Call.sighting]

theorem answer_of_not_correct {window : Int} {c : Call} (h : ¬ c.Correct window)
    (guard : Guard) : ∃ flaw, answer window guard c = (.error flaw, guard) := by
  unfold Call.Correct at h
  unfold answer verify
  cases hcheck : checkRequest window c.parts c.secret c.method c.path c.body c.now with
  | ok u => exact absurd hcheck h
  | error flaw => exact ⟨flaw, rfl⟩

theorem accepts_iff {window : Int} {guard : Guard} {c : Call} :
    Accepts window guard c ↔ c.Correct window ∧
      (kept window guard c).knows c.parts.agentId c.parts.nonce = false := by
  unfold Accepts
  by_cases correct : c.Correct window
  · rw [answer_of_correct correct]
    cases (kept window guard c).knows c.parts.agentId c.parts.nonce <;> simp [correct]
  · rcases answer_of_not_correct correct guard with ⟨flaw, hanswer⟩
    rw [hanswer]
    simp [correct]

theorem guard_of_accepts {window : Int} {guard : Guard} {c : Call}
    (h : Accepts window guard c) :
    (answer window guard c).2 = { seen := c.sighting :: (kept window guard c).seen } := by
  rcases accepts_iff.mp h with ⟨correct, fresh⟩
  rw [answer_of_correct correct, fresh]
  rfl

theorem guard_of_not_accepts {window : Int} {guard : Guard} {c : Call}
    (h : ¬ Accepts window guard c) :
    (answer window guard c).2 = guard ∨ (answer window guard c).2 = kept window guard c := by
  by_cases correct : c.Correct window
  · cases known : (kept window guard c).knows c.parts.agentId c.parts.nonce with
    | false => exact absurd (accepts_iff.mpr ⟨correct, known⟩) h
    | true =>
        rw [answer_of_correct correct, known]
        exact Or.inr rfl
  · rcases answer_of_not_correct correct guard with ⟨flaw, hanswer⟩
    rw [hanswer]
    exact Or.inl rfl

/-- A call adds no nonce but its own, and that only when it is accepted. -/
theorem mem_seen_answer {window : Int} {guard : Guard} {c : Call} {s : Sighting}
    (h : s ∈ (answer window guard c).2.seen) :
    s ∈ guard.seen ∨ (Accepts window guard c ∧ s = c.sighting) := by
  have old : s ∈ (kept window guard c).seen → s ∈ guard.seen := fun h => (List.mem_filter.mp h).1
  by_cases accepts : Accepts window guard c
  · rw [guard_of_accepts accepts] at h
    rcases List.mem_cons.mp h with own | h
    · exact Or.inr ⟨accepts, own⟩
    · exact Or.inl (old h)
  · rcases guard_of_not_accepts accepts with same | same
    · exact Or.inl (same ▸ h)
    · exact Or.inl (old (same ▸ h))

/-!
# Memory
-/

/-- The guard holds nonces of past requests only, and all that are not forgotten. -/
structure Remembers (window : Int) (past : List Call) (now : Instant) (guard : Guard) :
    Prop where
  sound : ∀ s ∈ guard.seen, ∃ c ∈ past, s = c.sighting
  complete : ∀ c ∈ past, c.sighting ∈ guard.seen ∨ c.expiry window ≤ now

theorem remembers_empty (window : Int) (now : Instant) :
    Remembers window [] now .empty where
  sound := by simp [Guard.empty]
  complete := by simp

theorem Remembers.accepts_iff {window : Int} {past : List Call} {now : Instant}
    {guard : Guard} {c : Call} (h : Remembers window past now guard) (le : now ≤ c.now) :
    Accepts window guard c ↔ c.Correct window ∧
      ∀ d ∈ past, d.SameNonce c → d.expiry window ≤ c.now := by
  rw [Signature.accepts_iff, knows_kept_eq_false]
  apply and_congr_right
  intro _
  constructor
  · intro fresh d hd same
    rcases h.complete d hd with seen | forgotten
    · apply Instant.not_lt.mp
      intro later
      exact fresh d.sighting seen later same
    · exact Instant.le_trans forgotten le
  · intro forgotten s hs later same
    rcases h.sound s hs with ⟨d, hd, rfl⟩
    exact Instant.not_lt.mpr (forgotten d hd same) later

theorem Remembers.retain {window : Int} {past : List Call} {now later : Instant}
    {guard : Guard} (h : Remembers window past now guard) (le : now ≤ later) :
    Remembers window past later (guard.retain later (2000 * window)) := by
  constructor
  · intro s hs
    exact h.sound s (List.mem_filter.mp hs).1
  · intro c hc
    rcases h.complete c hc with seen | forgotten
    · by_cases kept : later < c.expiry window
      · exact Or.inl (List.mem_filter.mpr ⟨seen, decide_eq_true kept⟩)
      · exact Or.inr (Instant.not_lt.mp kept)
    · exact Or.inr (Instant.le_trans forgotten le)

theorem Remembers.mono {window : Int} {past : List Call} {now later : Instant}
    {guard : Guard} (h : Remembers window past now guard) (le : now ≤ later) :
    Remembers window past later guard := by
  constructor
  · exact h.sound
  · intro c hc
    rcases h.complete c hc with seen | forgotten
    · exact Or.inl seen
    · exact Or.inr (Instant.le_trans forgotten le)

theorem Remembers.next {window : Int} {past : List Call} {now : Instant} {guard : Guard}
    {c : Call} (h : Remembers window past now guard) (le : now ≤ c.now) :
    Remembers window (past ++ accepted window guard [c]) c.now (answer window guard c).2 := by
  by_cases accepts : Accepts window guard c
  · have kept := h.retain le
    rw [accepted_cons_of_accepts accepts]
    constructor
    · intro s hs
      rw [guard_of_accepts accepts] at hs
      rcases List.mem_cons.mp hs with rfl | hs
      · exact ⟨c, by simp, rfl⟩
      · rcases kept.sound s hs with ⟨d, hd, rfl⟩
        exact ⟨d, List.mem_append_left _ hd, rfl⟩
    · intro d hd
      rw [guard_of_accepts accepts]
      rcases List.mem_append.mp hd with hd | hd
      · rcases kept.complete d hd with seen | forgotten
        · exact Or.inl (List.mem_cons_of_mem _ seen)
        · exact Or.inr forgotten
      · rw [List.mem_singleton.mp hd]
        exact Or.inl List.mem_cons_self
  · rw [accepted_cons_of_not_accepts accepts]
    simp only [accepted, List.append_nil]
    rcases guard_of_not_accepts accepts with same | same
    · rw [same]
      exact h.mono le
    · rw [same]
      exact h.retain le

theorem Remembers.after {window : Int} {past calls : List Call} {now later : Instant}
    {guard : Guard} (h : Remembers window past now guard)
    (ordered : calls.Pairwise (fun a b => a.now ≤ b.now)) (from_ : ∀ c ∈ calls, now ≤ c.now)
    (until_ : ∀ c ∈ calls, c.now ≤ later) (le : now ≤ later) :
    Remembers window (past ++ accepted window guard calls) later
      (guardAfter window guard calls) := by
  induction calls generalizing past now guard with
  | nil =>
      simp only [accepted, List.append_nil]
      exact h.mono le
  | cons c rest ih =>
      rcases List.pairwise_cons.mp ordered with ⟨first, ordered⟩
      have step := ih (h.next (from_ c List.mem_cons_self)) ordered first
        (fun d hd => until_ d (List.mem_cons_of_mem _ hd)) (until_ c List.mem_cons_self)
      have split := accepted_append window guard [c] rest
      rw [List.append_assoc] at step
      rw [List.singleton_append] at split
      rw [split]
      exact step

theorem remembers_after {window : Int} {calls : List Call} {later : Instant}
    (ordered : calls.Pairwise (fun a b => a.now ≤ b.now))
    (until_ : ∀ c ∈ calls, c.now ≤ later) :
    Remembers window (accepted window .empty calls) later (guardAfter window .empty calls) := by
  cases calls with
  | nil =>
      exact remembers_empty window later
  | cons c rest =>
      refine (remembers_empty window c.now).after ordered ?_ until_ (until_ c List.mem_cons_self)
      intro d hd
      rcases List.mem_cons.mp hd with rfl | hd
      · exact Instant.le_refl _
      · exact (List.pairwise_cons.mp ordered).1 d hd

theorem Remembers.of_mem_accepted {window : Int} {past calls : List Call} {now : Instant}
    {guard : Guard} {c : Call} (h : Remembers window past now guard)
    (ordered : calls.Pairwise (fun a b => a.now ≤ b.now)) (from_ : ∀ d ∈ calls, now ≤ d.now)
    (hc : c ∈ accepted window guard calls) :
    c ∈ calls ∧ ∀ d ∈ past, d.SameNonce c → d.expiry window ≤ c.now := by
  induction calls generalizing past now guard with
  | nil =>
      simp [accepted] at hc
  | cons x rest ih =>
      rcases List.pairwise_cons.mp ordered with ⟨first, ordered⟩
      have le := from_ x List.mem_cons_self
      have later : c ∈ accepted window (answer window guard x).2 rest →
          c ∈ x :: rest ∧ ∀ d ∈ past, d.SameNonce c → d.expiry window ≤ c.now := by
        intro hc
        rcases ih (h.next le) ordered first hc with ⟨mem, forgotten⟩
        exact ⟨List.mem_cons_of_mem _ mem,
          fun d hd => forgotten d (List.mem_append_left _ hd)⟩
      by_cases accepts : Accepts window guard x
      · rw [accepted_cons_of_accepts accepts] at hc
        rcases List.mem_cons.mp hc with rfl | hc
        · exact ⟨List.mem_cons_self, ((h.accepts_iff le).mp accepts).2⟩
        · exact later hc
      · rw [accepted_cons_of_not_accepts accepts] at hc
        exact later hc

end Signature
end FleetControl
