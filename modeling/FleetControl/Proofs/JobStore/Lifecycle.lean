import Mathlib.Data.List.Destutter
import FleetControl.Proofs.JobStore.Soundness

/-!
# The life of a job

A job is queued, then leased once or withdrawn, and it ends once.  Time can do no more
to its dossier than this, whoever asks for what and in which order.
-/

namespace FleetControl

open Time

namespace Job

def Status.rank : Status → Nat
  | .queued => 0
  | .running => 1
  | _ => 2

theorem Status.eq_running_of_rank {s : Status} (h : s.rank = 1) : s = .running := by
  cases s <;> simp [rank] at h ⊢

def Status.Follows (next s : Status) : Prop :=
  next = s ∨ s.canBecome next = true

theorem Status.running_canBecome {s : Status} (h : s.isTerminal = true) :
    running.canBecome s = true := by
  cases s <;> simp [isTerminal] at h <;> rfl

theorem Status.Follows.rank_le {next s : Status} (h : next.Follows s) :
    s.rank ≤ next.rank := by
  rcases h with rfl | h
  · exact Nat.le_refl _
  · cases s <;> cases next <;> simp [canBecome] at h <;> simp [rank]

/-- The lease is held by the same agent under the same token, and it ends no sooner. -/
def SameLease (a b : Job) : Prop :=
  a.lockedBy = b.lockedBy ∧ a.lockToken = b.lockToken ∧
    ∀ before, a.lockExpiresAt = some before →
      ∃ after, b.lockExpiresAt = some after ∧ before ≤ after

theorem SameLease.refl (job : Job) : job.SameLease job :=
  ⟨rfl, rfl, fun before h => ⟨before, h, Instant.le_refl before⟩⟩

theorem SameLease.trans {a b c : Job} (h : a.SameLease b) (h' : b.SameLease c) :
    a.SameLease c := by
  rcases h with ⟨holder, token, ends⟩
  rcases h' with ⟨holder', token', ends'⟩
  refine ⟨holder.trans holder', token.trans token', ?_⟩
  intro before hbefore
  rcases ends before hbefore with ⟨middle, hmiddle, le⟩
  rcases ends' middle hmiddle with ⟨after, hafter, le'⟩
  exact ⟨after, hafter, Instant.le_trans le le'⟩

end Job

namespace Dossier

theorem Move.status_of_lapse {id : String} {now : Instant} {a b : Dossier} {job : Job}
    (move : Move id (.lapse now) a b) (h : b.job = some job) : job.status = .failed := by
  cases move
  cases h
  rfl

/-!
# Ageing

What becomes of a dossier in the course of time.
-/

structure Ages (a b : Dossier) : Prop where
  origin : ∀ before, a.job = some before → ∃ after, b.job = some after ∧
    before.SameOrigin after
  rank : ∀ before after, a.job = some before → b.job = some after →
    before.status.rank ≤ after.status.rank
  lease : ∀ before after, a.job = some before → b.job = some after →
    before.status = .running → after.status = .running → before.SameLease after
  ended : ∀ before, a.job = some before → before.status.isTerminal = true → b = a

theorem Ages.refl (r : Dossier) : r.Ages r := by
  constructor
  · intro job hjob
    exact ⟨job, hjob, .refl job⟩
  · intro before after hbefore hafter
    cases hbefore.symm.trans hafter
    exact Nat.le_refl _
  · intro before after hbefore hafter _ _
    cases hbefore.symm.trans hafter
    exact .refl before
  · intro _ _ _
    rfl

/-- Between two times at which a job runs it runs all the time. -/
theorem Ages.trans {a b c : Dossier} (h : a.Ages b) (h' : b.Ages c) : a.Ages c := by
  constructor
  · intro before hbefore
    rcases h.origin before hbefore with ⟨middle, hmiddle, same⟩
    rcases h'.origin middle hmiddle with ⟨after, hafter, same'⟩
    exact ⟨after, hafter, same.trans same'⟩
  · intro before after hbefore hafter
    rcases h.origin before hbefore with ⟨middle, hmiddle, _⟩
    exact Nat.le_trans (h.rank before middle hbefore hmiddle)
      (h'.rank middle after hmiddle hafter)
  · intro before after hbefore hafter running running'
    rcases h.origin before hbefore with ⟨middle, hmiddle, _⟩
    have low := h.rank before middle hbefore hmiddle
    have high := h'.rank middle after hmiddle hafter
    rw [running] at low
    rw [running'] at high
    have between : middle.status = .running :=
      Job.Status.eq_running_of_rank (Nat.le_antisymm high low)
    exact (h.lease before middle hbefore hmiddle running between).trans
      (h'.lease middle after hmiddle hafter between running')
  · intro before hbefore terminal
    have same := h.ended before hbefore terminal
    rw [← same] at hbefore
    rw [h'.ended before hbefore terminal, same]

theorem Move.follows {id : String} {cause : Cause} {a b : Dossier} {before after : Job}
    (move : Move id cause a b) (ha : a.job = some before) (hb : b.job = some after) :
    after.status.Follows before.status := by
  cases move with
  | lease status own =>
      cases ha
      cases hb
      rw [status]
      exact Or.inr rfl
  | progress status holder lease later own =>
      cases ha
      cases hb
      exact Or.inl rfl
  | finish status holder terminal name own =>
      cases ha
      cases hb
      rw [status]
      exact Or.inr (Job.Status.running_canBecome terminal)
  | lapse status lease lapsed failed name own =>
      cases ha
      cases hb
      rw [status]
      exact Or.inr rfl
  | withdraw status own text =>
      cases ha
      cases hb
      rw [status]
      exact Or.inr rfl

theorem Move.sameLease {id : String} {cause : Cause} {a b : Dossier} {before after : Job}
    (move : Move id cause a b) (ha : a.job = some before) (hb : b.job = some after)
    (running : before.status = .running) (running' : after.status = .running) :
    before.SameLease after := by
  cases move with
  | lease status own =>
      cases ha
      rw [status] at running
      cases running
  | progress status holder lease later own =>
      cases ha
      cases hb
      refine ⟨rfl, rfl, ?_⟩
      intro expires hexpires
      cases lease.symm.trans hexpires
      exact ⟨_, rfl, later⟩
  | finish status holder terminal name own =>
      cases hb
      have ended : Job.Status.running.isTerminal = true := running' ▸ terminal
      cases ended
  | lapse status lease lapsed failed name own =>
      cases hb
      cases running'
  | withdraw status own text =>
      cases ha
      rw [status] at running
      cases running

theorem Move.ages {id : String} {cause : Cause} {a b : Dossier} (move : Move id cause a b) :
    a.Ages b := by
  constructor
  · intro before hbefore
    exact move.sameOrigin hbefore
  · intro before after hbefore hafter
    exact (move.follows hbefore hafter).rank_le
  · intro before after hbefore hafter
    exact move.sameLease hbefore hafter
  · intro before hbefore terminal
    rw [move.not_isTerminal hbefore] at terminal
    cases terminal

theorem Change.ages {fresh : Fresh} {now : Instant} {operation : Operation} {id : String}
    {a b : Dossier} (change : Change fresh now operation id a b) : a.Ages b := by
  cases change with
  | keep => exact .refl a
  | create new name => constructor <;> intro before <;> simp
  | move _ move => exact move.ages

theorem Change.follows {fresh : Fresh} {now : Instant} {operation : Operation} {id : String}
    {a b : Dossier} {before after : Job} (change : Change fresh now operation id a b)
    (ha : a.job = some before) (hb : b.job = some after) :
    after.status.Follows before.status := by
  cases change with
  | keep =>
      cases ha.symm.trans hb
      exact Or.inl rfl
  | create new name => cases ha
  | move _ move => exact move.follows ha hb

end Dossier

/-!
# Touching a job that runs
-/

/-- Which operations may touch a job that an agent runs under a lease with an end. -/
def Operation.MayTouch (id agentId : String) (expires now : Instant) : Operation → Prop
  | .submitLogs agent job _ => agent = agentId ∧ job = id
  | .submitResult agent job _ => agent = agentId ∧ job = id
  | .poll _ _ => expires ≤ now
  | .expireStale => expires ≤ now
  | _ => False

namespace Dossier

theorem Move.mayTouch {id agentId : String} {cause : Cause} {now expires : Instant}
    {operation : Operation} {a b : Dossier} {job : Job} (move : Move id cause a b)
    (moves : operation.Moves now cause) (hjob : a.job = some job)
    (running : job.status = .running) (holder : job.lockedBy = some agentId)
    (ends : job.lockExpiresAt = some expires) :
    operation.MayTouch id agentId expires now := by
  cases move with
  | lease status own =>
      cases hjob
      rw [status] at running
      cases running
  | progress status held lease later own =>
      cases hjob
      cases held.symm.trans holder
      cases operation <;> simp [Operation.Moves] at moves
      exact ⟨moves.1.symm, moves.2.symm⟩
  | finish status held terminal name own =>
      cases hjob
      cases held.symm.trans holder
      cases operation <;> simp [Operation.Moves] at moves
      exact ⟨moves.1.symm, moves.2.symm⟩
  | lapse status lease lapsed failed name own =>
      cases hjob
      cases lease.symm.trans ends
      cases operation <;> simp [Operation.Moves] at moves
      all_goals
        rw [moves] at lapsed
        exact lapsed
  | withdraw status own text =>
      cases hjob
      rw [status] at running
      cases running

theorem Change.mayTouch {fresh : Fresh} {id agentId : String} {now expires : Instant}
    {operation : Operation} {a b : Dossier} {job : Job}
    (change : Change fresh now operation id a b) (touched : b ≠ a) (hjob : a.job = some job)
    (running : job.status = .running) (holder : job.lockedBy = some agentId)
    (ends : job.lockExpiresAt = some expires) :
    operation.MayTouch id agentId expires now := by
  cases change with
  | keep => exact absurd rfl touched
  | create new name => cases hjob
  | move moves move => exact move.mayTouch moves hjob running holder ends

end Dossier

/-!
# Statuses over a run
-/

namespace Plane

def visits (p : Plane) : List Step → List Plane
  | [] => [p]
  | step :: rest => p :: (p.next step).visits rest

def status? (p : Plane) (id : String) : Option Job.Status :=
  (p.state.jobs.get? id).map Job.status

def statuses (p : Plane) (steps : List Step) (id : String) : List Job.Status :=
  (p.visits steps).filterMap (fun q => q.status? id)

/-- The statuses that a job has in the course of a run, each as often as it is entered. -/
def history (p : Plane) (steps : List Step) (id : String) : List Job.Status :=
  (p.statuses steps id).destutter (· ≠ ·)

def handedOut : Except Error Answer → List String
  | .ok (.work reply) => reply.jobs.map Envelope.id
  | _ => []

def leases (p : Plane) : List Step → List String
  | [] => []
  | step :: rest => handedOut (p.perform step).answer ++ (p.next step).leases rest

end Plane

namespace Job
namespace Status

def Chain : List Status → Prop :=
  List.IsChain (fun s next => next.Follows s)

theorem eq_of_follows_terminal {s next : Status} (h : next.Follows s)
    (terminal : s.isTerminal = true) : next = s := by
  rcases h with h | h
  · exact h
  · rw [not_canBecome_of_isTerminal terminal next] at h
    cases h

theorem destutter_terminal {s : Status} {rest : List Status} (chain : Chain (s :: rest))
    (terminal : s.isTerminal = true) : rest.destutter' (· ≠ ·) s = [s] := by
  induction rest with
  | nil =>
      rfl
  | cons next rest ih =>
      rcases List.isChain_cons_cons.mp chain with ⟨follows, chain⟩
      cases eq_of_follows_terminal follows terminal
      rw [List.destutter'_cons_neg _ (by simp)]
      exact ih chain

theorem destutter_running {rest : List Status} (chain : Chain (running :: rest)) :
    ∃ final, final.isTerminal = true ∧
      rest.destutter' (· ≠ ·) running <+: [running, final] := by
  induction rest with
  | nil =>
      exact ⟨.failed, rfl, by simp⟩
  | cons next rest ih =>
      rcases List.isChain_cons_cons.mp chain with ⟨follows, chain⟩
      by_cases same : next = running
      · subst same
        rw [List.destutter'_cons_neg _ (by simp)]
        exact ih chain
      · have terminal : next.isTerminal = true := by
          rcases follows with h | h
          · exact absurd h same
          · cases next <;> simp [canBecome] at h <;> rfl
        rw [List.destutter'_cons_pos _ (Ne.symm same), destutter_terminal chain terminal]
        exact ⟨next, terminal, List.prefix_rfl⟩

theorem destutter_queued {rest : List Status} (chain : Chain (queued :: rest)) :
    (∃ final, final.isTerminal = true ∧
      rest.destutter' (· ≠ ·) queued <+: [queued, running, final]) ∨
      rest.destutter' (· ≠ ·) queued <+: [queued, cancelled] := by
  induction rest with
  | nil =>
      exact Or.inr (by simp)
  | cons next rest ih =>
      rcases List.isChain_cons_cons.mp chain with ⟨follows, chain⟩
      rcases follows with rfl | follows
      · rw [List.destutter'_cons_neg _ (by simp)]
        exact ih chain
      · cases next with
        | queued => cases follows
        | succeeded => cases follows
        | failed => cases follows
        | running =>
            rcases destutter_running chain with ⟨final, terminal, later⟩
            rw [List.destutter'_cons_pos _ (by simp)]
            exact Or.inl ⟨final, terminal, by simpa using later⟩
        | cancelled =>
            rw [List.destutter'_cons_pos _ (by simp), destutter_terminal chain rfl]
            exact Or.inr List.prefix_rfl

end Status
end Job

namespace Plane

theorem ages_next {p : Plane} {step : Step} (staged : p.state.jobStore.Staged)
    (names : step.fresh.NamesNewJobs p.state) (id : String) :
    (p.state.dossier id).Ages ((p.next step).state.dossier id) :=
  (change_next staged names id).ages

theorem ages_after {p : Plane} {steps : List Step} (staged : p.state.jobStore.Staged)
    (fresh : p.RunsFresh steps) (id : String) :
    (p.state.dossier id).Ages ((p.after steps).state.dossier id) := by
  induction steps generalizing p with
  | nil =>
      exact .refl _
  | cons step rest ih =>
      rcases fresh with ⟨names, fresh⟩
      exact (ages_next staged names id).trans (ih (staged_next staged names) fresh)

theorem status?_eq_some {p : Plane} {id : String} {s : Job.Status}
    (h : p.status? id = some s) :
    ∃ job, (p.state.dossier id).job = some job ∧ job.status = s :=
  Option.map_eq_some_iff.mp h

theorem statuses_cons (p : Plane) (step : Step) (rest : List Step) (id : String) :
    p.statuses (step :: rest) id =
      (p.status? id).toList ++ (p.next step).statuses rest id := by
  simp only [statuses, visits, List.filterMap_cons]
  cases p.status? id <;> rfl

theorem statuses_of_some {p : Plane} {id : String} {s : Job.Status}
    (h : p.status? id = some s) (steps : List Step) :
    ∃ rest, p.statuses steps id = s :: rest := by
  cases steps with
  | nil =>
      exact ⟨[], by simp [statuses, visits, h]⟩
  | cons step rest =>
      rw [statuses_cons, h]
      exact ⟨_, rfl⟩

theorem follows_next {p : Plane} {step : Step} (staged : p.state.jobStore.Staged)
    (names : step.fresh.NamesNewJobs p.state) {id : String} {s : Job.Status}
    (h : p.status? id = some s) :
    ∃ next, (p.next step).status? id = some next ∧ next.Follows s := by
  rcases status?_eq_some h with ⟨before, hbefore, rfl⟩
  have change := change_next staged names id
  rcases change.ages.origin before hbefore with ⟨after, hafter, _⟩
  exact ⟨after.status, congrArg (Option.map Job.status) hafter, change.follows hbefore hafter⟩

theorem queued_next {p : Plane} {step : Step} (staged : p.state.jobStore.Staged)
    (names : step.fresh.NamesNewJobs p.state) {id : String} {s : Job.Status}
    (missing : p.status? id = none) (h : (p.next step).status? id = some s) :
    s = .queued := by
  have before : (p.state.dossier id).job = none := Option.map_eq_none_iff.mp missing
  rcases status?_eq_some h with ⟨after, hafter, rfl⟩
  have change := change_next staged names id
  generalize (p.next step).state.dossier id = r at change hafter
  generalize p.state.dossier id = r₀ at change before
  cases change with
  | keep =>
      cases before.symm.trans hafter
  | create new name =>
      cases hafter
      exact new.2.1
  | move _ move =>
      have job := move.isSome_job
      rw [before] at job
      cases job

theorem chain_statuses {p : Plane} {steps : List Step} (staged : p.state.jobStore.Staged)
    (fresh : p.RunsFresh steps) (id : String) : Job.Status.Chain (p.statuses steps id) := by
  induction steps generalizing p with
  | nil =>
      unfold statuses visits
      cases h : p.status? id <;> simp [h, Job.Status.Chain]
  | cons step rest ih =>
      rcases fresh with ⟨names, fresh⟩
      have chain := ih (staged_next staged names) fresh
      rw [statuses_cons]
      cases h : p.status? id with
      | none =>
          exact chain
      | some s =>
          rcases follows_next staged names h with ⟨next, hnext, follows⟩
          rcases statuses_of_some hnext rest with ⟨later, hlater⟩
          rw [hlater] at chain ⊢
          exact List.isChain_cons_cons.mpr ⟨follows, chain⟩

theorem statuses_of_none {p : Plane} {steps : List Step} (staged : p.state.jobStore.Staged)
    (fresh : p.RunsFresh steps) {id : String} (missing : p.status? id = none) :
    p.statuses steps id = [] ∨ ∃ rest, p.statuses steps id = .queued :: rest := by
  induction steps generalizing p with
  | nil =>
      exact Or.inl (by simp [statuses, visits, missing])
  | cons step rest ih =>
      rcases fresh with ⟨names, fresh⟩
      rw [statuses_cons, missing]
      cases h : (p.next step).status? id with
      | none =>
          exact ih (staged_next staged names) fresh h
      | some s =>
          cases queued_next staged names missing h
          exact Or.inr (statuses_of_some h rest)

theorem history_of_none {p : Plane} {steps : List Step} (staged : p.state.jobStore.Staged)
    (fresh : p.RunsFresh steps) {id : String} (missing : p.status? id = none) :
    (∃ final, final.isTerminal = true ∧
      p.history steps id <+: [.queued, .running, final]) ∨
      p.history steps id <+: [.queued, .cancelled] := by
  unfold history
  rcases statuses_of_none staged fresh missing with none_ | ⟨rest, hrest⟩
  · rw [none_]
    exact Or.inr List.nil_prefix
  · have chain := chain_statuses staged fresh id
    rw [hrest] at chain ⊢
    exact Job.Status.destutter_queued chain

/-!
# Leases over a run

A job that is handed out was queued, and it runs from then on until it has ended, so it
is not handed out again.
-/

theorem handedOut_poll {p : Plane} (staged : p.state.jobStore.Staged) (fresh : Fresh)
    (now : Instant) (agentId : String) (limit : Option Nat) :
    ∃ (m : State) (leased : List Job),
      JobStore.Steps fresh (.lapse now) p.state.jobStore m.jobStore ∧
        State.HandsOut m (p.poll fresh agentId limit now).plane.state leased ∧
        handedOut ((p.poll fresh agentId limit now).map .work).answer =
          leased.map Job.id := by
  unfold poll
  cases hpoll : p.state.pollForWork fresh agentId (p.config.clampPollLimit limit)
      p.config.dispatchPolicy p.observers now with
  | error e =>
      exact ⟨p.state, [], .refl, State.handsOut_nil _ _, rfl⟩
  | ok success =>
      rcases success with ⟨outcome, s⟩
      rcases State.pollForWork_eq_ok staged hpoll with ⟨m, lapse, _, handsOut⟩
      refine ⟨m, outcome.leased, lapse, ?_, ?_⟩
      · have jobs : (p.store.apply (.durableIf (!outcome.leased.isEmpty ||
            !outcome.expired.isEmpty)) s).state.jobs = s.jobs :=
          congrArg JobStore.jobs (p.store.jobStore_apply _ s)
        constructor
        · exact handsOut.nodup
        · exact handsOut.queued
        · intro job hjob
          rcases handsOut.running job hjob with ⟨hget, running⟩
          exact ⟨by rw [← hget]; exact congrArg (fun t => t.get? job.id) jobs, running⟩
      · show (outcome.leased.map Envelope.ofJob).map Envelope.id = _
        rw [List.map_map]
        rfl

theorem handedOut_map {α : Type} {o : Outcome α} {f : α → Answer}
    (h : ∀ a, handedOut (.ok (f a)) = []) : handedOut (o.map f).answer = [] := by
  show handedOut (o.answer.map f) = []
  cases o.answer with
  | error e => rfl
  | ok a => exact h a

theorem handedOut_eq_nil {p : Plane} {step : Step}
    (h : ∀ agentId limit, step.operation ≠ .poll agentId limit) :
    handedOut (p.perform step).answer = [] := by
  unfold perform
  cases hop : step.operation with
  | poll agentId limit => exact absurd hop (h agentId limit)
  | _ => exact handedOut_map (fun _ => rfl)

/-- What a step hands out are different jobs, which run afterwards and not before. -/
theorem handedOut_next {p : Plane} (staged : p.state.jobStore.Staged) (step : Step) :
    (handedOut (p.perform step).answer).Nodup ∧
      ∀ id ∈ handedOut (p.perform step).answer,
        (∀ s, p.status? id = some s → s = .queued) ∧
          (p.next step).status? id = some .running := by
  by_cases poll : ∃ agentId limit, step.operation = .poll agentId limit
  · rcases poll with ⟨agentId, limit, hop⟩
    rcases
        handedOut_poll (p := { p with observers := step.observers }) staged step.fresh step.now
          agentId limit with
      ⟨m, leased, lapse, handsOut, names⟩
    have answer : handedOut (p.perform step).answer = leased.map Job.id := by
      unfold perform
      rw [hop]
      exact names
    have plane : p.next step =
        ({ p with observers := step.observers }.poll step.fresh agentId limit step.now).plane := by
      unfold next perform
      rw [hop]
      rfl
    rw [answer, plane]
    constructor
    · exact handsOut.nodup
    · intro id hid
      rcases List.mem_map.mp hid with ⟨job, hjob, rfl⟩
      rcases handsOut.running job hjob with ⟨hget, running⟩
      constructor
      · intro s hs
        rcases status?_eq_some hs with ⟨before, hbefore, rfl⟩
        rcases handsOut.queued job hjob with ⟨waiting, hwaiting, queued⟩
        rcases lapse.dossier (by simp) JobStore.not_lapse_of_lapse job.id with same | lapsed
        · have hget : (m.dossier job.id).job = some before :=
            (congrArg Dossier.job same).trans hbefore
          cases hwaiting.symm.trans hget
          exact queued
        · rw [lapsed.status_of_lapse hwaiting] at queued
          cases queued
      · simp [status?, hget, running]
  · have none_ : handedOut (p.perform step).answer = [] := by
      apply handedOut_eq_nil
      intro agentId limit hop
      exact poll ⟨agentId, limit, hop⟩
    rw [none_]
    exact ⟨List.nodup_nil, by simp⟩

theorem not_mem_leases {p : Plane} {steps : List Step} (staged : p.state.jobStore.Staged)
    (fresh : p.RunsFresh steps) {id : String} {s : Job.Status} (h : p.status? id = some s)
    (running : 1 ≤ s.rank) : id ∉ p.leases steps := by
  induction steps generalizing p s with
  | nil =>
      simp [leases]
  | cons step rest ih =>
      rcases fresh with ⟨names, fresh⟩
      intro hid
      rcases List.mem_append.mp hid with hid | hid
      · cases ((handedOut_next staged step).2 id hid).1 s h
        cases running
      · rcases follows_next staged names h with ⟨next, hnext, follows⟩
        exact ih (staged_next staged names) fresh hnext
          (Nat.le_trans running follows.rank_le) hid

theorem nodup_leases {p : Plane} {steps : List Step} (staged : p.state.jobStore.Staged)
    (fresh : p.RunsFresh steps) : (p.leases steps).Nodup := by
  induction steps generalizing p with
  | nil =>
      exact List.nodup_nil
  | cons step rest ih =>
      rcases fresh with ⟨names, fresh⟩
      have staged' := staged_next staged names
      rcases handedOut_next staged step with ⟨nodup, out⟩
      refine List.nodup_append.mpr ⟨nodup, ih staged' fresh, ?_⟩
      intro a ha b hb heq
      subst heq
      exact not_mem_leases staged' fresh (out a ha).2 (Nat.le_refl 1) hb

/-!
# The life of every job
-/

/-- In the course of a run, jobs go one way and are leased to one agent at a time. -/
structure OneWay (p : Plane) (steps : List Step) : Prop where
  leasedOnce : (p.leases steps).Nodup
  history : ∀ id, (∃ final, final.isTerminal = true ∧
      p.history steps id <+: [.queued, .running, final]) ∨
    p.history steps id <+: [.queued, .cancelled]
  ages : ∀ first second rest, steps = first ++ second ++ rest → ∀ id,
    ((p.after first).state.dossier id).Ages ((p.after (first ++ second)).state.dossier id)
  untouched : ∀ first step rest, steps = first ++ step :: rest →
    ∀ id job agentId, (p.after first).state.jobs.get? id = some job →
      job.status = .running → job.lockedBy = some agentId →
      ((p.after first).next step).state.dossier id ≠ (p.after first).state.dossier id →
      ∃ expires, job.lockExpiresAt = some expires ∧
        step.operation.MayTouch id agentId expires step.now

theorem oneWay_after {p : Plane} {steps : List Step} (empty : p.state.jobStore.IsEmpty)
    (fresh : p.RunsFresh steps) : p.OneWay steps := by
  constructor
  · exact nodup_leases empty.staged fresh
  · intro id
    apply history_of_none empty.staged fresh
    have missing : p.state.jobs.get? id = none := by
      have jobs : p.state.jobs = .empty := empty.1
      rw [jobs]
      rfl
    rw [status?, missing]
    rfl
  · intro first second rest heq id
    rw [heq, runsFresh_append, runsFresh_append] at fresh
    rcases fresh with ⟨⟨before, between⟩, _⟩
    rw [after_append]
    exact ages_after (staged_after empty.staged before) between id
  · intro first step rest heq id job agentId hjob running holder touched
    rw [heq, runsFresh_append] at fresh
    rcases fresh with ⟨before, names, _⟩
    have staged := staged_after empty.staged before
    rcases (staged id).of_running hjob running with ⟨leased, _⟩
    rcases Option.isSome_iff_exists.mp leased.2.2 with ⟨expires, ends⟩
    have change := change_next staged names id
    exact ⟨expires, ends, change.mayTouch touched hjob running holder ends⟩

def lostRun : List Step :=
  [{ fresh := .strokes 'a', now := .epoch, observers := []
     operation := .register ⟨"token", "node", [], .empty⟩ },
   { fresh := .strokes 'b', now := .epoch, observers := []
     operation := .createJob ⟨"node.reboot", .empty, none⟩ "operator" },
   { fresh := .strokes 'c', now := .epoch, observers := []
     operation := .poll "a" none },
   { fresh := .strokes 'd', now := .addSeconds .epoch 3600, observers := []
     operation := .expireStale }]

def lostPlane : Plane :=
  idle { Config.standard "" with bootstrapToken := "token" }

theorem runsFresh_lostRun : lostPlane.RunsFresh lostRun :=
  runsFresh_of_letters ⟨rfl, rfl, rfl⟩ ['a', 'b', 'c', 'd'] (by decide) rfl

def heldRun : List Step :=
  lostRun.take 3

theorem runsFresh_heldRun : lostPlane.RunsFresh heldRun ∧
    Fresh.NamesNewJobs (.strokes 'd') (lostPlane.after heldRun).state := by
  have whole : lostPlane.RunsFresh (heldRun ++ lostRun.drop 3) := runsFresh_lostRun
  rcases runsFresh_append.mp whole with ⟨held, names, -⟩
  exact ⟨held, names⟩

theorem oneWay_after_loss :
    lostPlane.state.jobStore.IsEmpty ∧ lostPlane.RunsFresh lostRun ∧
      lostPlane.leases lostRun = ["b|"] ∧
      lostPlane.history lostRun "b|" = [.queued, .running, .failed] ∧
      lostPlane.OneWay lostRun := by
  have empty : lostPlane.state.jobStore.IsEmpty := ⟨rfl, rfl, rfl⟩
  exact ⟨empty, runsFresh_lostRun, by decide +kernel, by decide +kernel,
    oneWay_after empty runsFresh_lostRun⟩

end Plane
end FleetControl
