import FleetControl.Proofs.Firewall.Results
import FleetControl.Proofs.JobStore.Lifecycle
import FleetControl.Proofs.Plane.Reconcile

/-!
# Settling

A plane settles when agents poll for the firewall jobs that are there and report that they
have succeeded, and nothing else is asked of it.  Each report is an act on the firewall of
its node, so a whole run of them is a list of acts, in the order of the reports.  The jobs
behind these acts are the ones that were pending at the start.
-/

namespace FleetControl

open Firewall
open Time

namespace State

theorem Enacts.apply {s s' : State} {acts : String → List Act} (h : s.Enacts acts s')
    (store : Store) (change : Change) : s.Enacts acts (store.apply change s').state := by
  have jobs : (store.apply change s').state.jobs = s'.jobs :=
    congrArg JobStore.jobs (store.jobStore_apply change s')
  have kept : s'.Enacts (fun _ => []) (store.apply change s').state :=
    enacts_nothing (store.network_apply change s') fun id missing => jobs ▸ missing
  simpa using h.trans kept

end State

namespace Plane

variable {p : Plane} {nodeId : String}

/-!
# Runs that settle
-/

def SettlesBy (p : Plane) (step : Step) : Prop :=
  match step.operation with
  | .poll _ _ => True
  | .submitResult _ jobId report =>
      Job.Status.reported? report.status = some .succeeded ∧
        ∃ job ∈ p.state.jobs.get? jobId, job.IsFirewall
  | _ => False

/-- Nothing else happens in a run. -/
def OnlySettles (p : Plane) : List Step → Prop
  | [] => True
  | step :: rest => p.SettlesBy step ∧ (p.next step).OnlySettles rest

def takenBy (p : Plane) (step : Step) : Option Job :=
  match step.operation, (p.perform step).answer with
  | .submitResult _ jobId _, .ok _ => p.state.jobs.get? jobId
  | _, _ => none

def taken (p : Plane) : List Step → List Job
  | [] => []
  | step :: rest => (p.takenBy step).toList ++ (p.next step).taken rest

def acts (p : Plane) (nodeId : String) (steps : List Step) : List Act :=
  (p.taken steps).filterMap (Job.act? nodeId)

/-- All firewall jobs of a node that are queued or running are reported to have succeeded,
in any order, and nothing else happens but polls. -/
structure Settles (p : Plane) (nodeId : String) (steps : List Step) : Prop where
  only : p.OnlySettles steps
  all : ∀ job ∈ p.state.jobs.values, job.isPending = true → job.IsFirewall →
    job.nodeId? = some nodeId → ∃ reported ∈ p.taken steps, reported.id = job.id

/-!
# One step
-/

section Report

variable {fresh : Fresh} {now : Instant} {observers : List Observer} {agentId jobId id : String}
  {report : ResultReport} {limit : Option Nat}

theorem takenBy_of_error {e : Error}
    (h : p.state.submitResult fresh agentId jobId report p.reportPolicy now = .error e) :
    p.takenBy ⟨fresh, now, observers, .submitResult agentId jobId report⟩ = none ∧
      (p.next ⟨fresh, now, observers, .submitResult agentId jobId report⟩).state = p.state := by
  let q : Plane := { p with observers := observers }
  have refused : q.submitResult fresh agentId jobId report now = q.refuse e := by
    rw [submitResult, show q.state.submitResult _ _ _ _ q.reportPolicy _ = _ from h]
    rfl
  have performed : p.perform ⟨fresh, now, observers, .submitResult agentId jobId report⟩ =
      q.refuse e := congrArg (Outcome.map _) refused
  rw [takenBy, next, performed]
  exact ⟨rfl, rfl⟩

theorem takenBy_of_ok {reported : Reported} {s : State}
    (h : p.state.submitResult fresh agentId jobId report p.reportPolicy now = .ok (reported, s)) :
    p.takenBy ⟨fresh, now, observers, .submitResult agentId jobId report⟩ =
        p.state.jobs.get? jobId ∧
      (p.next ⟨fresh, now, observers, .submitResult agentId jobId report⟩).state =
        (p.store.apply .durable s).state := by
  let q : Plane := { p with observers := observers }
  have taken : (q.submitResult fresh agentId jobId report now).answer = .ok () ∧
      (q.submitResult fresh agentId jobId report now).plane.store = q.store.apply .durable s := by
    rw [submitResult, show q.state.submitResult _ _ _ _ q.reportPolicy _ = _ from h]
    exact ⟨rfl, rfl⟩
  have answer : (p.perform
      ⟨fresh, now, observers, .submitResult agentId jobId report⟩).answer = .ok .done :=
    congrArg (Except.map _) taken.1
  rw [takenBy, answer]
  exact ⟨rfl, congrArg Store.state taken.2⟩

theorem takenBy_cases (p : Plane) (fresh : Fresh) (now : Instant) (observers : List Observer)
    (agentId jobId : String) (report : ResultReport) :
    p.takenBy ⟨fresh, now, observers, .submitResult agentId jobId report⟩ = none ∧
        (p.next ⟨fresh, now, observers, .submitResult agentId jobId report⟩).state = p.state ∨
      ∃ reported s job,
        p.state.submitResult fresh agentId jobId report p.reportPolicy now = .ok (reported, s) ∧
        p.state.jobs.get? jobId = some job ∧ job.status = .running ∧
        p.takenBy ⟨fresh, now, observers, .submitResult agentId jobId report⟩ = some job ∧
        (p.next ⟨fresh, now, observers, .submitResult agentId jobId report⟩).state =
          (p.store.apply .durable s).state := by
  cases done : p.state.submitResult fresh agentId jobId report p.reportPolicy now with
  | error e => exact Or.inl (takenBy_of_error done)
  | ok success =>
      rcases success with ⟨reported, s⟩
      rcases State.running_of_submitResult done with ⟨job, found, running⟩
      refine Or.inr ⟨reported, s, job, rfl, found, running, ?_, (takenBy_of_ok done).2⟩
      exact (takenBy_of_ok done).1.trans found

theorem jobs_poll (staged : p.state.jobStore.Staged)
    (missing : p.state.jobs.get? id = none) :
    (p.poll fresh agentId limit now).plane.state.jobs.get? id = none := by
  unfold poll
  cases polled : p.state.pollForWork fresh agentId (p.config.clampPollLimit limit)
      p.config.dispatchPolicy p.observers now with
  | error e => exact missing
  | ok success =>
      rcases success with ⟨outcome, s⟩
      rcases State.pollForWork_eq_ok staged polled with ⟨m, lapse, lease, _⟩
      have jobs : (p.store.apply (.durableIf (!outcome.leased.isEmpty ||
          !outcome.expired.isEmpty)) s).state.jobs = s.jobs :=
        congrArg JobStore.jobs (p.store.jobStore_apply _ s)
      exact (congrArg (fun jobs => jobs.get? id) jobs).trans
        (lease.missing (by simp) (lapse.missing (by simp) missing))

end Report

/-- A step of a run that settles does what the job says whose result it takes in. -/
theorem enacts_next {step : Step} (staged : p.state.jobStore.Staged)
    (standard : p.registry = .standard) (settles : p.SettlesBy step) :
    p.state.Enacts (fun nodeId => ((p.takenBy step).bind (Job.act? nodeId)).toList)
      (p.next step).state := by
  rcases step with ⟨fresh, now, observers, operation⟩
  cases operation with
  | poll agentId limit =>
      let q : Plane := { p with observers := observers }
      have network := (ends_run q fresh now (.poll agentId limit)).network rfl
      exact State.enacts_nothing network
        fun id missing => jobs_poll (p := q) staged missing
  | submitResult agentId jobId report =>
      rcases settles with ⟨succeeded, job, found, firewall⟩
      rcases p.takenBy_cases fresh now observers agentId jobId report with
        ⟨taken, state⟩ | ⟨reported, s, _, done, there, _, taken, state⟩
      · rw [taken, state]
        exact State.enacts_nothing rfl fun _ missing => missing
      · cases found.symm.trans there
        rw [taken, state]
        exact (State.enacts_submitResult staged standard succeeded found firewall done).apply
          p.store .durable
  | register | heartbeat | submitLogs | createJob | jobDetail | cancelJob | expireStale
  | addPool | addRange | allocateBlocks | bindBlock | releaseBlock | allocatePort
  | releaseInstancePorts | reconcileFirewall => cases settles

theorem running_of_takenBy {step : Step} {job : Job} (h : p.takenBy step = some job) :
    ∃ id, p.state.jobs.get? id = some job ∧ job.status = .running := by
  rcases step with ⟨fresh, now, observers, operation⟩
  cases operation with
  | submitResult agentId jobId report =>
      rcases p.takenBy_cases fresh now observers agentId jobId report with
        ⟨taken, _⟩ | ⟨_, _, held, _, found, running, taken, _⟩
      · cases taken.symm.trans h
      · cases taken.symm.trans h
        exact ⟨jobId, found, running⟩
  | register | heartbeat | poll | submitLogs | createJob | jobDetail | cancelJob | expireStale
  | addPool | addRange | allocateBlocks | bindBlock | releaseBlock | allocatePort
  | releaseInstancePorts | reconcileFirewall => cases h

/-!
# Whole runs
-/

theorem enacts_after {steps : List Step} (staged : p.state.jobStore.Staged)
    (fresh : p.RunsFresh steps) (standard : p.registry = .standard)
    (only : p.OnlySettles steps) :
    p.state.Enacts (fun nodeId => p.acts nodeId steps) (p.after steps).state := by
  induction steps generalizing p with
  | nil => exact State.enacts_nothing rfl fun _ missing => missing
  | cons step rest ih =>
      rcases fresh with ⟨names, fresh⟩
      rcases only with ⟨settles, only⟩
      have others := ih (staged_next staged names) fresh ((p.registry_next step).trans standard)
        only
      have acts : (fun nodeId => p.acts nodeId (step :: rest)) = fun nodeId =>
          ((p.takenBy step).bind (Job.act? nodeId)).toList ++ (p.next step).acts nodeId rest := by
        funext nodeId
        rw [Plane.acts, taken, List.filterMap_append, Plane.acts]
        cases p.takenBy step <;> rfl
      rw [acts]
      exact (enacts_next staged standard settles).trans others

theorem name_of_staged (staged : p.state.jobStore.Staged) {id : String} {job : Job}
    (h : p.state.jobs.get? id = some job) : job.id = id :=
  (staged id).sound.name job h

theorem sameOrigin_of_mem_taken {steps : List Step} (staged : p.state.jobStore.Staged)
    (fresh : p.RunsFresh steps) {job reported : Job} (mem : reported ∈ p.taken steps)
    (h : p.state.jobs.get? reported.id = some job) : job.SameOrigin reported := by
  induction steps generalizing p job with
  | nil => cases mem
  | cons step rest ih =>
      rcases fresh with ⟨names, fresh⟩
      rcases List.mem_append.mp mem with mem | mem
      · rcases running_of_takenBy (Option.mem_toList.mp mem) with ⟨id, found, _⟩
        cases name_of_staged staged found
        cases h.symm.trans found
        exact .refl _
      · rcases (ages_next staged names reported.id).origin job h with ⟨later, hlater, same⟩
        exact same.trans (ih (staged_next staged names) fresh mem hlater)

theorem pending_of_mem_taken {steps : List Step} (staged : p.state.jobStore.Staged)
    (fresh : p.RunsFresh steps) (standard : p.registry = .standard)
    (only : p.OnlySettles steps) {reported : Job} (mem : reported ∈ p.taken steps) :
    ∃ job, p.state.jobs.get? reported.id = some job ∧ job.isPending = true ∧
      job.SameOrigin reported := by
  induction steps generalizing p with
  | nil => cases mem
  | cons step rest ih =>
      rcases List.mem_append.mp mem with now | later
      · rcases running_of_takenBy (Option.mem_toList.mp now) with ⟨id, found, running⟩
        cases name_of_staged staged found
        exact ⟨reported, found, by simp [Job.isPending, running, Job.Status.isPending,
          Job.Status.isTerminal], .refl reported⟩
      · rcases ih (staged_next staged fresh.1) fresh.2 ((p.registry_next step).trans standard)
          only.2 later with ⟨job, found, pending, same⟩
        cases before : p.state.jobs.get? reported.id with
        | none =>
            have missing := (enacts_next staged standard only.1).jobs reported.id before
            cases missing.symm.trans found
        | some earlier =>
            have ages := ages_next staged fresh.1 reported.id
            refine ⟨earlier, rfl, ?_, sameOrigin_of_mem_taken staged fresh mem before⟩
            cases ended : earlier.status.isTerminal with
            | false => simp [Job.isPending, Job.Status.isPending, ended]
            | true =>
                have stayed := congrArg Dossier.job (ages.ended earlier before ended)
                cases (found.symm.trans stayed).trans before
                exact pending

/-- A settled run has a word on every rule that a pending job asks for. -/
theorem lastWord_ne_none_of_asks {steps : List Step} {type id : String} {rules : List Port.Rule}
    {job : Job} (staged : p.state.jobStore.Staged) (fresh : p.RunsFresh steps)
    (settles : p.Settles nodeId steps) (trimmed : Text.trim nodeId = nodeId)
    (named : nodeId ≠ "") (firewall : type = State.openPortsType ∨ type = State.closePortsType)
    (positive : ∀ r ∈ rules, r.port ≠ 0) (found : p.state.jobs.get? id = some job)
    (asks : State.Asks type nodeId rules job) :
    ∀ r ∈ rules, lastWord r (p.acts nodeId steps) ≠ none := by
  intro r hr none_
  have family : job.IsFirewall := by rw [Job.IsFirewall, asks.type]; exact firewall
  rcases settles.all job (Table.mem_values_iff.mpr ⟨id, found⟩) asks.pending family asks.node with
    ⟨reported, mem, name⟩
  rw [← name_of_staged staged found, ← name] at found
  have meant := Job.Work.decode_of_ports family asks.node trimmed named asks.ports
    (List.ne_nil_of_mem hr) positive
  have act : reported.act? nodeId = some (job.actWith rules) := by
    rw [← Job.act?_congr (sameOrigin_of_mem_taken staged fresh mem found), Job.act?, meant]
    exact if_pos rfl
  exact lastWord_eq_none_iff.mp none_ (job.actWith rules) (List.mem_filterMap.mpr
    ⟨reported, mem, act⟩) hr

end Plane
end FleetControl
