import FleetControl.Proofs.JobStore.Results
import FleetControl.Proofs.Plane.Commits
import FleetControl.Proofs.State.Agents

/-!
# What the plane does to the job store

Every operation of the plane has one of the effects on the job store that are known
for it.  An operation that is refused changes nothing.
-/

namespace FleetControl

open Time

theorem Store.jobStore_apply (store : Store) (change : Change) (s : State) :
    (store.apply change s).state.jobStore = s.jobStore := by
  rcases store.state_apply change s with ⟨revision, same⟩
  rw [same]
  rfl

theorem State.jobStore_of_takeHeartbeat {s s' : State} {agentId : String} {beat : Heartbeat}
    {ip : Option String} {windows durable : Bool} {now : Instant}
    (h : s.takeHeartbeat agentId beat ip windows now = .ok (durable, s')) :
    s'.jobStore = s.jobStore := by
  rcases takeHeartbeat_eq_ok h with ⟨agent, status, openPorts, _, _, _, _, _, rfl⟩
  rfl

namespace Plane

variable {p : Plane} {fresh : Fresh} {now : Instant} {operation : Operation}

/-!
# All operations
-/

theorem Commits.effect {change : Change} {s : State}
    (commits : p.Commits fresh now operation change s) (staged : p.state.jobStore.Staged) :
    JobStore.Effect fresh now operation p.state.jobStore s.jobStore := by
  cases commits with
  | register registered =>
      rw [State.registerAgent_eq_ok registered]
      exact .creations .refl
  | heartbeat taken =>
      rw [State.jobStore_of_takeHeartbeat taken]
      exact .creations .refl
  | poll polled =>
      rcases State.pollForWork_eq_ok staged polled with ⟨m, lapse, lease, _⟩
      exact .poll lapse lease
  | submitResult submitted =>
      rcases State.steps_of_submitResult staged submitted with ⟨m, finish, _, created⟩
      exact .finish finish created.steps
  | submitLogs submitted =>
      exact .progress (State.step_of_submitLogs fresh staged submitted)
  | createJob created =>
      exact .creations (State.created_createJob created).steps
  | cancelJob cancelled =>
      exact .withdraw (State.step_of_cancelJob fresh staged cancelled)
  | expireStale =>
      exact .sweep (State.steps_of_expireStale staged)
  | ports about ports nodes =>
      exact .creations
        (State.created_reconcileFirewalls { p.state with ports := ports } fresh now nodes).steps
  | reconcileFirewall nodeId =>
      exact .creations (p.state.created_reconcileFirewall fresh nodeId now).steps

theorem Ends.effect {q : Plane} (ends : p.Ends fresh now operation q)
    (staged : p.state.jobStore.Staged) :
    JobStore.Effect fresh now operation p.state.jobStore q.state.jobStore := by
  apply ends.state_ind (P := fun s =>
    JobStore.Effect fresh now operation p.state.jobStore s.jobStore)
  · exact .creations .refl
  · intro change s commits
    rw [Store.jobStore_apply]
    exact commits.effect staged

theorem effect_next (p : Plane) (step : Step) (staged : p.state.jobStore.Staged) :
    JobStore.Effect step.fresh step.now step.operation p.state.jobStore
      (p.next step).state.jobStore :=
  (ends_run { p with observers := step.observers } step.fresh step.now
    step.operation).effect staged

/-- A step changes each dossier at most once, and stages go on to stages. -/
theorem change_next {p : Plane} {step : Step} (staged : p.state.jobStore.Staged)
    (names : step.fresh.NamesNewJobs p.state) (id : String) :
    Dossier.Change step.fresh step.now step.operation id (p.state.dossier id)
      ((p.next step).state.dossier id) :=
  (p.effect_next step staged).change staged names.2 id

theorem staged_next {p : Plane} {step : Step} (staged : p.state.jobStore.Staged)
    (names : step.fresh.NamesNewJobs p.state) : (p.next step).state.jobStore.Staged :=
  fun id => (change_next staged names id).stage (staged id)

/-!
# Names

A name that no two steps give is fresh whenever it is given, so a run of steps that
name jobs apart from one another is a fresh run.
-/

theorem jobs_next {p : Plane} {step : Step} (staged : p.state.jobStore.Staged)
    (names : step.fresh.NamesNewJobs p.state) {id : String}
    (missing : p.state.jobs.get? id = none) (unnamed : ∀ n, id ≠ step.fresh.job n) :
    (p.next step).state.jobs.get? id = none := by
  have before : (p.state.dossier id).job = none := missing
  have change := change_next staged names id
  show ((p.next step).state.dossier id).job = none
  generalize (p.next step).state.dossier id = after at change
  generalize p.state.dossier id = r at change before
  cases change with
  | keep =>
      exact before
  | @create job new name =>
      exact absurd (name.symm.trans new.1) (unnamed job.seq)
  | move _ move =>
      have job := move.isSome_job
      rw [before] at job
      cases job

theorem runsFresh_of_apart {p : Plane} {steps : List Step}
    (staged : p.state.jobStore.Staged)
    (injective : ∀ step ∈ steps, ∀ m n, step.fresh.job m = step.fresh.job n → m = n)
    (apart : steps.Pairwise (fun a b => ∀ m n, b.fresh.job m ≠ a.fresh.job n))
    (missing : ∀ step ∈ steps, ∀ n, p.state.jobs.get? (step.fresh.job n) = none) :
    p.RunsFresh steps := by
  induction steps generalizing p with
  | nil =>
      trivial
  | cons step rest ih =>
      rcases List.pairwise_cons.mp apart with ⟨first, later⟩
      have names : step.fresh.NamesNewJobs p.state :=
        ⟨injective step List.mem_cons_self, missing step List.mem_cons_self⟩
      refine ⟨names, ih (staged_next staged names) ?_ later ?_⟩
      · intro other hother
        exact injective other (List.mem_cons_of_mem _ hother)
      · intro other hother n
        refine jobs_next staged names (missing other (List.mem_cons_of_mem _ hother) n) ?_
        exact first other hother n

end Plane
end FleetControl
