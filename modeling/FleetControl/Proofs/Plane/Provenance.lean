import FleetControl.Proofs.JobStore.Provenance
import FleetControl.Proofs.Plane.Jobs
import FleetControl.Proofs.Plane.Network
import FleetControl.Proofs.Plane.Run

/-!
# Where the jobs of a run come from

Every job that is in the store after a run was there before, or it appeared in one of the steps
of the run.  What appears in an order has a meaning; whatever else appears was made for the
ports as they are after the step, and for the firewalls as they were before it.
-/

namespace FleetControl

open Time

def Operation.isOrder : Operation → Bool
  | .createJob _ _ => true
  | _ => false

theorem Operation.not_isOrder {operation : Operation} (about : operation.isOnPorts = true) :
    operation.isOrder = false := by
  cases operation <;> first | rfl | cases about

namespace Plane

variable {p : Plane} {fresh : Fresh} {now : Instant} {operation : Operation}

/-!
# One operation
-/

theorem Commits.adds_ordered {change : Change} {s : State}
    (commits : p.Commits fresh now operation change s) (order : operation.isOrder = true) :
    State.Adds (fun type payload => ∃ work, Job.Work.decode type payload = .ok work)
      p.state s := by
  cases commits with
  | createJob created => exact State.adds_createJob (fun _ meant => ⟨_, meant⟩) created
  | ports about ports nodes => cases (Operation.not_isOrder about).symm.trans order
  | register | heartbeat | poll | submitResult | submitLogs | cancelJob | expireStale
  | reconcileFirewall => cases order

theorem Commits.adds_own {change : Change} {s : State}
    (commits : p.Commits fresh now operation change s) (standard : p.registry = .standard)
    (own : operation.isOrder = false) :
    State.Adds (p.state.planned s).Makes p.state s := by
  cases commits with
  | register registered =>
      rw [State.registerAgent_eq_ok registered]
      exact State.adds_of_jobs rfl
  | heartbeat taken =>
      exact State.adds_of_jobs (congrArg JobStore.jobs (State.jobStore_of_takeHeartbeat taken))
  | poll polled => exact State.adds_pollForWork polled
  | submitResult submitted => exact State.adds_submitResult standard submitted
  | submitLogs submitted => exact State.adds_submitLogs submitted
  | createJob created => cases own
  | cancelJob cancelled => exact State.adds_cancelJob cancelled
  | expireStale => exact p.state.adds_expireStale now
  | ports about ports nodes => exact p.state.adds_changePorts fresh now ports nodes
  | reconcileFirewall nodeId =>
      have adds : State.Adds p.state.network.Makes p.state
          (p.state.reconcileFirewall fresh nodeId now).2 :=
        State.adds_reconcileFirewall (fun plans => .firewall plans) fresh nodeId now
      exact adds.planned (p.state.network_reconcileFirewall fresh nodeId now)

theorem Ends.adds_ordered {q : Plane} (ends : p.Ends fresh now operation q)
    (order : operation.isOrder = true) :
    State.Adds (fun type payload => ∃ work, Job.Work.decode type payload = .ok work)
      p.state q.state :=
  ends.state_of_commits (State.adds_of_jobs rfl) (fun _ _ adds => adds)
    fun _ _ commits => commits.adds_ordered order

theorem Ends.adds_own {q : Plane} (ends : p.Ends fresh now operation q)
    (standard : p.registry = .standard) (own : operation.isOrder = false) :
    State.Adds (p.state.planned q.state).Makes p.state q.state :=
  ends.state_of_commits (P := fun s => State.Adds (p.state.planned s).Makes p.state s)
    (State.adds_of_jobs rfl) (fun _ _ adds => adds)
    fun _ _ commits => commits.adds_own standard own

/-!
# One step
-/

structure Appears (p : Plane) (step : Step) (id : String) (job : Job) : Prop where
  new : ∀ before, p.state.jobs.get? id = some before → ¬ before.SameOrigin job
  found : ∃ row, (p.next step).state.jobs.get? id = some row ∧ row.SameOrigin job

variable {step : Step} {id : String} {job : Job}

theorem Appears.made {made : String → Payload → Prop} (appears : p.Appears step id job)
    (adds : State.Adds made p.state (p.next step).state) : made job.type job.payload := by
  rcases appears.found with ⟨row, found, origin⟩
  rcases adds id row found with ⟨before, was, origin'⟩ | new
  · exact absurd (origin'.trans origin) (appears.new before was)
  · rw [← origin.2.1, ← origin.2.2.1]
    exact new

theorem Appears.meant (appears : p.Appears step id job) (order : step.operation.isOrder = true) :
    ∃ work, Job.Work.decode job.type job.payload = .ok work :=
  appears.made ((ends_run { p with observers := step.observers } step.fresh step.now
    step.operation).adds_ordered order)

def planned (p : Plane) (step : Step) : Network :=
  p.state.planned (p.next step).state

theorem Appears.makes (appears : p.Appears step id job) (standard : p.registry = .standard)
    (own : step.operation.isOrder = false) : (p.planned step).Makes job.type job.payload :=
  appears.made ((ends_run { p with observers := step.observers } step.fresh step.now
    step.operation).adds_own standard own)

/-!
# Runs
-/

/-- A job that is there after a run was there before, or has appeared in a step of it. -/
theorem appears_of_stored {steps : List Step}
    (stored : (p.after steps).state.jobs.get? id = some job) :
    (∃ before, p.state.jobs.get? id = some before ∧ before.SameOrigin job) ∨
      ∃ first step rest, steps = first ++ step :: rest ∧ (p.after first).Appears step id job := by
  induction steps generalizing p with
  | nil => exact Or.inl ⟨job, stored, .refl job⟩
  | cons step rest ih =>
      rcases ih stored with there | ⟨first, later, more, split, appears⟩
      · by_cases old : ∃ before, p.state.jobs.get? id = some before ∧ before.SameOrigin job
        · exact Or.inl old
        · refine Or.inr ⟨[], step, rest, rfl, ?_, there⟩
          exact fun before was origin => old ⟨before, was, origin⟩
      · exact Or.inr ⟨step :: first, later, more, congrArg (step :: ·) split, appears⟩

theorem sound_planned (standard : p.registry = .standard) (sound : p.state.network.Sound)
    (step : Step) : (p.planned step).Sound := by
  have all : p.registry.All Effect.Handler.KeepsToWork :=
    standard ▸ Effect.Registry.keepsToWork_standard
  exact ⟨(sound_next all sound).ports, sound.managed⟩

end Plane
end FleetControl
