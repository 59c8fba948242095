import FleetControl.Proofs.JobStore.Errands
import FleetControl.Proofs.JobStore.Soundness
import FleetControl.Proofs.Plane.Closing

/-!
# Jobs that follow up

As long as producers leave to the plane what it asks for itself, no two queued or running jobs
have the same disk scanned or the same ports opened or closed on a node.  And a disk is scanned
because an instance was created or started, if it is not known how much of the disk is used.
-/

namespace FleetControl

open Time

/-- A producer orders a job of a type that the plane creates of its own accord, and the order
means some work. -/
def Operation.OrdersFollowUp : Operation → Prop
  | .createJob order _ => ∃ type work, State.jobType? order.type = some type ∧
      Job.Work.decode type order.payload = .ok work ∧ Job.IsFollowUp type
  | _ => False

namespace Plane

variable {p : Plane} {fresh : Fresh} {now : Instant} {operation : Operation} {step : Step}
  {id : String} {job : Job}

/-!
# No errand twice
-/

theorem Commits.unrepeated {change : Change} {s : State}
    (commits : p.Commits fresh now operation change s) (others : ¬ operation.OrdersFollowUp)
    (unrepeated : p.state.Unrepeated) : s.Unrepeated := by
  cases commits with
  | register registered =>
      rw [State.registerAgent_eq_ok registered]
      exact unrepeated.of_jobs rfl
  | heartbeat taken =>
      exact unrepeated.of_jobs (congrArg JobStore.jobs (State.jobStore_of_takeHeartbeat taken))
  | poll polled => exact unrepeated.of_queuesNone (State.queuesNone_pollForWork polled)
  | submitResult submitted => exact unrepeated.submitResult submitted
  | submitLogs submitted => exact unrepeated.of_queuesNone (State.queuesNone_submitLogs submitted)
  | createJob created =>
      refine unrepeated.createJob ?_ created
      intro type work known meant followUp
      exact others ⟨type, work, known, meant, followUp⟩
  | cancelJob cancelled => exact unrepeated.of_queuesNone (State.queuesNone_cancelJob cancelled)
  | expireStale => exact unrepeated.of_queuesNone (p.state.queuesNone_expireStale now)
  | ports about ports nodes => exact unrepeated.changePorts fresh now ports nodes
  | reconcileFirewall nodeId => exact unrepeated.reconcileFirewall fresh nodeId now

theorem unrepeated_next (others : ¬ step.operation.OrdersFollowUp)
    (unrepeated : p.state.Unrepeated) : (p.next step).state.Unrepeated := by
  have ends := ends_run { p with observers := step.observers } step.fresh step.now step.operation
  exact ends.state_of_commits unrepeated (fun _ _ kept => kept)
    fun _ _ commits => commits.unrepeated others unrepeated

theorem unrepeated_after {steps : List Step}
    (others : ∀ step ∈ steps, ¬ step.operation.OrdersFollowUp)
    (unrepeated : p.state.Unrepeated) : (p.after steps).state.Unrepeated := by
  induction steps generalizing p with
  | nil => exact unrepeated
  | cons step rest ih =>
      rcases List.forall_mem_cons.mp others with ⟨first, later⟩
      exact ih later (unrepeated_next first unrepeated)

/-!
# Why a disk is scanned
-/

theorem Commits.adds_noScan {change : Change} {s : State}
    (commits : p.Commits fresh now operation change s) (others : ¬ operation.OrdersFollowUp)
    (aside : operation.isResult = false) :
    State.Adds (fun type _ => type ≠ State.diskScanType) p.state s := by
  cases commits with
  | register registered =>
      rw [State.registerAgent_eq_ok registered]
      exact State.adds_of_jobs rfl
  | heartbeat taken =>
      exact State.adds_of_jobs (congrArg JobStore.jobs (State.jobStore_of_takeHeartbeat taken))
  | poll polled => exact State.adds_pollForWork polled
  | submitResult submitted => cases aside
  | submitLogs submitted => exact State.adds_submitLogs submitted
  | createJob created =>
      refine State.adds_createJob ?_ created
      intro type work known meant scan
      exact others ⟨type, work, known, meant, Or.inl scan⟩
  | cancelJob cancelled => exact State.adds_cancelJob cancelled
  | expireStale => exact p.state.adds_expireStale now
  | ports about ports nodes =>
      have adds : State.Adds (fun type _ => type ≠ State.diskScanType)
          { p.state with ports := ports }
          ({ p.state with ports := ports }.reconcileFirewalls fresh now nodes).2 :=
        State.adds_reconcileFirewalls (fun plans => plans.ne_diskScanType) fresh now nodes
      exact adds
  | reconcileFirewall nodeId =>
      exact State.adds_reconcileFirewall (fun plans => plans.ne_diskScanType) fresh nodeId now

theorem Ends.adds_noScan {q : Plane} (ends : p.Ends fresh now operation q)
    (others : ¬ operation.OrdersFollowUp) (aside : operation.isResult = false) :
    State.Adds (fun type _ => type ≠ State.diskScanType) p.state q.state :=
  ends.state_of_commits (State.adds_of_jobs rfl) (fun _ _ adds => adds)
    fun _ _ commits => commits.adds_noScan others aside

/-- The step takes in the success of a job that has created or started an instance, and how much
of its disk the instance uses is not known. -/
def ScansFor (p : Plane) (step : Step) (instanceId : String) : Prop :=
  ∃ cause nodeId action, p.succeededBy step = some cause ∧
    Job.Work.decode cause.type cause.payload = .ok (.lifecycle instanceId nodeId action) ∧
    (action = .create ∨ action = .start) ∧ p.state.LacksUsage instanceId

theorem Appears.scansFor (appears : p.Appears step id job) (standard : p.registry = .standard)
    (others : ¬ step.operation.OrdersFollowUp) (scan : job.type = State.diskScanType) :
    ∃ instanceId, job.payload.get? "instance_id" = some instanceId ∧
      p.ScansFor step instanceId := by
  rcases step with ⟨fresh, now, observers, operation⟩
  have ends := ends_run { p with observers := observers } fresh now operation
  cases operation with
  | submitResult agentId jobId report =>
      rcases p.takenBy_cases fresh now observers agentId jobId report with
        ⟨_, state⟩ | ⟨reported, s, cause, done, found, _, taken, state⟩
      · have adds : State.Adds (fun _ _ => False) p.state (p.next
            ⟨fresh, now, observers, .submitResult agentId jobId report⟩).state :=
          State.adds_of_jobs (congrArg State.jobs state)
        exact (appears.made adds).elim
      · have kept : (p.next
            ⟨fresh, now, observers, .submitResult agentId jobId report⟩).state.jobs = s.jobs := by
          rw [state]
          exact congrArg JobStore.jobs (p.store.jobStore_apply .durable s)
        have adds := (State.adds_scans_of_submitResult standard found done).trans
          (State.adds_of_jobs kept)
        rcases appears.made adds scan with
          ⟨succeeded, instanceId, nodeId, action, meant, starts, lacks, named⟩
        refine ⟨instanceId, named, cause, nodeId, action, ?_, meant, starts, lacks⟩
        simp only [succeededBy, succeeded, if_true, taken]
  | register | heartbeat | poll | submitLogs | createJob | jobDetail | cancelJob | expireStale
  | addPool | addRange | allocateBlocks | bindBlock | releaseBlock | allocatePort
  | releaseInstancePorts | reconcileFirewall =>
      exact absurd scan (appears.made (ends.adds_noScan others rfl))

/-!
# Runs
-/

/-- In every state of a run, one job at most is to scan the disk of an instance, and one to open
or to close the same ports on a node; and the scans that the run brings in have their reason. -/
structure FollowsUpOnce (p : Plane) (steps : List Step) : Prop where
  scans : ∀ first rest, steps = first ++ rest → ∀ id id' job job',
    (p.after first).state.jobs.get? id = some job →
    (p.after first).state.jobs.get? id' = some job' →
    job.isPending = true → job'.isPending = true →
    job.type = State.diskScanType → job'.type = State.diskScanType →
    job.payload.get? "instance_id" = job'.payload.get? "instance_id" → id = id'
  firewalls : ∀ first rest, steps = first ++ rest → ∀ id id' job job',
    (p.after first).state.jobs.get? id = some job →
    (p.after first).state.jobs.get? id' = some job' →
    job.isPending = true → job'.isPending = true →
    (job.type = State.openPortsType ∨ job.type = State.closePortsType) →
    job.type = job'.type → job.nodeId? = job'.nodeId? →
    job.payload.get? "ports" = job'.payload.get? "ports" → id = id'
  started : ∀ first step rest, steps = first ++ step :: rest → ∀ id job,
    (p.after first).Appears step id job → job.type = State.diskScanType →
    ∃ instanceId, job.payload.get? "instance_id" = some instanceId ∧
      (p.after first).ScansFor step instanceId

theorem followsUpOnce_after {steps : List Step} (empty : p.state.jobStore.IsEmpty)
    (standard : p.registry = .standard)
    (others : ∀ step ∈ steps, ¬ step.operation.OrdersFollowUp) : p.FollowsUpOnce steps := by
  have unrepeated : ∀ first rest, steps = first ++ rest →
      (p.after first).state.Unrepeated := by
    rintro first rest rfl
    exact unrepeated_after (fun step mem => others step (List.mem_append_left rest mem))
      (State.unrepeated_of_empty empty.1)
  constructor
  · intro first rest split id id' job job' found found' pending pending' scan scan' same
    refine unrepeated first rest split id id' job job' found found' pending pending'
      (Or.inl scan) ?_
    rw [Job.errand_of_scan scan, Job.errand_of_scan scan', same]
  · intro first rest split id id' job job' found found' pending pending' firewall type node ports
    have other : job.type ≠ State.diskScanType := by
      rcases firewall with own | own <;> rw [own] <;> decide
    refine unrepeated first rest split id id' job job' found found' pending pending'
      (Or.inr firewall) ?_
    rw [Job.errand_of_ne other, Job.errand_of_ne (type ▸ other), type, node, ports]
  · rintro first step rest rfl id job appears scan
    refine appears.scansFor ?_ (others step (by simp)) scan
    rw [registry_after]
    exact standard

/-!
# An instance that is created and started

The disk of the instance is to be scanned once it is created.  The scan still runs when the
instance is started, so it is not asked for again.
-/

def unscanned : State :=
  { State.empty with
    instances := .ofList [("i1", ⟨"i1", "c1", "a", .stopped, none, none, none, none, none⟩)] }

def unscannedPlane : Plane :=
  { idle { Config.standard "" with bootstrapToken := "token" } with
    store := { Store.inMemory with state := unscanned } }

def scanRun : List Step :=
  [{ fresh := .strokes 'a', now := .epoch, observers := []
     operation := .register ⟨"token", "node", [], .empty⟩ },
   { fresh := .strokes 'b', now := .epoch, observers := []
     operation := .createJob ⟨"instance.create", .ofList [("instance_id", "i1")], none⟩
       "operator" },
   { fresh := .strokes 'c', now := .epoch, observers := [], operation := .poll "a" none },
   { fresh := .strokes 'd', now := .epoch, observers := []
     operation := .submitResult "a" "b|" ⟨"b|", "succeeded", none, .empty, none⟩ },
   { fresh := .strokes 'e', now := .epoch, observers := [], operation := .poll "a" none },
   { fresh := .strokes 'f', now := .epoch, observers := []
     operation := .createJob ⟨"instance.start", .ofList [("instance_id", "i1")], none⟩
       "operator" },
   { fresh := .strokes 'g', now := .epoch, observers := [], operation := .poll "a" none },
   { fresh := .strokes 'h', now := .epoch, observers := []
     operation := .submitResult "a" "f|||" ⟨"f|||", "succeeded", none, .empty, none⟩ }]

theorem with_standardLeads (standard : p.registry = .standard) :
    p = { p with
      registry :=
        { Effect.Registry.standard with leads := Effect.Registry.standardLeads } } := by
  rw [← Effect.Registry.standard_eq, ← standard]

theorem not_ordersFollowUp_scanRun :
    ∀ step ∈ scanRun, ¬ step.operation.OrdersFollowUp := by
  have create : State.jobType? "instance.create" = some "instance.create" := by decide +kernel
  have start : State.jobType? "instance.start" = some "instance.start" := by decide +kernel
  simp [scanRun, Operation.OrdersFollowUp, Job.IsFollowUp, create, start, State.diskScanType,
    State.openPortsType, State.closePortsType]

theorem followsUpOnce_after_start :
    unscannedPlane.state.jobStore.IsEmpty ∧ unscannedPlane.registry = .standard ∧
      (∀ step ∈ scanRun, ¬ step.operation.OrdersFollowUp) ∧
      (unscannedPlane.succeeded scanRun).map Job.type = ["instance.create", "instance.start"] ∧
      ((unscannedPlane.after scanRun).state.jobs.values.filter Job.isPending).map
        (fun job => (job.id, job.type)) = [("d||", State.diskScanType)] ∧
      unscannedPlane.FollowsUpOnce scanRun := by
  have empty : unscannedPlane.state.jobStore.IsEmpty := ⟨rfl, rfl, rfl⟩
  have standard : unscannedPlane.registry = .standard := rfl
  refine ⟨empty, standard, not_ordersFollowUp_scanRun, ?_, ?_,
    followsUpOnce_after empty standard not_ordersFollowUp_scanRun⟩
  · rw [with_standardLeads standard]
    decide +kernel
  · rw [with_standardLeads standard]
    decide +kernel

end Plane
end FleetControl
