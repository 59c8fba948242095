import FleetControl.Proofs.Effect.Order
import FleetControl.Proofs.JobStore.Operations
import FleetControl.Proofs.JobStore.Surroundings

/-!
# The result of a job and what follows from it

Events write into the inventory, the ports and the firewalls.  Of the job store they
only know how to create jobs, so the result of a job is one move of its dossier and
then the creation of jobs.
-/

namespace FleetControl

open Refusal
open Time

namespace State

variable {s s' : State} {fresh : Fresh} {now : Instant}

/-!
# Events
-/

def LacksUsage (s : State) (instanceId : String) : Prop :=
  ∃ row, s.instances.get? instanceId = some row ∧ row.diskUsedBytes = none

/-- Nothing happens, or a scan is created that is missing so far. -/
theorem requestDiskScan_eq_ok {instanceId : String} {nodeId : Option String}
    {followUp : FollowUp}
    (h : s.requestDiskScan fresh instanceId nodeId now = .ok (followUp, s')) :
    followUp = .none ∧ s' = s ∨
      s.LacksUsage instanceId ∧ s.hasPending diskScanType "instance_id" instanceId = false ∧
        ∃ target,
          followUp = .ofJobs [(s.insertJob fresh diskScanType (diskScanPayload instanceId target)
            (some "system") now).1] ∧
          s' = (s.insertJob fresh diskScanType (diskScanPayload instanceId target)
            (some "system") now).2 := by
  unfold requestDiskScan at h
  rcases bind_eq_ok.mp h with ⟨row, found, h⟩
  split at h
  · cases pure_eq_ok.mp h
    exact Or.inl ⟨rfl, rfl⟩
  · rename_i missing
    cases pure_eq_ok.mp h
    simp only [Bool.not_eq_true, Bool.or_eq_false_iff, Option.isSome_eq_false_iff,
      Option.isNone_iff_eq_none] at missing
    exact Or.inr ⟨⟨row, find_eq_ok.mp found, missing.1⟩, missing.2, _, rfl, rfl⟩

theorem created_requestDiskScan {instanceId : String} {nodeId : Option String}
    {followUp : FollowUp}
    (h : s.requestDiskScan fresh instanceId nodeId now = .ok (followUp, s')) :
    JobStore.Created fresh s.jobStore followUp.createdJobs s'.jobStore := by
  rcases requestDiskScan_eq_ok h with ⟨rfl, rfl⟩ | ⟨_, _, target, rfl, rfl⟩
  · exact .nil
  · exact created_insertJob s fresh diskScanType _ _ now

theorem created_releasePorts (s : State) (fresh : Fresh) (instanceId : String)
    (now : Instant) :
    JobStore.Created fresh s.jobStore (s.releasePorts fresh instanceId now).1.createdJobs
      (s.releasePorts fresh instanceId now).2.jobStore :=
  created_reconcileFirewalls { s with ports := (s.ports.releaseInstance instanceId now).2 }
    fresh now (s.ports.releaseInstance instanceId now).1.nodes.names

def OnlyTells (followUp : FollowUp) : Prop :=
  followUp.createdJobs = [] ∧ followUp.released = []

theorem onlyTells_none : OnlyTells .none :=
  ⟨rfl, rfl⟩

theorem onlyTells_alarm (condition : Prop) [Decidable condition] (kind : Notification.Kind)
    (subject message : String) :
    OnlyTells (if condition then .notify kind subject message else .none) := by
  split <;> exact ⟨rfl, rfl⟩

theorem onlyTells_applyNodeDisk (s : State) (thresholds : Inventory.DiskThresholds)
    (nodeId : String) (total free : Option UInt64) (error : Option String) (now : Instant) :
    OnlyTells (s.applyNodeDisk thresholds nodeId total free error now).1 := by
  unfold applyNodeDisk
  dsimp only
  split
  · exact onlyTells_none
  · unfold readDisk
    dsimp only
    split
    · exact onlyTells_alarm _ _ _ _
    · exact onlyTells_none
  · exact onlyTells_none

theorem onlyTells_of_plain {thresholds : Inventory.DiskThresholds} {event : Effect.Event}
    {followUp : FollowUp} (plain : event.isPlain = true)
    (h : s.applyEvent fresh thresholds now event = .ok (followUp, s')) : OnlyTells followUp := by
  cases event with
  | firewallApplied _ _ _ | portsReleased _ | diskScanRequested _ _ => cases plain
  | ddosPolicyApplied _ =>
      cases h
      exact onlyTells_none
  | ddosReported report =>
      have told : (s.applyDdosReport report).1 = followUp := congrArg Prod.fst (Except.ok.inj h)
      rw [← told]
      exact onlyTells_alarm _ _ _ _
  | nodeDiskReported nodeId total free error =>
      have told : (s.applyNodeDisk thresholds nodeId total free error now).1 = followUp :=
        congrArg Prod.fst (Except.ok.inj h)
      rw [← told]
      exact s.onlyTells_applyNodeDisk thresholds nodeId total free error now
  | domainStatusChanged _ _ | certificateIssued _ _ | diskScanned _ _ _ | queryChanged _ _ =>
      rcases bind_eq_ok.mp h with ⟨row, _, h⟩
      cases h
      exact onlyTells_none
  | voiceServerChanged _ _ _ | instanceChanged _ _ =>
      rcases bind_eq_ok.mp h with ⟨row, _, h⟩
      cases h
      exact onlyTells_alarm _ _ _ _
  | backupFinished _ _ _ _ =>
      rcases bind_eq_ok.mp h with ⟨row, _, h⟩
      cases h
      split <;> exact ⟨rfl, rfl⟩
  | userAnonymized _ _ =>
      rcases bind_eq_ok.mp h with ⟨user, _, h⟩
      rcases bind_eq_ok.mp h with ⟨request, _, h⟩
      cases h
      exact onlyTells_none

/-- All that is known besides what an event writes to. -/
def besides (s : State) : Effect.Event → State
  | .domainStatusChanged _ _ | .certificateIssued _ _ => { s with domains := .empty }
  | .firewallApplied _ _ _ => { s with firewalls := .empty }
  | .ddosReported _ => { s with ddosReports := .empty }
  | .ddosPolicyApplied _ => { s with ddosPolicies := .empty }
  | .voiceServerChanged _ _ _ => { s with voiceServers := .empty }
  | .instanceChanged _ _ | .diskScanned _ _ _ | .queryChanged _ _ =>
      { s with instances := .empty }
  | .diskScanRequested _ _ => s.surroundings
  | .portsReleased _ => { s.surroundings with ports := .empty }
  | .nodeDiskReported _ _ _ _ => { s with nodeDisks := .empty }
  | .backupFinished _ _ _ _ => { s with backups := .empty }
  | .userAnonymized _ _ => { s with users := .empty, deletionRequests := .empty }

/-- What an event leaves alone is read off here, and not off each event again. -/
theorem besides_applyEvent {thresholds : Inventory.DiskThresholds} {event : Effect.Event}
    {followUp : FollowUp}
    (h : s.applyEvent fresh thresholds now event = .ok (followUp, s')) :
    s'.besides event = s.besides event := by
  cases event with
  | diskScanRequested instanceId nodeId =>
      rcases requestDiskScan_eq_ok h with ⟨_, rfl⟩ | ⟨_, _, target, _, rfl⟩ <;> rfl
  | portsReleased instanceId =>
      have same := surroundings_reconcileFirewalls
        { s with ports := (s.ports.releaseInstance instanceId now).2 } fresh now
        (s.ports.releaseInstance instanceId now).1.nodes.names
      cases h
      exact congrArg (fun around => { around with ports := .empty }) same
  | firewallApplied _ _ _ | ddosReported _ | ddosPolicyApplied _ | nodeDiskReported _ _ _ _ =>
      cases h
      rfl
  | domainStatusChanged _ _ | certificateIssued _ _ | voiceServerChanged _ _ _
  | instanceChanged _ _ | diskScanned _ _ _ | queryChanged _ _ | backupFinished _ _ _ _ =>
      rcases bind_eq_ok.mp h with ⟨row, _, h⟩
      cases h
      rfl
  | userAnonymized _ _ =>
      rcases bind_eq_ok.mp h with ⟨user, _, h⟩
      rcases bind_eq_ok.mp h with ⟨request, _, h⟩
      cases h
      rfl

/-- What every event keeps is kept by all of them: one that cannot be applied changes
nothing. -/
theorem keep_applyEvents (holds : State → Prop) {thresholds : Inventory.DiskThresholds}
    {events : List Effect.Event}
    (keep : ∀ event ∈ events, ∀ m m' followUp, holds m →
      m.applyEvent fresh thresholds now event = .ok (followUp, m') → holds m')
    (first : holds s) : holds (s.applyEvents fresh thresholds now events).2.2 := by
  induction events generalizing s with
  | nil => exact first
  | cons event rest ih =>
      rcases List.forall_mem_cons.mp keep with ⟨one, others⟩
      unfold applyEvents
      split
      · rename_i followUp m applied
        exact ih others (one s m followUp first applied)
      · exact ih others first

theorem jobStore_of_plain {thresholds : Inventory.DiskThresholds} {event : Effect.Event}
    {followUp : FollowUp} (plain : event.isPlain = true)
    (h : s.applyEvent fresh thresholds now event = .ok (followUp, s')) :
    s'.jobStore = s.jobStore := by
  have same := congrArg jobStore (besides_applyEvent h)
  cases event with
  | firewallApplied _ _ _ | portsReleased _ | diskScanRequested _ _ => cases plain
  | _ => exact same

/-- All but two events leave the job store as it is. -/
theorem created_applyEvent {thresholds : Inventory.DiskThresholds} {event : Effect.Event}
    {followUp : FollowUp}
    (h : s.applyEvent fresh thresholds now event = .ok (followUp, s')) :
    JobStore.Created fresh s.jobStore followUp.createdJobs s'.jobStore := by
  cases plain : event.isPlain with
  | true =>
      rw [(onlyTells_of_plain plain h).1, jobStore_of_plain plain h]
      exact .nil
  | false =>
      cases event with
      | diskScanRequested instanceId nodeId => exact created_requestDiskScan h
      | portsReleased instanceId =>
          have created := s.created_releasePorts fresh instanceId now
          rw [Except.ok.inj h] at created
          exact created
      | firewallApplied _ _ _ =>
          cases h
          exact .nil
      | _ => cases plain

theorem created_applyEvents (s : State) (fresh : Fresh)
    (thresholds : Inventory.DiskThresholds) (now : Instant) (events : List Effect.Event) :
    JobStore.Created fresh s.jobStore
      (s.applyEvents fresh thresholds now events).1.createdJobs
      (s.applyEvents fresh thresholds now events).2.2.jobStore := by
  induction events generalizing s with
  | nil =>
      exact .nil
  | cons event rest ih =>
      unfold applyEvents
      split
      · rename_i followUp s1 happly
        exact (created_applyEvent happly).trans (ih s1)
      · exact ih s

/-!
# Taking a result in, without what follows
-/

def takeResult (s : State) (agentId jobId : String) (report : ResultReport) (maxLogLines : Nat)
    (now : Instant) : Except Error (Job × Job.Result × State) := do
  let token ← s.leaseToken agentId jobId
  checkJobId report.jobId jobId
  match Job.Status.reported? report.status with
  | none => throw (.unknownResultStatus report.status)
  | some status =>
      checkToken jobId token report.lockToken
      if s.results.contains jobId then throw (.alreadyHasResult jobId)
      s.finishJob jobId token status report maxLogLines now

def withEvents (fresh : Fresh) (policy : ReportPolicy) (now : Instant)
    (taken : Job × Job.Result × State) : Reported × State :=
  let (job, result, s) := taken
  let (followUp, skipped, s) :=
    s.applyEvents fresh policy.thresholds now (eventsOf policy.registry job result)
  ({ job := job, result := result, followUp := followUp, skipped := skipped }, s)

theorem submitResult_eq (s : State) (fresh : Fresh) (agentId jobId : String)
    (report : ResultReport) (policy : ReportPolicy) (now : Instant) :
    s.submitResult fresh agentId jobId report policy now =
      (s.takeResult agentId jobId report policy.maxLogLines now).map
        (withEvents fresh policy now) := by
  unfold submitResult takeResult
  cases s.leaseToken agentId jobId with
  | error e => rfl
  | ok token =>
      cases checkJobId report.jobId jobId with
      | error e => rfl
      | ok _ =>
          cases Job.Status.reported? report.status with
          | none => rfl
          | some status =>
              dsimp only [bind, Except.bind]
              cases checkToken jobId token report.lockToken with
              | error e => rfl
              | ok _ =>
                  dsimp only
                  split
                  · rfl
                  · cases s.finishJob jobId token status report policy.maxLogLines now <;> rfl

theorem takeResult_eq_ok {agentId id : String} {report : ResultReport} {maxLogLines : Nat}
    {job : Job} {result : Job.Result}
    (h : s.takeResult agentId id report maxLogLines now = .ok (job, result, s')) :
    ∃ token status, s.leaseToken agentId id = .ok token ∧
      Job.Status.reported? report.status = some status ∧
      s.finishJob id token status report maxLogLines now = .ok (job, result, s') := by
  unfold takeResult at h
  rcases bind_eq_ok.mp h with ⟨token, lease, h⟩
  rcases bind_eq_ok.mp h with ⟨_, _, h⟩
  split at h
  · exact absurd h throw_ne_ok
  · rename_i status reported
    rcases bind_eq_ok.mp h with ⟨_, _, h⟩
    split at h
    · rcases bind_eq_ok.mp h with ⟨_, h, _⟩
      exact absurd h throw_ne_ok
    · exact ⟨token, status, lease, reported, h⟩

/-!
# Results
-/

/-- A report that is not refused finishes the job under its lease, and then the events of
the job are applied. -/
theorem submitResult_eq_ok {agentId id : String} {report : ResultReport}
    {policy : ReportPolicy} {reported : Reported}
    (h : s.submitResult fresh agentId id report policy now = .ok (reported, s')) :
    ∃ token status job result m, s.leaseToken agentId id = .ok token ∧
      Job.Status.reported? report.status = some status ∧
      s.finishJob id token status report policy.maxLogLines now = .ok (job, result, m) ∧
      s' = (m.applyEvents fresh policy.thresholds now
        (eventsOf policy.registry job result)).2.2 := by
  rw [submitResult_eq] at h
  rcases map_eq_ok.mp h with ⟨⟨job, result, m⟩, taken, same⟩
  rcases takeResult_eq_ok taken with ⟨token, status, lease, known, finish⟩
  exact ⟨token, status, job, result, m, lease, known, finish,
    (congrArg Prod.snd same).symm⟩

theorem steps_of_submitResult {agentId id : String} {report : ResultReport}
    {policy : ReportPolicy} {reported : Reported} (staged : s.jobStore.Staged)
    (h : s.submitResult fresh agentId id report policy now = .ok (reported, s')) :
    ∃ m : State, JobStore.Step fresh (.finish agentId id) s.jobStore m.jobStore ∧
      (m.jobStore.dossier id).result = some reported.result ∧
      JobStore.Created fresh m.jobStore reported.followUp.createdJobs s'.jobStore := by
  rw [submitResult_eq] at h
  rcases map_eq_ok.mp h with ⟨⟨finished, result, m⟩, taken, same⟩
  rcases takeResult_eq_ok taken with ⟨token, status, htoken, hstatus, hfinish⟩
  rcases leaseToken_eq_ok htoken with ⟨job, hget, running, holder, htoken⟩
  rcases (staged id).of_running hget running with ⟨leased, log, hbefore⟩
  have held : job.lockToken = some token := htoken ▸ lockToken_of_leased leased
  rcases finishJob_eq_ok hbefore held hfinish with ⟨rfl, written, puts⟩
  have name : result.jobId = id := congrArg Job.Result.jobId written
  cases (congrArg Job.Result.status written : result.status = status)
  cases same
  refine ⟨m, puts.step fresh hbefore ?_, congrArg Dossier.result puts.dossier,
    created_applyEvents _ _ _ _ _⟩
  exact .finish running holder (Job.Status.isTerminal_of_reported? hstatus) name
    (fun _ => jobId_of_mem_finishLines)

end State
end FleetControl
