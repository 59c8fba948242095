import FleetControl.Proofs.Firewall.Requests
import FleetControl.Proofs.JobStore.Provenance

/-!
# Errands

A job that the plane creates of its own accord is on an errand: it is to scan the disk of an
instance, or to open or to close ports on a node.  Before a job is created, all queued and
running jobs are looked through for one that is on the same errand.  So no two of them are ever
on the same errand, whatever happens to jobs in between.
-/

namespace FleetControl

open Port
open Refusal
open Time

/-!
# What a job is for
-/

structure Errand where
  type : String
  target : Option String
  ports : Option String

namespace Job

def IsFollowUp (type : String) : Prop :=
  type = State.diskScanType ∨ type = State.openPortsType ∨ type = State.closePortsType

def errand (job : Job) : Errand :=
  if job.type = State.diskScanType then
    { type := job.type, target := job.payload.get? "instance_id", ports := none }
  else { type := job.type, target := job.nodeId?, ports := job.payload.get? "ports" }

variable {a b job : Job}

theorem errand_of_scan (scan : job.type = State.diskScanType) :
    job.errand = ⟨State.diskScanType, job.payload.get? "instance_id", none⟩ := by
  rw [errand, if_pos scan, scan]

theorem errand_of_ne (other : job.type ≠ State.diskScanType) :
    job.errand = ⟨job.type, job.nodeId?, job.payload.get? "ports"⟩ := by
  rw [errand, if_neg other]

theorem type_errand (job : Job) : job.errand.type = job.type := by
  unfold errand
  split <;> rfl

theorem SameOrigin.errand (origin : a.SameOrigin b) : a.errand = b.errand := by
  rcases origin with ⟨_, type, payload, _⟩
  rw [Job.errand, Job.errand, nodeId?, nodeId?, type, payload]

end Job

namespace State

variable {s m s' : State} {fresh : Fresh} {now : Instant} {type : String}

/-- A queued or running job is on the errand. -/
def Pursues (s : State) (errand : Errand) : Prop :=
  ∃ id job, s.jobs.get? id = some job ∧ job.isPending = true ∧ job.errand = errand

/-- No two queued or running jobs that the plane creates of its own accord are on the same
errand. -/
def Unrepeated (s : State) : Prop :=
  ∀ id id' job job', s.jobs.get? id = some job → s.jobs.get? id' = some job' →
    job.isPending = true → job'.isPending = true → Job.IsFollowUp job.type →
    job.errand = job'.errand → id = id'

theorem unrepeated_of_empty (empty : s.jobs = .empty) : s.Unrepeated := by
  intro id id' job job' found
  rw [empty] at found
  cases found

theorem Unrepeated.of_jobs (unrepeated : s.Unrepeated) (same : s'.jobs = s.jobs) :
    s'.Unrepeated := by
  unfold Unrepeated
  rw [same]
  exact unrepeated

/-!
# No new errands
-/

def QueuesNone (s s' : State) : Prop :=
  ∀ id job, s'.jobs.get? id = some job → job.isPending = true →
    ∃ before, s.jobs.get? id = some before ∧ before.isPending = true ∧ before.SameOrigin job

theorem QueuesNone.trans (first : s.QueuesNone m) (second : m.QueuesNone s') :
    s.QueuesNone s' := by
  intro id job found pending
  rcases second id job found pending with ⟨between, there, waits, origin⟩
  rcases first id between there waits with ⟨before, was, waited, origin'⟩
  exact ⟨before, was, waited, origin'.trans origin⟩

theorem Unrepeated.of_queuesNone (unrepeated : s.Unrepeated) (none_ : s.QueuesNone s') :
    s'.Unrepeated := by
  intro id id' job job' found found' pending pending' followUp same
  rcases none_ id job found pending with ⟨before, was, waited, origin⟩
  rcases none_ id' job' found' pending' with ⟨before', was', waited', origin'⟩
  have errands : before.errand = before'.errand :=
    origin.errand.trans (same.trans origin'.errand.symm)
  rw [← origin.2.1] at followUp
  exact unrepeated id id' before before' was was' waited waited' followUp errands

theorem queuesNone_of_revises {allowed : String → Job → Job → Prop}
    (revises : ∀ id, Revises (allowed id) id s s')
    (waited : ∀ id before after, allowed id before after → after.isPending = true →
      before.isPending = true) : s.QueuesNone s' := by
  intro id job found pending
  rcases revises id with kept | ⟨before, after, was, turned, origin, allow⟩
  · exact ⟨job, (congrArg Dossier.job kept).symm.trans found, pending, .refl job⟩
  · cases Option.some.inj (found.symm.trans turned)
    exact ⟨before, was, waited id before job allow pending, origin⟩

theorem Turns.queuesNone {id : String} {before after : Job} (turns : Turns id s s' before after)
    (origin : before.SameOrigin after)
    (waited : after.isPending = true → before.isPending = true) : s.QueuesNone s' := by
  have revises : ∀ k, Revises (fun a b => b.isPending = true → a.isPending = true) k s s' :=
    turns.revises origin waited
  exact queuesNone_of_revises revises fun _ _ _ allow => allow

theorem isPending_of_status {job : Job} (status : job.status = .queued ∨ job.status = .running) :
    job.isPending = true := by
  rcases status with status | status <;> rw [Job.isPending, status] <;> rfl

theorem not_isPending_of_isTerminal {job : Job} (terminal : job.status.isTerminal = true) :
    job.isPending = false := by
  rw [Job.isPending, Job.Status.isPending, terminal]
  rfl

theorem queuesNone_expireStale (s : State) (now : Instant) :
    s.QueuesNone (s.expireStale now).2 := by
  refine queuesNone_of_revises (s.revises_reclaimAll now (s.lapsedIds now)) ?_
  intro id before after failed pending
  rw [not_isPending_of_isTerminal (by rw [failed.2]; rfl)] at pending
  cases pending

theorem queuesNone_pollForWork {agentId : String} {limit : Nat} {policy : DispatchPolicy}
    {observers : List Observer} {outcome : PollOutcome}
    (h : s.pollForWork fresh agentId limit policy observers now = .ok (outcome, s')) :
    s.QueuesNone s' := by
  unfold pollForWork at h
  split at h
  · cases h
  · split at h
    · cases h
    · cases h
      refine (s.queuesNone_expireStale now).trans
        (queuesNone_of_revises (revises_leaseCandidates _ _ _) ?_)
      exact fun _ _ _ leased _ => isPending_of_status (Or.inl leased.1)

theorem queuesNone_submitLogs {agentId jobId : String} {report : LogReport}
    {policy : ReportPolicy} {expires : Instant}
    (h : s.submitLogs agentId jobId report policy now = .ok (expires, s')) :
    s.QueuesNone s' := by
  rcases turns_submitLogs h with ⟨before, running, _, turns⟩
  exact turns.queuesNone (.refl before) fun _ => isPending_of_status (Or.inr running)

theorem queuesNone_cancelJob {jobId : String} {job : Job}
    (h : s.cancelJob jobId now = .ok (job, s')) : s.QueuesNone s' := by
  rcases turns_cancelJob h with ⟨before, queued, turns⟩
  exact turns.queuesNone (.refl before) fun _ => isPending_of_status (Or.inl queued)

theorem queuesNone_finishJob {agentId jobId token : String} {status : Job.Status}
    {report : ResultReport} {cap : Nat} {finished : Job} {result : Job.Result}
    (lease : s.leaseToken agentId jobId = .ok token)
    (h : s.finishJob jobId token status report cap now = .ok (finished, result, s')) :
    s.QueuesNone s' := by
  rcases leaseToken_eq_ok lease with ⟨job, found, running, _⟩
  rcases turns_finishJob found h with ⟨origin, _, turns⟩
  exact turns.queuesNone origin fun _ => isPending_of_status (Or.inr running)

/-!
# Errands that are given out

Each is looked for among the queued and running jobs by other fields of these, and it is given
out only if it is not found.
-/

theorem Unrepeated.insertJob (unrepeated : s.Unrepeated) (fresh : Fresh) (type : String)
    (payload : Payload) (createdBy : Option String) (now : Instant)
    (free : Job.IsFollowUp type →
      ¬ s.Pursues (s.insertJob fresh type payload createdBy now).1.errand) :
    (s.insertJob fresh type payload createdBy now).2.Unrepeated := by
  intro id id' job job' found found' pending pending' followUp same
  simp only [State.insertJob, Table.get?_insert] at found found'
  split at found <;> split at found'
  · rename_i here here'
    exact here.trans here'.symm
  · cases found
    exact absurd ⟨id', job', found', pending', same.symm⟩ (free followUp)
  · cases found'
    have type : job.type = type := by
      rw [← job.type_errand, same, Job.type_errand]
    exact absurd ⟨id, job, found, pending, same⟩ (free (type ▸ followUp))
  · exact unrepeated id id' job job' found found' pending pending' followUp same

theorem hasPending_iff {key value : String} :
    s.hasPending type key value = true ↔
      ∃ id job, s.jobs.get? id = some job ∧ job.isPending = true ∧ job.type = type ∧
        job.payload.get? key = some value := by
  rw [hasPending, List.any_eq_true]
  constructor
  · rintro ⟨job, mem, h⟩
    rcases Table.mem_values_iff.mp mem with ⟨id, found⟩
    simp only [Bool.and_eq_true, decide_eq_true_eq] at h
    exact ⟨id, job, found, h.1.1, h.1.2, h.2⟩
  · rintro ⟨id, job, found, pending, type, value⟩
    exact ⟨job, Table.mem_values_iff.mpr ⟨id, found⟩, by simp [pending, type, value]⟩

theorem hasPending_of_pursues {instanceId : String}
    (pursues : s.Pursues ⟨diskScanType, some instanceId, none⟩) :
    s.hasPending diskScanType "instance_id" instanceId = true := by
  rcases pursues with ⟨id, job, found, pending, errand⟩
  have scan : job.type = diskScanType := by
    rw [← job.type_errand, errand]
  rw [Job.errand_of_scan scan] at errand
  exact hasPending_iff.mpr ⟨id, job, found, pending, scan, congrArg Errand.target errand⟩

theorem hasFirewallJob_of_pursues {nodeId : String} {rules : List Rule}
    (other : type ≠ diskScanType)
    (pursues : s.Pursues ⟨type, some nodeId, some (listText rules)⟩) :
    s.hasFirewallJob type nodeId (listText rules) = true := by
  rcases pursues with ⟨id, job, found, pending, errand⟩
  have same : job.type = type := by
    rw [← job.type_errand, errand]
  rw [Job.errand_of_ne (same ▸ other)] at errand
  exact hasFirewallJob_iff.mpr ⟨id, job, found, pending, same,
    congrArg Errand.target errand, congrArg Errand.ports errand⟩

theorem Unrepeated.requestFirewallJob (unrepeated : s.Unrepeated) (fresh : Fresh)
    (other : type ≠ diskScanType) (nodeId : String) (rules : List Rule) (now : Instant) :
    (s.requestFirewallJob fresh type nodeId rules now).2.Unrepeated := by
  unfold State.requestFirewallJob
  split
  · exact unrepeated
  · dsimp only
    split
    · exact unrepeated
    · rename_i absent
      have asks := s.asks_insertJob fresh type nodeId rules (some "system") now
      refine unrepeated.insertJob fresh _ _ _ now fun _ pursues => ?_
      rw [Job.errand_of_ne other, asks.node, asks.ports] at pursues
      exact absent (hasFirewallJob_of_pursues other pursues)

theorem Unrepeated.reconcileFirewall (unrepeated : s.Unrepeated) (fresh : Fresh)
    (nodeId : String) (now : Instant) :
    (s.reconcileFirewall fresh nodeId now).2.Unrepeated :=
  (unrepeated.requestFirewallJob fresh (by decide) nodeId _ now).requestFirewallJob fresh
    (by decide) nodeId _ now

theorem Unrepeated.reconcileFirewalls (unrepeated : s.Unrepeated) (fresh : Fresh)
    (now : Instant) (nodes : List String) :
    (s.reconcileFirewalls fresh now nodes).2.Unrepeated := by
  induction nodes generalizing s with
  | nil => exact unrepeated
  | cons first rest ih => exact ih (unrepeated.reconcileFirewall fresh first now)

theorem Unrepeated.changePorts (unrepeated : s.Unrepeated) (fresh : Fresh) (now : Instant)
    (ports : Tables) (nodes : List String) :
    ({ s with ports := ports }.reconcileFirewalls fresh now nodes).2.Unrepeated := by
  have same : ({ s with ports := ports } : State).Unrepeated := unrepeated.of_jobs rfl
  exact same.reconcileFirewalls fresh now nodes

theorem Unrepeated.requestDiskScan {instanceId : String} {nodeId : Option String}
    {followUp : FollowUp} (unrepeated : s.Unrepeated)
    (h : s.requestDiskScan fresh instanceId nodeId now = .ok (followUp, s')) :
    s'.Unrepeated := by
  rcases requestDiskScan_eq_ok h with ⟨_, rfl⟩ | ⟨_, absent, target, _, rfl⟩
  · exact unrepeated
  · refine unrepeated.insertJob fresh _ _ _ now fun _ pursues => ?_
    rw [Job.errand_of_scan rfl] at pursues
    simp only [State.insertJob, diskScanPayload, Table.get?_insert] at pursues
    rw [hasPending_of_pursues pursues] at absent
    cases absent

theorem Unrepeated.createJob {order : Job.Order} {job : Job} (unrepeated : s.Unrepeated)
    (other : ∀ {type work}, jobType? order.type = some type →
      Job.Work.decode type order.payload = .ok work → ¬ Job.IsFollowUp type)
    (h : s.createJob fresh order now = .ok (job, s')) : s'.Unrepeated := by
  unfold State.createJob at h
  split at h
  · cases h
  · rename_i type known
    split at h
    · cases h
    · rename_i work meant
      cases h
      exact unrepeated.insertJob fresh _ _ _ now fun followUp =>
        absurd followUp (other known meant)

/-!
# Results
-/

section Events

variable {thresholds : Inventory.DiskThresholds}

theorem Unrepeated.applyEvent {event : Effect.Event} {followUp : FollowUp}
    (unrepeated : s.Unrepeated)
    (h : s.applyEvent fresh thresholds now event = .ok (followUp, s')) : s'.Unrepeated := by
  cases plain : event.isPlain with
  | true => exact unrepeated.of_jobs (congrArg JobStore.jobs (jobStore_of_plain plain h))
  | false =>
      cases event with
      | diskScanRequested instanceId nodeId => exact unrepeated.requestDiskScan h
      | portsReleased instanceId =>
          cases h
          exact unrepeated.changePorts fresh now _ _
      | firewallApplied _ _ _ =>
          cases h
          exact unrepeated.of_jobs rfl
      | _ => cases plain

theorem Unrepeated.applyEvents (unrepeated : s.Unrepeated) (fresh : Fresh)
    (thresholds : Inventory.DiskThresholds) (now : Instant) (events : List Effect.Event) :
    (s.applyEvents fresh thresholds now events).2.2.Unrepeated :=
  keep_applyEvents Unrepeated
    (fun _ _ _ _ _ unrepeated applied => unrepeated.applyEvent applied) unrepeated

theorem Unrepeated.submitResult {agentId jobId : String} {report : ResultReport}
    {policy : ReportPolicy} {reported : Reported} (unrepeated : s.Unrepeated)
    (h : s.submitResult fresh agentId jobId report policy now = .ok (reported, s')) :
    s'.Unrepeated := by
  rcases submitResult_eq_ok h with ⟨token, _, finished, result, m, lease, _, finish, rfl⟩
  have settled : m.Unrepeated := unrepeated.of_queuesNone (queuesNone_finishJob lease finish)
  exact settled.applyEvents fresh policy.thresholds now _

/-!
# Disks that are scanned

The use of a disk, once it is known, stays known, and no event puts an instance on record.  So
what an event finds missing was missing before the events that came first.
-/

theorem LacksUsage.of_instances {instanceId : String} (lacks : s'.LacksUsage instanceId)
    (same : s'.instances = s.instances) : s.LacksUsage instanceId := by
  rw [LacksUsage, ← same]
  exact lacks

theorem LacksUsage.of_insert {other instanceId : String} {row after : Inventory.Instance}
    (lacks : ({ s with instances := s.instances.insert other after } : State).LacksUsage
      instanceId)
    (found : s.instances.get? other = some row)
    (missing : after.diskUsedBytes = none → row.diskUsedBytes = none) :
    s.LacksUsage instanceId := by
  rcases lacks with ⟨before, was, none_⟩
  simp only [Table.get?_insert] at was
  split at was
  · rename_i here
    cases was
    exact ⟨row, here ▸ found, missing none_⟩
  · exact ⟨before, was, none_⟩

theorem LacksUsage.of_applyEvent {event : Effect.Event} {followUp : FollowUp}
    {instanceId : String} (lacks : s'.LacksUsage instanceId)
    (h : s.applyEvent fresh thresholds now event = .ok (followUp, s')) :
    s.LacksUsage instanceId := by
  have same := congrArg instances (besides_applyEvent h)
  cases event with
  | instanceChanged other status =>
      rcases bind_eq_ok.mp h with ⟨row, found, h⟩
      cases pure_eq_ok.mp h
      exact lacks.of_insert (find_eq_ok.mp found) fun missing => missing
  | diskScanned other usedBytes error =>
      rcases bind_eq_ok.mp h with ⟨row, found, h⟩
      cases pure_eq_ok.mp h
      exact lacks.of_insert (find_eq_ok.mp found)
        fun missing => (Option.or_eq_none_iff.mp missing).2
  | queryChanged other query =>
      rcases bind_eq_ok.mp h with ⟨row, found, h⟩
      cases pure_eq_ok.mp h
      exact lacks.of_insert (find_eq_ok.mp found) fun missing => missing
  | _ => exact lacks.of_instances same

def ScansAsked (s : State) (events : List Effect.Event) (type : String) (payload : Payload) :
    Prop :=
  type = diskScanType → ∃ instanceId nodeId, .diskScanRequested instanceId nodeId ∈ events ∧
    s.LacksUsage instanceId ∧ payload.get? "instance_id" = some instanceId

theorem ScansAsked.mono {events more : List Effect.Event} {payload : Payload}
    (asked : m.ScansAsked events type payload) (mem : ∀ event ∈ events, event ∈ more)
    (lacks : ∀ instanceId, m.LacksUsage instanceId → s.LacksUsage instanceId) :
    s.ScansAsked more type payload := by
  intro scan
  rcases asked scan with ⟨instanceId, nodeId, wanted, missing, named⟩
  exact ⟨instanceId, nodeId, mem _ wanted, lacks instanceId missing, named⟩

theorem scansAsked_of_plans {n : Network} {nodeId : String} {rules : List Rule}
    {events : List Effect.Event} {payload : Payload} (plans : n.Plans nodeId type rules) :
    s.ScansAsked events type payload :=
  fun scan => absurd scan plans.ne_diskScanType

theorem adds_applyEvent {event : Effect.Event} {followUp : FollowUp}
    (h : s.applyEvent fresh thresholds now event = .ok (followUp, s')) :
    Adds (s.ScansAsked [event]) s s' := by
  cases plain : event.isPlain with
  | true => exact adds_of_jobs (congrArg JobStore.jobs (jobStore_of_plain plain h))
  | false =>
      cases event with
      | diskScanRequested instanceId nodeId =>
          rcases requestDiskScan_eq_ok h with ⟨_, rfl⟩ | ⟨lacks, _, target, _, rfl⟩
          · exact adds_of_jobs rfl
          · refine s.adds_insertJob fresh (fun _ => ?_) _ now
            exact ⟨instanceId, nodeId, List.mem_singleton_self _, lacks,
              by simp [diskScanPayload]⟩
      | portsReleased instanceId =>
          cases h
          exact adds_reconcileFirewalls
            (s := { s with ports := (s.ports.releaseInstance instanceId now).2 })
            scansAsked_of_plans fresh now _
      | firewallApplied _ _ _ =>
          cases h
          exact adds_of_jobs rfl
      | _ => cases plain

theorem adds_scansAsked (s : State) (fresh : Fresh) (thresholds : Inventory.DiskThresholds)
    (now : Instant) (events : List Effect.Event) :
    Adds (s.ScansAsked events) s (s.applyEvents fresh thresholds now events).2.2 := by
  induction events generalizing s with
  | nil => exact adds_of_jobs rfl
  | cons event rest ih =>
      unfold State.applyEvents
      split
      · rename_i followUp m applied
        have first : Adds (s.ScansAsked (event :: rest)) s m :=
          (adds_applyEvent applied).imp fun asked =>
            asked.mono (List.forall_mem_singleton.mpr List.mem_cons_self) fun _ lacks => lacks
        have others : Adds (s.ScansAsked (event :: rest)) m
            (m.applyEvents fresh thresholds now rest).2.2 :=
          (ih m).imp fun asked =>
            asked.mono (fun _ => List.mem_cons_of_mem event) fun _ lacks =>
              lacks.of_applyEvent applied
        exact first.trans others
      · exact (ih s).imp fun asked =>
          asked.mono (fun _ => List.mem_cons_of_mem event) fun _ lacks => lacks

end Events

/-- A scan follows from a job that has created or started an instance of which the use of the
disk is not known. -/
theorem adds_scans_of_submitResult {agentId jobId : String} {report : ResultReport}
    {policy : ReportPolicy} {reported : Reported} {cause : Job}
    (standard : policy.registry = .standard) (there : s.jobs.get? jobId = some cause)
    (h : s.submitResult fresh agentId jobId report policy now = .ok (reported, s')) :
    Adds (fun type payload => type = diskScanType →
      Job.Status.reported? report.status = some .succeeded ∧ ∃ instanceId nodeId action,
        Job.Work.decode cause.type cause.payload = .ok (.lifecycle instanceId nodeId action) ∧
        (action = .create ∨ action = .start) ∧ s.LacksUsage instanceId ∧
        payload.get? "instance_id" = some instanceId) s s' := by
  rcases submitResult_eq_ok h with ⟨token, status, finished, result, m, _, known, finish, rfl⟩
  rcases turns_finishJob there finish with ⟨origin, _, turns⟩
  refine (adds_of_turns turns origin).trans
    ((m.adds_scansAsked fresh policy.thresholds now _).imp fun asked scan => ?_)
  have kept := congrArg instances (surroundings_finishJob finish)
  rcases asked scan with ⟨instanceId, nodeId, mem, lacks, named⟩
  rw [standard] at mem
  rcases mem_eventsOf mem with ⟨i, handler, decoded, _, ended, routed, mem⟩
  rcases Effect.Registry.scansStarted_standard.route routed i instanceId nodeId mem with
    ⟨succeeded, action, work, starts⟩
  rw [work, ← origin.2.1, ← origin.2.2.1] at decoded
  rw [ended, status_of_finishJob finish] at succeeded
  exact ⟨succeeded ▸ known, instanceId, nodeId, action, decoded, starts,
    lacks.of_instances kept, named⟩

end State
end FleetControl
