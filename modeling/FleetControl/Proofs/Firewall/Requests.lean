import FleetControl.Proofs.Firewall.Network
import FleetControl.Proofs.JobStore.Numbering
import FleetControl.Proofs.JobStore.Operations

/-!
# Jobs that are requested

Reconciling a node sees to it that a job for each half of its plan is queued or running.
It need not be a new one, and no job that is requested later takes its place.
-/

namespace FleetControl

open Port
open Time

namespace State

variable {s s' : State} {fresh : Fresh} {now : Instant} {type nodeId : String}

structure Asks (type nodeId : String) (rules : List Rule) (job : Job) : Prop where
  pending : job.isPending = true
  type : job.type = type
  node : job.nodeId? = some nodeId
  ports : job.payload.get? "ports" = some (listText rules)

theorem hasFirewallJob_iff {rules : List Rule} :
    s.hasFirewallJob type nodeId (listText rules) = true ↔
      ∃ id job, s.jobs.get? id = some job ∧ Asks type nodeId rules job := by
  rw [hasFirewallJob, List.any_eq_true]
  constructor
  · rintro ⟨job, mem, h⟩
    rcases Table.mem_values_iff.mp mem with ⟨id, found⟩
    simp only [Bool.and_eq_true, decide_eq_true_eq] at h
    exact ⟨id, job, found, h.1.1.1, h.1.1.2, h.1.2, h.2⟩
  · rintro ⟨id, job, found, pending, type, node, ports⟩
    exact ⟨job, Table.mem_values_iff.mpr ⟨id, found⟩, by simp [pending, type, node, ports]⟩

structure Requested (s : State) (nodeId : String) (plan : Firewall.Plan) : Prop where
  opening : plan.toOpen ≠ [] →
    ∃ id job, s.jobs.get? id = some job ∧ Asks openPortsType nodeId plan.toOpen job
  closing : plan.toClose ≠ [] →
    ∃ id job, s.jobs.get? id = some job ∧ Asks closePortsType nodeId plan.toClose job

theorem Requested.mono {plan : Firewall.Plan} (requested : s.Requested nodeId plan)
    (keeps : ∀ id job, s.jobs.get? id = some job → s'.jobs.get? id = some job) :
    s'.Requested nodeId plan where
  opening := by
    intro some_
    rcases requested.opening some_ with ⟨id, job, found, asks⟩
    exact ⟨id, job, keeps id job found, asks⟩
  closing := by
    intro some_
    rcases requested.closing some_ with ⟨id, job, found, asks⟩
    exact ⟨id, job, keeps id job found, asks⟩

theorem firewallPlan_eq (s : State) (nodeId : String) :
    s.firewallPlan nodeId =
      .between nodeId (s.ports.desired nodeId) (some (s.firewall nodeId)) :=
  rfl

theorem firewallPlan_congr (h : s'.network = s.network) (nodeId : String) :
    s'.firewallPlan nodeId = s.firewallPlan nodeId := by
  have ports : s'.ports = s.ports := congrArg Network.ports h
  have firewalls : s'.firewalls = s.firewalls := congrArg Network.firewalls h
  rw [firewallPlan, firewallPlan, ports, firewalls]

theorem asks_insertJob (s : State) (fresh : Fresh) (type nodeId : String) (rules : List Rule)
    (createdBy : Option String) (now : Instant) :
    Asks type nodeId rules
      (s.insertJob fresh type (firewallPayload nodeId (listText rules)) createdBy now).1 where
  pending := rfl
  type := rfl
  node := by simp [insertJob, Job.nodeId?, firewallPayload]
  ports := by simp [insertJob, firewallPayload]

theorem asks_of_requestFirewallJob (s : State) (fresh : Fresh) (type nodeId : String)
    {rules : List Rule} (now : Instant) (some_ : rules ≠ []) :
    ∃ id job, (s.requestFirewallJob fresh type nodeId rules now).2.jobs.get? id = some job ∧
      Asks type nodeId rules job := by
  unfold requestFirewallJob
  rw [if_neg (by simpa using some_)]
  dsimp only
  split
  · rename_i there
    exact hasFirewallJob_iff.mp there
  · refine ⟨fresh.job (s.lastSeq + 1), _, ?_, s.asks_insertJob fresh type nodeId rules
      (some "system") now⟩
    simp [insertJob]

theorem requestFirewallJob_of_asked {rules : List Rule} (fresh : Fresh) (now : Instant)
    (asked : rules ≠ [] → ∃ id job, s.jobs.get? id = some job ∧ Asks type nodeId rules job) :
    s.requestFirewallJob fresh type nodeId rules now = ([], s) := by
  unfold requestFirewallJob
  split
  · rfl
  · rename_i some_
    dsimp only
    rw [if_pos (hasFirewallJob_iff.mpr (asked (by simpa using some_)))]

theorem reconcileFirewall_of_requested (fresh : Fresh) (now : Instant)
    (requested : s.Requested nodeId (s.firewallPlan nodeId)) :
    s.reconcileFirewall fresh nodeId now = ([], s) := by
  unfold reconcileFirewall
  simp only [requestFirewallJob_of_asked fresh now requested.opening,
    requestFirewallJob_of_asked fresh now requested.closing, List.append_nil]

/-!
# Many nodes
-/

section Numbers

variable {start : UInt64} (injective : ∀ m n, fresh.job m = fresh.job n → m = n)
include injective

theorem requested_of_reconcileFirewall
    (numbers : s.jobStore.Numbered start ∧ s.jobStore.NamedByNumber fresh)
    (room : start.toNat + (s.reconcileFirewall fresh nodeId now).2.jobs.size < UInt64.size) :
    (s.reconcileFirewall fresh nodeId now).2.Requested nodeId (s.firewallPlan nodeId) where
  opening := by
    intro some_
    rcases s.asks_of_requestFirewallJob fresh openPortsType nodeId now some_ with
      ⟨id, job, found, asks⟩
    have before := (s.created_requestFirewallJob fresh openPortsType nodeId
      (s.firewallPlan nodeId).toOpen now).steps
    have after := (created_requestFirewallJob
      (s.requestFirewallJob fresh openPortsType nodeId (s.firewallPlan nodeId).toOpen now).2
      fresh closePortsType nodeId (s.firewallPlan nodeId).toClose now).steps
    exact ⟨id, job, after.keeps injective
      (before.preserve (fun step => step.numbered injective) numbers) room found, asks⟩
  closing := asks_of_requestFirewallJob _ fresh closePortsType nodeId now

theorem requested_of_reconcileFirewalls {nodes : List String} (mem : nodeId ∈ nodes)
    (numbers : s.jobStore.Numbered start ∧ s.jobStore.NamedByNumber fresh)
    (room : start.toNat + (s.reconcileFirewalls fresh now nodes).2.jobs.size < UInt64.size) :
    (s.reconcileFirewalls fresh now nodes).2.Requested nodeId (s.firewallPlan nodeId) := by
  induction nodes generalizing s with
  | nil => cases mem
  | cons first rest ih =>
      have before := (s.created_reconcileFirewall fresh first now).steps
      have after := (created_reconcileFirewalls (s.reconcileFirewall fresh first now).2 fresh now
        rest).steps
      have numbers' := before.preserve (fun step => step.numbered injective) numbers
      have mid : (s.reconcileFirewall fresh first now).2.jobs.size ≤
          (s.reconcileFirewalls fresh now (first :: rest)).2.jobs.size :=
        JobStore.Steps.size_le after
      by_cases same : nodeId = first
      · subst same
        have room' : start.toNat + (s.reconcileFirewall fresh nodeId now).2.jobs.size <
            UInt64.size := by omega
        refine (requested_of_reconcileFirewall injective numbers room').mono ?_
        exact fun id job found => after.keeps injective numbers' room found
      · rw [← firewallPlan_congr (s.network_reconcileFirewall fresh first now)]
        exact ih (List.mem_of_ne_of_mem same mem) numbers' room

end Numbers

end State
end FleetControl
