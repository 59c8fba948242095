import FleetControl.Proofs.Firewall.Requests
import FleetControl.Proofs.Firewall.Results
import FleetControl.Proofs.Plane.Run

/-!
# Closing the gap

A node on whose firewall nobody works is reconciled once.  The jobs that are created, one for
each half of the plan that is not empty, mean just these halves.  When they have succeeded, in
either order, what is open is what is wished for and what was open without being managed, and
there is nothing left to plan.  Neither before nor after that is another job created.
-/

namespace FleetControl

open Firewall
open Port
open Time

def Job.reading (job : Job) : String × Except Work.Flaw Work :=
  (job.type, Work.decode job.type job.payload)

namespace State

variable {s s' : State} {fresh : Fresh} {now : Instant} {nodeId type id : String}
  {rules : List Rule}

/-- The halves of a plan that are not empty, by the types of their jobs. -/
def halves (plan : Plan) : List (String × List Rule) :=
  [(openPortsType, plan.toOpen), (closePortsType, plan.toClose)].filter
    (fun half => !half.2.isEmpty)

def halfAct (half : String × List Rule) : Act :=
  { opens := decide (half.1 = openPortsType), rules := half.2 }

def halfReading (nodeId : String) (half : String × List Rule) :
    String × Except Job.Work.Flaw Job.Work :=
  (half.1, .ok (.firewall nodeId half.2))

/-- Nobody works on the firewall of the node.  Its name can be read back from a payload, and so
can the rules that are wished for or reported. -/
structure AtRest (s : State) (nodeId : String) : Prop where
  named : nodeId ≠ ""
  trimmed : Text.trim nodeId = nodeId
  idle : ∀ id job, s.jobs.get? id = some job → job.isPending = true → job.IsFirewall →
    job.nodeId? ≠ some nodeId
  desired : ∀ r ∈ s.ports.desired nodeId, r.port ≠ 0
  reported : ∀ r ∈ (s.firewall nodeId).openPorts, r.port ≠ 0

def applyResults (s : State) (fresh : Fresh) (thresholds : Inventory.DiskThresholds) :
    List (Job × Job.Result) → State
  | [] => s
  | (job, result) :: rest =>
      (s.applyEvents fresh thresholds result.completedAt
        (eventsOf .standard job result)).2.2.applyResults fresh thresholds rest

/-- The gap that a node has in `s` is closed in `after`. -/
structure Closed (s : State) (nodeId : String) (after : State) : Prop where
  plan : (after.firewallPlan nodeId).isEmpty = true
  openPorts : ∀ r, r ∈ (after.firewall nodeId).openPorts ↔
    r ∈ s.ports.desired nodeId ∨
      (r ∈ (s.firewall nodeId).openPorts ∧ r ∉ (s.firewall nodeId).managed)
  again : ∀ fresh now, after.reconcileFirewall fresh nodeId now = ([], after)

/-- The jobs that are created in the step from `s` to `s'` close the gap of a node, whatever
else becomes of jobs meanwhile. -/
structure ClosesGap (s : State) (nodeId : String) (created : List Job) (s' : State) : Prop where
  jobs : created.map Job.reading = (halves (s.firewallPlan nodeId)).map (halfReading nodeId)
  events : ∀ job ∈ created, ∀ result : Job.Result, result.status = .succeeded →
    ∃ half ∈ halves (s.firewallPlan nodeId), eventsOf .standard job result =
      [.firewallApplied nodeId (halfAct half).opened (halfAct half).closed]
  again : ∀ fresh now, s'.reconcileFirewall fresh nodeId now = ([], s')
  closed : ∀ fresh thresholds results after, (results.map Prod.fst).Perm created →
    (∀ taken ∈ results, taken.2.status = .succeeded) →
    after.network = (s'.applyResults fresh thresholds results).network → s.Closed nodeId after

/-!
# Requests that nobody has made
-/

theorem requestFirewallJob_of_unasked (fresh : Fresh) (now : Instant) (some_ : rules ≠ [])
    (unasked : ∀ id job, s.jobs.get? id = some job → ¬ Asks type nodeId rules job) :
    s.requestFirewallJob fresh type nodeId rules now =
      ([(s.insertJob fresh type (firewallPayload nodeId (listText rules)) (some "system")
        now).1],
        (s.insertJob fresh type (firewallPayload nodeId (listText rules)) (some "system")
          now).2) := by
  unfold requestFirewallJob
  rw [if_neg (by simpa using some_)]
  dsimp only
  rw [if_neg ?_]
  intro there
  rcases hasFirewallJob_iff.mp there with ⟨id, job, found, asks⟩
  exact unasked id job found asks

theorem reading_requestFirewallJob (fresh : Fresh) (now : Instant)
    (firewall : type = openPortsType ∨ type = closePortsType) (named : nodeId ≠ "")
    (trimmed : Text.trim nodeId = nodeId) (positive : ∀ r ∈ rules, r.port ≠ 0)
    (unasked : ∀ id job, s.jobs.get? id = some job → ¬ Asks type nodeId rules job) :
    (s.requestFirewallJob fresh type nodeId rules now).1.map Job.reading =
      ([(type, rules)].filter (fun half => !half.2.isEmpty)).map (halfReading nodeId) := by
  by_cases none_ : rules = []
  · rw [none_]
    rfl
  · have meant : Job.Work.decode type (firewallPayload nodeId (listText rules)) =
        .ok (.firewall nodeId rules) := by
      rw [Job.Work.decode_firewallPayload firewall none_ positive, trimmed, if_neg named]
    rw [requestFirewallJob_of_unasked fresh now none_ unasked]
    simp [insertJob, Job.reading, halfReading, meant, none_]

theorem stored_or_type_of_requestFirewallJob {job : Job}
    (h : (s.requestFirewallJob fresh type nodeId rules now).2.jobs.get? id = some job) :
    s.jobs.get? id = some job ∨ job.type = type := by
  unfold requestFirewallJob at h
  split at h
  · exact Or.inl h
  · dsimp only at h
    split at h
    · exact Or.inl h
    · simp only [insertJob, Table.get?_insert] at h
      split at h
      · exact Or.inr (Option.some.inj h ▸ rfl)
      · exact Or.inl h

theorem get?_last_requestFirewallJob (injective : ∀ m n, fresh.job m = fresh.job n → m = n) :
    (s.requestFirewallJob fresh type nodeId rules now).2.jobs.get? (fresh.job s.lastSeq) =
      s.jobs.get? (fresh.job s.lastSeq) := by
  have other : fresh.job s.lastSeq ≠ fresh.job (s.lastSeq + 1) := by
    intro same
    have number := injective _ _ same
    grind
  unfold requestFirewallJob
  split
  · rfl
  · dsimp only
    split
    · rfl
    · simp [insertJob, other]

/-!
# Both halves
-/

section AtRest

variable (rest : s.AtRest nodeId)
include rest

theorem AtRest.unasked (firewall : type = openPortsType ∨ type = closePortsType) :
    ∀ id job, s.jobs.get? id = some job → ¬ Asks type nodeId rules job := by
  intro id job found asks
  have family : job.IsFirewall := by
    rw [Job.IsFirewall, asks.type]
    exact firewall
  exact rest.idle id job found asks.pending family asks.node

/-- The request to open does not answer the one to close. -/
theorem AtRest.unasked_closing {toOpen : List Rule} :
    ∀ id job, (s.requestFirewallJob fresh openPortsType nodeId toOpen now).2.jobs.get? id =
      some job → ¬ Asks closePortsType nodeId rules job := by
  intro id job found asks
  rcases stored_or_type_of_requestFirewallJob found with found | type
  · exact rest.unasked (.inr rfl) id job found asks
  · exact absurd (asks.type.symm.trans type) (by decide)

theorem AtRest.reading (fresh : Fresh) (now : Instant) :
    (s.reconcileFirewall fresh nodeId now).1.map Job.reading =
      (halves (s.firewallPlan nodeId)).map (halfReading nodeId) := by
  have desired : ∀ r ∈ (s.firewallPlan nodeId).toOpen, r.port ≠ 0 :=
    fun r hr => rest.desired r (Plan.mem_toOpen.mp hr).1
  have reported : ∀ r ∈ (s.firewallPlan nodeId).toClose, r.port ≠ 0 :=
    fun r hr => rest.reported r (Plan.mem_toClose.mp hr).1.1
  have opening := reading_requestFirewallJob fresh now (.inl rfl) rest.named rest.trimmed desired
    (rest.unasked (.inl rfl))
  have closing := reading_requestFirewallJob
    (s := (s.requestFirewallJob fresh openPortsType nodeId (s.firewallPlan nodeId).toOpen now).2)
    fresh now (.inr rfl) rest.named rest.trimmed reported rest.unasked_closing
  unfold reconcileFirewall halves
  dsimp only
  rw [List.map_append, opening, closing, ← List.map_append, ← List.filter_append]
  rfl

theorem AtRest.requested (injective : ∀ m n, fresh.job m = fresh.job n → m = n) :
    (s.reconcileFirewall fresh nodeId now).2.Requested nodeId (s.firewallPlan nodeId) where
  opening := by
    intro some_
    have asks := s.asks_insertJob fresh openPortsType nodeId (s.firewallPlan nodeId).toOpen
      (some "system") now
    refine ⟨fresh.job (s.lastSeq + 1), _, ?_, asks⟩
    unfold reconcileFirewall
    dsimp only
    rw [requestFirewallJob_of_unasked fresh now some_ (rest.unasked (.inl rfl))]
    refine (get?_last_requestFirewallJob (s := (s.insertJob fresh openPortsType _ _ now).2)
      injective).trans ?_
    simp [insertJob]
  closing := asks_of_requestFirewallJob _ fresh closePortsType nodeId now

end AtRest

/-!
# Results
-/

theorem enacts_applyResults (fresh : Fresh) (thresholds : Inventory.DiskThresholds)
    {results : List (Job × Job.Result)} (firewall : ∀ taken ∈ results, taken.1.IsFirewall)
    (succeeded : ∀ taken ∈ results, taken.2.status = .succeeded) :
    s.Enacts (fun nodeId => (results.map Prod.fst).filterMap (Job.act? nodeId))
      (s.applyResults fresh thresholds results) := by
  induction results generalizing s with
  | nil => exact enacts_nothing rfl fun _ missing => missing
  | cons taken rest ih =>
      rcases List.forall_mem_cons.mp firewall with ⟨first, firewall⟩
      rcases List.forall_mem_cons.mp succeeded with ⟨done, succeeded⟩
      have acts : (fun nodeId => ((taken :: rest).map Prod.fst).filterMap (Job.act? nodeId)) =
          fun nodeId => (taken.1.act? nodeId).toList ++
            (rest.map Prod.fst).filterMap (Job.act? nodeId) := by
        funext nodeId
        rw [List.map_cons, List.filterMap_cons]
        cases taken.1.act? nodeId <;> rfl
      rw [acts]
      exact (s.enacts_applyEvents fresh taken.2.completedAt first done thresholds).trans
        (ih firewall succeeded)

theorem mem_halves {plan : Plan} {half : String × List Rule} :
    half ∈ halves plan ↔
      (half = (openPortsType, plan.toOpen) ∨ half = (closePortsType, plan.toClose)) ∧
        half.2 ≠ [] := by
  simp [halves, List.mem_filter]

section Reading

variable {created : List Job} {parts : List (String × List Rule)}

theorem acts_of_reading (reading : created.map Job.reading = parts.map (halfReading nodeId)) :
    created.filterMap (Job.act? nodeId) = parts.map halfAct := by
  induction created generalizing parts with
  | nil =>
      rw [List.map_eq_nil_iff.mp reading.symm]
      rfl
  | cons job rest ih =>
      cases parts with
      | nil => cases reading
      | cons half parts =>
          rcases List.cons.inj reading with ⟨first, reading⟩
          rcases Prod.mk.inj first with ⟨type, meant⟩
          have act : job.act? nodeId = some (halfAct half) := by
            rw [Job.act?, meant]
            simp [Job.actWith, halfAct, type]
          rw [List.filterMap_cons_some act, ih reading, List.map_cons]

variable {plan : Plan}
  (reading : created.map Job.reading = (halves plan).map (halfReading nodeId))
include reading

theorem exists_half_of_reading {job : Job} (mem : job ∈ created) :
    ∃ half ∈ halves plan, job.type = half.1 ∧
      Job.Work.decode job.type job.payload = .ok (.firewall nodeId half.2) := by
  have image := List.mem_map_of_mem (f := Job.reading) mem
  rw [reading] at image
  rcases List.mem_map.mp image with ⟨half, hhalf, same⟩
  exact ⟨half, hhalf, Prod.mk.inj same.symm⟩

theorem isFirewall_of_reading {job : Job} (mem : job ∈ created) : job.IsFirewall := by
  rcases exists_half_of_reading reading mem with ⟨half, hhalf, type, _⟩
  rw [Job.IsFirewall, type]
  rcases mem_halves.mp hhalf with ⟨rfl | rfl, _⟩
  · exact Or.inl rfl
  · exact Or.inr rfl

theorem events_of_reading {job : Job} {result : Job.Result} (mem : job ∈ created)
    (succeeded : result.status = .succeeded) :
    ∃ half ∈ halves plan, eventsOf .standard job result =
      [.firewallApplied nodeId (halfAct half).opened (halfAct half).closed] := by
  rcases exists_half_of_reading reading mem with ⟨half, hhalf, type, meant⟩
  refine ⟨half, hhalf, ?_⟩
  rw [eventsOf_of_firewall (isFirewall_of_reading reading mem) succeeded meant, Job.actWith, type]
  rfl

/-- The jobs for the halves of a plan carry it out, in either order. -/
theorem carriedOut_of_reading {jobs : List Job} (perm : jobs.Perm created) :
    plan.CarriedOut (jobs.filterMap (Job.act? nodeId)) := by
  have mem : ∀ act, act ∈ jobs.filterMap (Job.act? nodeId) ↔
      ∃ half ∈ halves plan, halfAct half = act := by
    intro act
    rw [(perm.filterMap _).mem_iff, acts_of_reading reading, List.mem_map]
  constructor
  · intro r
    constructor
    · rintro ⟨act, hact, opens, hr⟩
      rcases (mem act).mp hact with ⟨half, hhalf, rfl⟩
      rcases mem_halves.mp hhalf with ⟨rfl | rfl, _⟩
      · exact hr
      · exact absurd opens (by simp [halfAct, openPortsType, closePortsType])
    · intro hr
      exact ⟨_, (mem _).mpr ⟨_, mem_halves.mpr ⟨.inl rfl, List.ne_nil_of_mem hr⟩, rfl⟩, rfl, hr⟩
  · intro r
    constructor
    · rintro ⟨act, hact, closes, hr⟩
      rcases (mem act).mp hact with ⟨half, hhalf, rfl⟩
      rcases mem_halves.mp hhalf with ⟨rfl | rfl, _⟩
      · exact absurd closes (by simp [halfAct])
      · exact hr
    · intro hr
      exact ⟨_, (mem _).mpr ⟨_, mem_halves.mpr ⟨.inr rfl, List.ne_nil_of_mem hr⟩, rfl⟩, rfl, hr⟩

end Reading

theorem Requested.of_isEmpty {plan : Plan} (h : plan.isEmpty = true) :
    s.Requested nodeId plan := by
  rcases Bool.and_eq_true_iff.mp h with ⟨opening, closing⟩
  exact ⟨fun some_ => absurd (List.isEmpty_iff.mp opening) some_,
    fun some_ => absurd (List.isEmpty_iff.mp closing) some_⟩

/-!
# The gap
-/

/-- One reconciliation is enough for a node at rest, in whatever order its jobs succeed. -/
theorem reconcileFirewall_closesGap (rest : s.AtRest nodeId)
    (injective : ∀ m n, fresh.job m = fresh.job n → m = n) :
    s.ClosesGap nodeId (s.reconcileFirewall fresh nodeId now).1
      (s.reconcileFirewall fresh nodeId now).2 := by
  have network := s.network_reconcileFirewall fresh nodeId now
  have reading := rest.reading fresh now
  constructor
  case jobs => exact reading
  case events => exact fun job mem result succeeded => events_of_reading reading mem succeeded
  case again =>
    intro fresh' now'
    refine reconcileFirewall_of_requested fresh' now' ?_
    rw [firewallPlan_congr network]
    exact rest.requested injective
  case closed =>
    intro fresh' thresholds results after perm succeeded same
    have firewall : ∀ taken ∈ results, taken.1.IsFirewall := by
      intro taken mem
      have mem := perm.mem_iff.mp (List.mem_map_of_mem (f := Prod.fst) mem)
      exact isFirewall_of_reading reading mem
    have enacts := enacts_applyResults fresh' thresholds firewall succeeded
      (s := (s.reconcileFirewall fresh nodeId now).2)
    have becomes := enacts.firewalls nodeId
    rw [firewall_congr network, ← firewall_congr same] at becomes
    have ports : after.ports = s.ports :=
      (congrArg Network.ports same).trans (enacts.ports.trans (congrArg Network.ports network))
    have carried := carriedOut_of_reading reading perm
    have plan : (after.firewallPlan nodeId).isEmpty = true := by
      rw [firewallPlan_eq, ports]
      exact carried.isEmpty becomes
    refine ⟨plan, fun r => carried.mem_openPorts becomes, fun fresh now => ?_⟩
    exact reconcileFirewall_of_requested fresh now (.of_isEmpty plan)

/-!
# A port in the place of another

On a node the ports 22 and 8080 are open, of which only 8080 is managed, and an instance has the
port 80.  So 80 is opened and 8080 is closed, and 22 stays as it is.  Another node has a firewall
job in the queue.
-/

def gapState : State :=
  { State.empty with
    jobs := .ofList [("q", (State.empty.insertJob (.strokes 'q') openPortsType
      (firewallPayload "n2" "tcp:80") none .epoch).1)]
    ports :=
      { Port.Tables.empty with
        allocations := .ofList [("b", ⟨"b", "n1", .tcp, 80, "i1", "game", .epoch⟩)] }
    firewalls := .ofList [("n1",
      { nodeId := "n1"
        openPorts := ⟨[⟨.tcp, 22⟩, ⟨.tcp, 8080⟩], by decide⟩
        managed := ⟨[⟨.tcp, 8080⟩], by decide⟩
        reportedAt := none })] }

def gapJobs : List Job × State :=
  gapState.reconcileFirewall (.strokes 'j') "n1" .epoch

def succeeding (job : Job) : Job × Job.Result :=
  (job, { jobId := job.id, status := .succeeded, output := .empty, completedAt := .epoch })

theorem firewallPlan_gap :
    gapState.firewallPlan "n1" = ⟨"n1", [⟨.tcp, 80⟩], [⟨.tcp, 8080⟩]⟩ := by
  rw [firewallPlan_eq, Plan.between]
  simp only [RuleSet.rules_difference, RuleSet.rules_intersection]
  decide +kernel

theorem atRest_gap : gapState.AtRest "n1" where
  named := by decide
  trimmed := by decide +kernel
  idle := by
    intro id job found _ _
    have mem : job ∈ gapState.jobs.values := Table.mem_values_iff.mpr ⟨id, found⟩
    have others : ∀ job ∈ gapState.jobs.values, job.nodeId? ≠ some "n1" := by decide +kernel
    exact others job mem
  desired := by decide +kernel
  reported := by decide +kernel

/-- The port is closed before the other is opened. -/
theorem reconcileFirewall_closesGap_replacing :
    gapState.AtRest "n1" ∧
      (∀ m n, (Fresh.strokes 'j').job m = (Fresh.strokes 'j').job n → m = n) ∧
      gapJobs.1.map Job.reading =
        [(openPortsType, .ok (.firewall "n1" [⟨.tcp, 80⟩])),
          (closePortsType, .ok (.firewall "n1" [⟨.tcp, 8080⟩]))] ∧
      gapState.Closed "n1" (gapJobs.2.applyResults (.strokes 'k') .standard
        (gapJobs.1.reverse.map succeeding)) := by
  have injective := Fresh.strokes_injective 'j'
  have closes : gapState.ClosesGap "n1" gapJobs.1 gapJobs.2 :=
    reconcileFirewall_closesGap atRest_gap injective
  refine ⟨atRest_gap, injective, ?_, closes.closed _ _ _ _ ?_ ?_ rfl⟩
  · rw [closes.jobs, firewallPlan_gap]
    rfl
  · have jobs : (gapJobs.1.reverse.map succeeding).map Prod.fst = gapJobs.1.reverse := by
      rw [List.map_map]
      exact List.map_id _
    rw [jobs]
    exact List.reverse_perm _
  · intro taken mem
    rcases List.mem_map.mp mem with ⟨job, _, rfl⟩
    rfl

end State
end FleetControl
