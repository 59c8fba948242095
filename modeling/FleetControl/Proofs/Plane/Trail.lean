import FleetControl.Proofs.JobStore.Ledger
import FleetControl.Proofs.JobStore.Lifecycle
import FleetControl.Proofs.Plane.Records

/-!
# What the audit trail tells about a job

Whoever creates a job, leases it or brings it to its end, the operation has just that
audited, once.  So the audit events about a job are its life: it is created, it is leased if
it ever runs, and it is told how it has ended as soon as it has.
-/

namespace FleetControl

open Refusal
open Time

/-!
# Statuses over a move
-/

namespace Dossier

def status? (r : Dossier) : Option Job.Status :=
  r.job.map Job.status

variable {id agentId : String} {now : Instant} {a b : Dossier}

theorem Arises.statuses (arises : a.Arises b) : a.status? = none ∧ b.status? = some .queued := by
  rcases arises with ⟨missing, job, there, queued⟩
  rw [status?, status?, missing, there]
  exact ⟨rfl, congrArg some queued⟩

theorem Move.statuses_of_lease (move : Move id (.lease agentId) a b) :
    a.status? = some .queued ∧ b.status? = some .running := by
  cases move with
  | lease status own => exact ⟨congrArg some status, rfl⟩

theorem Move.statuses_of_lapse (move : Move id (.lapse now) a b) :
    a.status? = some .running ∧ b.status? = some .failed := by
  cases move with
  | lapse status lease lapsed failed name own => exact ⟨congrArg some status, rfl⟩

theorem Move.statuses_of_progress {jobId : String} (move : Move id (.progress agentId jobId) a b) :
    b.status? = a.status? := by
  cases move with
  | progress status holder lease later own => rfl

theorem Move.name_of_finish {jobId : String} (move : Move id (.finish agentId jobId) a b) :
    jobId = id := by
  cases move
  rfl

theorem Move.name_of_withdrawal {jobId : String} (move : Move id (.withdrawal jobId) a b) :
    jobId = id := by
  cases move
  rfl

theorem Move.statuses_of_withdrawal {jobId : String} (move : Move id (.withdrawal jobId) a b) :
    a.status? = some .queued ∧ b.status? = some .cancelled := by
  cases move with
  | withdraw status own text => exact ⟨congrArg some status, rfl⟩

theorem Move.statuses_of_finish {jobId : String} {result : Job.Result}
    (move : Move id (.finish agentId jobId) a b) (written : b.result = some result) :
    a.status? = some .running ∧ b.status? = some result.status ∧
      result.status.isTerminal = true := by
  cases move with
  | finish status holder terminal name own =>
      cases written
      exact ⟨congrArg some status, rfl, terminal⟩

end Dossier

namespace Plane

/-!
# Events about one job
-/

def isJobAction (action : String) : Bool :=
  "job.".toList.isPrefixOf action.toList

def about (id : String) (events : List AuditEvent) : List AuditEvent :=
  events.filter (fun e => isJobAction e.action && e.subject = id)

variable {id action actor : String} {now : Instant}

theorem about_append (id : String) (first second : List AuditEvent) :
    about id (first ++ second) = about id first ++ about id second :=
  List.filter_append ..

theorem about_of_other {events : List AuditEvent}
    (other : ∀ e ∈ events, isJobAction e.action = false) : about id events = [] := by
  apply List.filter_eq_nil_iff.mpr
  intro e mem
  simp [other e mem]

theorem isJobAction_of_job : ∀ action ∈ ["job.created", "job.leased", "job.cancelled",
    "job.result", "job.expired"], isJobAction action = true := by
  decide +kernel

theorem isJobAction_of_other : ∀ action ∈ ["agent.registered", "port.block.allocated",
    "port.block.released", "port.allocated"], isJobAction action = false := by
  decide +kernel

theorem about_releaseEvents (id actor : String) (now : Instant) (blocks : List String) :
    about id (releaseEvents actor now blocks) = [] := by
  apply about_of_other
  intro e mem
  rcases List.mem_map.mp mem with ⟨block, _, rfl⟩
  exact isJobAction_of_other "port.block.released" (by simp)

theorem detail_resultEvent {agentId jobId : String} {reported : Reported} :
    (resultEvent agentId jobId now reported).detail.get? "status" =
      some (.text reported.result.status.word) := by
  simp [resultEvent, AuditEvent.noting]

theorem filter_of_nodup {jobs : List Job} (nodup : (jobs.map Job.id).Nodup) (id : String) :
    (id ∉ jobs.map Job.id ∧ jobs.filter (fun job => job.id = id) = []) ∨
      (id ∈ jobs.map Job.id ∧ ∃ job, jobs.filter (fun job => job.id = id) = [job]) := by
  have length : (jobs.filter (fun job => job.id = id)).length = (jobs.map Job.id).count id := by
    rw [List.count, List.countP_map, List.countP_eq_length_filter]
    rfl
  by_cases mem : id ∈ jobs.map Job.id
  · rw [List.count_eq_one_of_mem nodup mem] at length
    exact Or.inr ⟨mem, List.length_eq_one_iff.mp length⟩
  · rw [List.count_eq_zero.mpr mem] at length
    exact Or.inl ⟨mem, List.length_eq_zero_iff.mp length⟩

variable {change : String → Dossier → Dossier → Prop} {a m b : JobStore} {jobs : List Job}

/-- If the jobs that are told are those that change, a job is told of once if it changes, and
else it is not told of. -/
theorem about_of_marks (marks : a.Marks change (jobs.map Job.id) b)
    (ours : isJobAction action = true) (id actor : String) (now : Instant) :
    (about id (jobs.map (jobEvent action actor now)) = [] ∧ b.dossier id = a.dossier id) ∨
      ∃ e, about id (jobs.map (jobEvent action actor now)) = [e] ∧ e.action = action ∧
        change id (a.dossier id) (b.dossier id) := by
  have told : about id (jobs.map (jobEvent action actor now)) =
      (jobs.filter (fun job => job.id = id)).map (jobEvent action actor now) := by
    rw [about, List.filter_map]
    congr 1
    apply List.filter_congr
    intro job _
    show (isJobAction action && decide (job.id = id)) = decide (job.id = id)
    rw [ours, Bool.true_and]
  rw [told]
  rcases filter_of_nodup marks.nodup id with ⟨other, none_⟩ | ⟨mem, job, one⟩
  · rw [none_]
    exact Or.inl ⟨rfl, marks.kept id other⟩
  · rw [one]
    exact Or.inr ⟨_, rfl, rfl, marks.changed id mem⟩

/-!
# What is told by one step
-/

/-- What is told of a job when its status becomes another, and when it stays. -/
inductive Tells : Option Job.Status → List AuditEvent → Option Job.Status → Prop
  | nothing (s : Option Job.Status) : Tells s [] s
  | created {e : AuditEvent} (action : e.action = "job.created") :
      Tells none [e] (some .queued)
  | leased {e : AuditEvent} (action : e.action = "job.leased") :
      Tells (some .queued) [e] (some .running)
  | withdrawn {e : AuditEvent} (action : e.action = "job.cancelled") :
      Tells (some .queued) [e] (some .cancelled)
  | reported {e : AuditEvent} {final : Job.Status} (terminal : final.isTerminal = true)
      (action : e.action = "job.result")
      (detail : e.detail.get? "status" = some (.text final.word)) :
      Tells (some .running) [e] (some final)
  | expired {e : AuditEvent} (action : e.action = "job.expired") :
      Tells (some .running) [e] (some .failed)

theorem Tells.eq_none {s : Option Job.Status} {events : List AuditEvent}
    (tells : Tells s events none) : s = none := by
  cases tells
  rfl

theorem tells_of_kept (same : b.dossier id = a.dossier id) :
    Tells (a.dossier id).status? [] (b.dossier id).status? := by
  rw [same]
  exact .nothing _

theorem tells_of_arises {x y : Dossier} {e : AuditEvent} (arises : x.Arises y)
    (action : e.action = "job.created") : Tells x.status? [e] y.status? := by
  rw [arises.statuses.1, arises.statuses.2]
  exact .created action

theorem tells_of_lapse {x y : Dossier} {e : AuditEvent} (move : Dossier.Move id (.lapse now) x y)
    (action : e.action = "job.expired") : Tells x.status? [e] y.status? := by
  rw [move.statuses_of_lapse.1, move.statuses_of_lapse.2]
  exact .expired action

theorem tells_of_lease {agentId : String} {x y : Dossier} {e : AuditEvent}
    (move : Dossier.Move id (.lease agentId) x y) (action : e.action = "job.leased") :
    Tells x.status? [e] y.status? := by
  rw [move.statuses_of_lease.1, move.statuses_of_lease.2]
  exact .leased action

theorem tells_of_marks (marks : a.Marks change (jobs.map Job.id) b)
    (ours : isJobAction action = true)
    (tells : ∀ {x y : Dossier} {e : AuditEvent}, change id x y → e.action = action →
      Tells x.status? [e] y.status?)
    (actor : String) (now : Instant) :
    Tells (a.dossier id).status? (about id (jobs.map (jobEvent action actor now)))
      (b.dossier id).status? := by
  rcases about_of_marks marks ours id actor now with ⟨silent, kept⟩ | ⟨e, told, action, changed⟩
  · rw [silent]
    exact tells_of_kept kept
  · rw [told]
    exact tells changed action

/-- A job that lapses in a poll is not leased in it. -/
theorem tells_of_poll {agentId : String} {expired leased : List Job}
    (lapse : a.Marks (fun id => Dossier.Move id (.lapse now)) (expired.map Job.id) m)
    (lease : m.Marks (fun id => Dossier.Move id (.lease agentId)) (leased.map Job.id) b)
    (id : String) :
    Tells (a.dossier id).status?
      (about id (expired.map (jobEvent "job.expired" system now) ++
        leased.map (jobEvent "job.leased" agentId now)))
      (b.dossier id).status? := by
  rw [about_append]
  rcases about_of_marks lapse (isJobAction_of_job "job.expired" (by simp)) id system now with
    ⟨silent, kept⟩ | ⟨e, told, action, lapsed⟩
  · rw [silent, ← kept]
    exact tells_of_marks lease rfl tells_of_lease agentId now
  · rcases about_of_marks lease (isJobAction_of_job "job.leased" (by simp)) id agentId now with
      ⟨silent, kept⟩ | ⟨_, _, _, leased⟩
    · rw [silent, told, kept]
      exact tells_of_lapse lapsed action
    · exact absurd leased (JobStore.not_lease_of_lapse lapsed)

/-!
# What is told by the creation of jobs
-/

section Creation

variable {fresh : Fresh} {start : UInt64}
  (injective : ∀ m n, fresh.job m = fresh.job n → m = n)
  (numbers : a.Numbered start ∧ a.NamedByNumber fresh)
include injective numbers

theorem tells_of_created (created : JobStore.Created fresh a jobs b)
    (room : start.toNat + b.jobs.size < UInt64.size) (id actor : String) (now : Instant) :
    Tells (a.dossier id).status? (about id (jobs.map (jobEvent "job.created" actor now)))
      (b.dossier id).status? :=
  tells_of_marks (created.marks injective numbers room) rfl tells_of_arises actor now

theorem tells_of_finish {agentId jobId : String} {reported : Reported}
    (finish : JobStore.Step fresh (.finish agentId jobId) a m)
    (written : (m.dossier jobId).result = some reported.result)
    (created : JobStore.Created fresh m jobs b)
    (room : start.toNat + b.jobs.size < UInt64.size) (id : String) (now : Instant) :
    Tells (a.dossier id).status?
      (about id (resultEvent agentId jobId now reported :: creationEvents now jobs))
      (b.dossier id).status? := by
  have marks := created.marks injective (finish.numbered injective numbers) room
  rw [← List.singleton_append, about_append]
  rcases finish.move_of_ne_creation (by simp) with ⟨k, rewrites, move⟩
  cases move.name_of_finish
  rcases move.statuses_of_finish written with ⟨running, ended, terminal⟩
  by_cases hid : id = jobId
  · subst hid
    have told : about id [resultEvent agentId id now reported] =
        [resultEvent agentId id now reported] := by
      simp [about, resultEvent, AuditEvent.noting, AuditEvent.plain, isJobAction_of_job]
    rcases about_of_marks marks (isJobAction_of_job "job.created" (by simp)) id system now with
      ⟨silent, kept⟩ | ⟨_, _, _, arises⟩
    · rw [creationEvents, silent, told, kept, running, ended]
      exact .reported terminal rfl detail_resultEvent
    · have there := arises.statuses.1
      rw [ended] at there
      cases there
  · have other : about id [resultEvent agentId jobId now reported] = [] := by
      simp [about, resultEvent, AuditEvent.noting, AuditEvent.plain, Ne.symm hid]
    rw [other, ← rewrites.others id hid]
    exact tells_of_marks marks rfl tells_of_arises system now

end Creation

/-!
# What is told by one operation
-/

theorem tells_of_withdrawal {fresh : Fresh} {jobId : String}
    (withdraw : JobStore.Step fresh (.withdrawal jobId) a b) (id actor : String)
    (now : Instant) :
    Tells (a.dossier id).status? (about id [.plain "job.cancelled" actor jobId now])
      (b.dossier id).status? := by
  rcases withdraw.move_of_ne_creation (by simp) with ⟨k, rewrites, move⟩
  cases move.name_of_withdrawal
  by_cases hid : id = jobId
  · subst hid
    have told : about id [AuditEvent.plain "job.cancelled" actor id now] =
        [.plain "job.cancelled" actor id now] := by
      simp [about, AuditEvent.plain, isJobAction_of_job]
    rw [told, move.statuses_of_withdrawal.1, move.statuses_of_withdrawal.2]
    exact .withdrawn rfl
  · have other : about id [AuditEvent.plain "job.cancelled" actor jobId now] = [] := by
      simp [about, AuditEvent.plain, Ne.symm hid]
    rw [other]
    exact tells_of_kept (rewrites.others id hid)

theorem tells_of_progress {fresh : Fresh} {agentId jobId : String}
    (progress : JobStore.Step fresh (.progress agentId jobId) a b) (id : String) :
    Tells (a.dossier id).status? [] (b.dossier id).status? := by
  rcases progress.move_of_ne_creation (by simp) with ⟨k, rewrites, move⟩
  by_cases hid : id = k
  · subst hid
    rw [move.statuses_of_progress]
    exact .nothing _
  · exact tells_of_kept (rewrites.others id hid)

section Operations

variable {p : Plane} {fresh : Fresh} {operation : Operation} {events : List AuditEvent}
  {s : State} {start : UInt64}

theorem created_of_reconciled {ports : Port.Tables} {nodes : List String} {jobs : List Job}
    (reconciled : { p.state with ports := ports }.reconcileFirewalls fresh now nodes = (jobs, s)) :
    JobStore.Created fresh p.state.jobStore jobs s.jobStore := by
  have created := State.created_reconcileFirewalls { p.state with ports := ports } fresh now nodes
  rw [reconciled] at created
  exact created

theorem Records.tells (records : p.Records fresh now operation events s)
    (staged : p.state.jobStore.Staged) (names : fresh.NamesNewJobs p.state)
    (numbered : p.state.jobStore.Numbered start)
    (room : start.toNat + s.jobs.size < UInt64.size) (id : String) :
    Tells (p.state.dossier id).status? (about id events) (s.dossier id).status? := by
  have aside : ∀ {t : State}, t.jobStore = p.state.jobStore →
      (∀ e ∈ events, isJobAction e.action = false) →
      Tells (p.state.dossier id).status? (about id events) (t.dossier id).status? := by
    intro t same other
    rw [about_of_other other]
    exact tells_of_kept (congrArg (JobStore.dossier · id) same)
  have creates : ∀ (others : List AuditEvent) {jobs : List Job},
      about id others = [] → JobStore.Created fresh p.state.jobStore jobs s.jobStore →
      Tells (p.state.dossier id).status? (about id (others ++ creationEvents now jobs))
        (s.dossier id).status? := by
    intro others jobs silent created
    rw [about_append, silent]
    exact tells_of_created names.1 ⟨numbered, names.namedByNumber⟩ created room id system now
  cases records with
  | register registered =>
      refine aside ?_ ?_
      · rw [State.registerAgent_eq_ok registered]
        rfl
      · exact List.forall_mem_singleton.mpr (isJobAction_of_other "agent.registered" (by simp))
  | heartbeat taken => exact aside (State.jobStore_of_takeHeartbeat taken) (by simp)
  | poll polled =>
      rcases State.marks_pollForWork staged polled with ⟨m, lapse, lease⟩
      exact tells_of_poll lapse lease id
  | @submitResult agentId jobId report reported s submitted =>
      rcases State.steps_of_submitResult staged submitted with ⟨m, finish, written, created⟩
      have silent : about id (reported.followUp.released.flatMap
          (fun r => releaseEvents system now r.blocks)) = [] := by
        apply about_of_other
        intro e mem
        rcases List.mem_flatMap.mp mem with ⟨release, _, mem⟩
        rcases List.mem_map.mp mem with ⟨block, _, rfl⟩
        exact isJobAction_of_other "port.block.released" (by simp)
      rw [← List.cons_append, about_append, silent, List.append_nil]
      exact tells_of_finish names.1 ⟨numbered, names.namedByNumber⟩ finish written created room
        id now
  | submitLogs submitted =>
      exact tells_of_progress (State.step_of_submitLogs fresh staged submitted) id
  | @createJob order actor job s created =>
      exact tells_of_created names.1 ⟨numbered, names.namedByNumber⟩
        (State.created_createJob created) room id actor now
  | jobDetail => exact aside rfl (by simp)
  | cancelJob cancelled =>
      exact tells_of_withdrawal (State.step_of_cancelJob fresh staged cancelled) id _ now
  | expireStale swept =>
      have marks := State.marks_expireStale staged now
      rw [swept] at marks
      exact tells_of_marks marks rfl tells_of_lapse system now
  | addPool added => exact aside rfl (by simp)
  | addRange added => exact aside rfl (by simp)
  | allocateBlocks allocated =>
      refine aside rfl fun e mem => ?_
      rcases List.mem_map.mp mem with ⟨block, _, rfl⟩
      exact isJobAction_of_other "port.block.allocated" (by simp)
  | bindBlock bound reconciled => exact creates [] rfl (created_of_reconciled reconciled)
  | @releaseBlock blockId actor block ports jobs s released reconciled =>
      exact creates _ (about_releaseEvents id actor now [blockId])
        (created_of_reconciled reconciled)
  | @allocatePort req actor allocation ports jobs s allocated reconciled =>
      refine creates [allocationEvent actor now allocation] (about_of_other ?_)
        (created_of_reconciled reconciled)
      exact List.forall_mem_singleton.mpr (isJobAction_of_other "port.allocated" (by simp))
  | @releaseInstancePorts instanceId actor release ports jobs s released reconciled =>
      exact creates _ (about_releaseEvents id actor now release.blocks)
        (created_of_reconciled reconciled)
  | @reconcileFirewall nodeId jobs s reconciled =>
      have created := p.state.created_reconcileFirewall fresh nodeId now
      rw [reconciled] at created
      exact creates [] rfl created

end Operations

theorem tells_of_step {p : Plane} {step : Step} {start : UInt64} (staged : p.state.jobStore.Staged)
    (names : step.fresh.NamesNewJobs p.state) (numbered : p.state.jobStore.Numbered start)
    (room : start.toNat + (p.next step).state.jobs.size < UInt64.size) (id : String) :
    Tells (p.status? id) (about id (p.perform step).notices.audit) ((p.next step).status? id) := by
  cases p.recorded_perform step with
  | refused answer silent kept =>
      rw [silent, status?, status?, next, kept]
      exact .nothing _
  | @accepted a s revision answer records state =>
      have after : (p.next step).state = { s with revision := revision } := state
      rw [after] at room
      rw [show (p.next step).status? id = (s.dossier id).status? by rw [status?, after]; rfl]
      exact records.tells staged names numbered room id

end Plane

/-!
# Histories that grow
-/

namespace Job
namespace Status

def grow (history : List Status) (s : Option Status) : List Status :=
  if history.getLast? = s then history else history ++ s.toList

theorem grow_getLast? (history : List Status) : grow history history.getLast? = history :=
  if_pos rfl

theorem getLast?_grow (history : List Status) (s : Status) :
    (grow history (some s)).getLast? = some s := by
  unfold grow
  split
  · assumption
  · exact List.getLast?_concat

theorem grow_cons (first : Status) {rest : List Status} (some_ : rest ≠ []) (s : Status) :
    grow (first :: rest) (some s) = first :: grow rest (some s) := by
  unfold grow
  rw [List.getLast?_cons_of_ne_nil some_]
  split <;> rfl

theorem destutter'_concat (s next : Status) (rest : List Status) :
    (rest ++ [next]).destutter' (· ≠ ·) s = grow (rest.destutter' (· ≠ ·) s) (some next) := by
  induction rest generalizing s with
  | nil =>
      by_cases same : s = next
      · simp [grow, same]
      · simp [grow, same]
  | cons second rest ih =>
      rw [List.cons_append]
      by_cases same : s = second
      · rw [List.destutter'_cons_neg _ (not_not_intro same),
          List.destutter'_cons_neg _ (not_not_intro same)]
        exact ih s
      · rw [List.destutter'_cons_pos _ same, List.destutter'_cons_pos _ same, ih,
          grow_cons s (List.destutter'_ne_nil _ _)]

theorem destutter_concat (statuses : List Status) (next : Status) :
    (statuses ++ [next]).destutter (· ≠ ·) = grow (statuses.destutter (· ≠ ·)) (some next) := by
  cases statuses with
  | nil => rfl
  | cons s rest => exact destutter'_concat s next rest

end Status
end Job

namespace Plane

theorem statuses_concat (p : Plane) (steps : List Step) (step : Step) (id : String) :
    p.statuses (steps ++ [step]) id =
      p.statuses steps id ++ ((p.after (steps ++ [step])).status? id).toList := by
  induction steps generalizing p with
  | nil =>
      rw [List.nil_append, statuses_cons]
      simp only [statuses, visits, List.filterMap_cons, List.filterMap_nil, after_cons, after_nil]
      cases p.status? id <;> cases (p.next step).status? id <;> rfl
  | cons first rest ih =>
      rw [List.cons_append, statuses_cons, statuses_cons, ih, List.append_assoc]
      rfl

/-!
# What is told by a run
-/

/-- What is told of a job that has had these statuses. -/
inductive Told : List Job.Status → List AuditEvent → Prop
  | unknown : Told [] []
  | queued {c : AuditEvent} (created : c.action = "job.created") : Told [.queued] [c]
  | withdrawn {c w : AuditEvent} (created : c.action = "job.created")
      (withdrawn : w.action = "job.cancelled") : Told [.queued, .cancelled] [c, w]
  | running {c l : AuditEvent} (created : c.action = "job.created")
      (leased : l.action = "job.leased") : Told [.queued, .running] [c, l]
  | reported {c l r : AuditEvent} {final : Job.Status} (created : c.action = "job.created")
      (leased : l.action = "job.leased") (reported : r.action = "job.result")
      (terminal : final.isTerminal = true)
      (detail : r.detail.get? "status" = some (.text final.word)) :
      Told [.queued, .running, final] [c, l, r]
  | expired {c l e : AuditEvent} (created : c.action = "job.created")
      (leased : l.action = "job.leased") (expired : e.action = "job.expired") :
      Told [.queued, .running, .failed] [c, l, e]

section Life

variable {history : List Job.Status} {events more : List AuditEvent} {s : Option Job.Status}

theorem Told.of_none (told : Told history events) (last : history.getLast? = none) :
    history = [] ∧ events = [] := by
  cases told with
  | unknown => exact ⟨rfl, rfl⟩
  | queued | withdrawn | running | reported | expired => cases last

theorem Told.of_queued (told : Told history events) (last : history.getLast? = some .queued) :
    history = [.queued] ∧ ∃ c, c.action = "job.created" ∧ events = [c] := by
  cases told with
  | queued created => exact ⟨rfl, _, created, rfl⟩
  | reported _ _ _ terminal =>
      cases last
      cases terminal
  | unknown | withdrawn | running | expired => cases last

theorem Told.of_running (told : Told history events) (last : history.getLast? = some .running) :
    history = [.queued, .running] ∧
      ∃ c l, c.action = "job.created" ∧ l.action = "job.leased" ∧ events = [c, l] := by
  cases told with
  | running created leased => exact ⟨rfl, _, _, created, leased, rfl⟩
  | reported _ _ _ terminal =>
      cases last
      cases terminal
  | unknown | queued | withdrawn | expired => cases last

theorem Told.grow (told : Told history events) (tells : Tells history.getLast? more s) :
    Told (Job.Status.grow history s) (events ++ more) := by
  generalize last : history.getLast? = before at tells
  cases tells with
  | nothing =>
      rw [← last, Job.Status.grow_getLast?, List.append_nil]
      exact told
  | created action =>
      rcases told.of_none last with ⟨rfl, rfl⟩
      exact .queued action
  | leased action =>
      rcases told.of_queued last with ⟨rfl, c, created, rfl⟩
      exact .running created action
  | withdrawn action =>
      rcases told.of_queued last with ⟨rfl, c, created, rfl⟩
      exact .withdrawn created action
  | @reported e final terminal action detail =>
      rcases told.of_running last with ⟨rfl, c, l, created, leased, rfl⟩
      have other : Job.Status.running ≠ final := by
        rintro rfl
        cases terminal
      have grown : Job.Status.grow [.queued, .running] (some final) =
          [.queued, .running, final] := by
        simp [Job.Status.grow, other]
      rw [grown]
      exact .reported created leased action terminal detail
  | expired action =>
      rcases told.of_running last with ⟨rfl, c, l, created, leased, rfl⟩
      exact .expired created leased action

theorem Tells.getLast?_grow (tells : Tells history.getLast? more s) :
    (Job.Status.grow history s).getLast? = s := by
  cases s with
  | some next => exact Job.Status.getLast?_grow history next
  | none => rw [← tells.eq_none, Job.Status.grow_getLast?]

end Life

variable {p : Plane} {steps : List Step}

theorem history_concat (p : Plane) (steps : List Step) (step : Step) (id : String)
    {more : List AuditEvent}
    (tells : Tells (p.history steps id).getLast? more ((p.after (steps ++ [step])).status? id)) :
    p.history (steps ++ [step]) id =
      Job.Status.grow (p.history steps id) ((p.after (steps ++ [step])).status? id) := by
  rw [history, statuses_concat]
  cases now : (p.after (steps ++ [step])).status? id with
  | some next => exact Job.Status.destutter_concat _ next
  | none =>
      rw [now] at tells
      rw [Option.toList_none, List.append_nil, ← tells.eq_none, Job.Status.grow_getLast?]
      rfl

/-- What a run has had audited about its jobs: their lives, as far as they have come, and nothing
by an operation that is refused. -/
structure TellsLives (p : Plane) (steps : List Step) : Prop where
  told : ∀ id, Told (p.history steps id) (about id (p.trail steps))
  current : ∀ id, (p.history steps id).getLast? = (p.after steps).status? id
  silent : ∀ first step rest, first ++ step :: rest = steps → ∀ e,
    ((p.after first).perform step).answer = .error e →
      ((p.after first).perform step).notices.audit = []

theorem told_after (empty : p.state.jobStore.IsEmpty) (fresh : p.RunsFresh steps)
    (room : p.state.lastSeq.toNat + (p.after steps).state.jobs.size < UInt64.size)
    (id : String) :
    Told (p.history steps id) (about id (p.trail steps)) ∧
      (p.history steps id).getLast? = (p.after steps).status? id := by
  induction steps using List.reverseRecOn with
  | nil =>
      have missing : p.status? id = none := by
        have jobs : p.state.jobs = .empty := empty.1
        rw [status?, jobs]
        rfl
      have none_ : p.history [] id = [] := by
        simp [history, statuses, visits, missing]
      rw [none_]
      exact ⟨.unknown, missing.symm⟩
  | append_singleton steps step ih =>
      rcases runsFresh_append.mp fresh with ⟨before, names, _⟩
      have staged := staged_after empty.staged before
      have after : p.after (steps ++ [step]) = (p.after steps).next step := by
        rw [after_append]
        rfl
      rw [after] at room
      have le := size_le_next step staged
      rcases ih before (by omega) with ⟨told, last⟩
      have tells := tells_of_step staged names (numbered_after empty before) room id
      rw [← last, ← after] at tells
      have trail : p.trail (steps ++ [step]) =
          p.trail steps ++ ((p.after steps).perform step).notices.audit := by
        rw [trail_append]
        exact congrArg (p.trail steps ++ ·) (List.append_nil _)
      rw [p.history_concat steps step id tells, trail, about_append]
      exact ⟨told.grow tells, tells.getLast?_grow⟩

theorem tellsLives_after (empty : p.state.jobStore.IsEmpty) (fresh : p.RunsFresh steps)
    (room : p.state.lastSeq.toNat + (p.after steps).state.jobs.size < UInt64.size) :
    p.TellsLives steps where
  told := fun id => (told_after empty fresh room id).1
  current := fun id => (told_after empty fresh room id).2
  silent := fun _ _ _ _ _ refused => silent_of_refused refused

theorem tellsLives_after_loss :
    lostPlane.state.jobStore.IsEmpty ∧ lostPlane.RunsFresh lostRun ∧
      lostPlane.state.lastSeq.toNat + (lostPlane.after lostRun).state.jobs.size < UInt64.size ∧
      (about "b|" (lostPlane.trail lostRun)).map AuditEvent.action =
        ["job.created", "job.leased", "job.expired"] ∧
      lostPlane.TellsLives lostRun := by
  have empty : lostPlane.state.jobStore.IsEmpty := ⟨rfl, rfl, rfl⟩
  have room : lostPlane.state.lastSeq.toNat + (lostPlane.after lostRun).state.jobs.size <
      UInt64.size := by
    decide +kernel
  exact ⟨empty, runsFresh_lostRun, room, by decide +kernel,
    tellsLives_after empty runsFresh_lostRun room⟩

end Plane
end FleetControl
