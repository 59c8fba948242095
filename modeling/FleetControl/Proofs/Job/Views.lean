import FleetControl.Proofs.Job.Work
import FleetControl.Proofs.Plane.Run
import FleetControl.State.Dispatch

/-!
# Two readings of a payload

The queue takes the agent and the node of a job from the texts of its payload as they are
written.  The work of the job has them trimmed, and there a blank text counts as missing.  Both
readings name the same agent and the same node exactly when these texts are written tidily.  An
agent that is written with blanks around its name is never found.
-/

namespace FleetControl

open Refusal
open Time

namespace Job

variable {type nodeId agentId written : String} {payload : Payload} {work : Work} {job : Job}

namespace Work

def nodeId? : Work → Option String
  | .firewall nodeId _ => some nodeId
  | .ddosCheck nodeId => some nodeId
  | .ddosPolicy nodeId _ _ _ _ => some nodeId
  | .nodeDiskStat nodeId => some nodeId
  | .lifecycle _ nodeId _ => nodeId
  | .diskScan _ nodeId => nodeId
  | _ => none

theorem node_eq_ok : node type payload = .ok nodeId ↔ nodeOption payload = some nodeId := by
  unfold node
  cases nodeOption payload <;> simp

/-!
# The node of the work

Whatever the type of a job, its work has the node from the same two fields.
-/

theorem nodeOption_of_ofFirewall (h : ofFirewall type payload = .ok work)
    (node : work.nodeId? = some nodeId) : nodeOption payload = some nodeId := by
  unfold ofFirewall at h
  rcases bind_eq_ok.mp h with ⟨ports, _, h⟩
  rcases bind_eq_ok.mp h with ⟨rules, _, h⟩
  rcases bind_eq_ok.mp h with ⟨found, hfound, h⟩
  cases pure_eq_ok.mp h
  cases node
  exact node_eq_ok.mp hfound

theorem nodeOption_of_ofDdosPolicy (h : ofDdosPolicy type payload = .ok work)
    (node : work.nodeId? = some nodeId) : nodeOption payload = some nodeId := by
  unfold ofDdosPolicy at h
  rcases bind_eq_ok.mp h with ⟨found, hfound, h⟩
  rcases bind_eq_ok.mp h with ⟨mode, _, h⟩
  rcases bind_eq_ok.mp h with ⟨ports, _, h⟩
  rcases bind_eq_ok.mp h with ⟨enabled, _, h⟩
  cases pure_eq_ok.mp h
  cases node
  exact node_eq_ok.mp hfound

theorem nodeOption_of_ofFamily (h : ofFamily type payload = .ok work)
    (node : work.nodeId? = some nodeId) : nodeOption payload = some nodeId := by
  unfold ofFamily at h
  split at h
  · cases h
    cases node
  · split at h
    · unfold ofVoiceServer at h
      split at h
      · cases h
        cases node
      · cases h
    · split at h
      · rcases bind_eq_ok.mp h with ⟨instanceId, _, h⟩
        cases pure_eq_ok.mp h
        exact node
      · cases h
        cases node

theorem nodeOption_of_decode (h : decode type payload = .ok work)
    (node : work.nodeId? = some nodeId) : nodeOption payload = some nodeId := by
  have nodeOnly : ∀ {f : String → Work}, (∀ s, (f s).nodeId? = some s) →
      (Work.node type payload).map f = .ok work → nodeOption payload = some nodeId := by
    intro f names h
    rcases map_eq_ok.mp h with ⟨found, hfound, rfl⟩
    rw [names found] at node
    cases node
    exact node_eq_ok.mp hfound
  have noNode : ∀ {x : Except Flaw String} {f : String → Work}, (∀ s, (f s).nodeId? = none) →
      x.map f = .ok work → nodeOption payload = some nodeId := by
    intro x f nameless h
    rcases map_eq_ok.mp h with ⟨s, _, rfl⟩
    rw [nameless s] at node
    cases node
  unfold decode at h
  split at h
  case h_3 | h_4 => exact nodeOption_of_ofFirewall h node
  case h_5 | h_11 => exact nodeOnly (fun _ => rfl) h
  case h_6 => exact nodeOption_of_ofDdosPolicy h node
  case h_7 =>
    rcases map_eq_ok.mp h with ⟨instanceId, _, rfl⟩
    exact node
  case h_12 =>
    rcases bind_eq_ok.mp h with ⟨userId, _, h⟩
    rcases bind_eq_ok.mp h with ⟨requestId, _, h⟩
    cases pure_eq_ok.mp h
    cases node
  case h_13 => exact nodeOption_of_ofFamily h node
  all_goals exact noNode (fun _ => rfl) h

theorem trimmed_of_nodeOption (h : nodeOption payload = some nodeId) :
    Text.trim nodeId = nodeId ∧ nodeId ≠ "" := by
  rcases Option.or_eq_some_iff.mp h with own | ⟨_, agent⟩
  · exact trimmed_of_optional own
  · exact trimmed_of_optional agent

end Work

/-!
# Agreement
-/

/-- The job is queued for the agent that its payload names, and for the node of its work. -/
structure ViewsAgree (job : Job) : Prop where
  target : ∀ agentId, job.targetAgent? = some agentId ↔
    ∃ written, job.payload.get? "agent_id" = some written ∧ Text.trim written = agentId ∧
      agentId ≠ ""
  node : ∀ work nodeId, Work.decode job.type job.payload = .ok work →
    work.nodeId? = some nodeId → job.nodeId? = some nodeId

/-- An agent is written without blanks around its name, and a node that the work needs is not
written blank either. -/
structure IsTidy (job : Job) : Prop where
  agent : ∀ written, job.payload.get? "agent_id" = some written → Text.trim written = written
  node : ∀ written work, job.payload.get? "node_id" = some written →
    Work.decode job.type job.payload = .ok work → work.nodeId? ≠ none →
    Text.trim written = written ∧ written ≠ ""

theorem targetAgent?_eq_some_iff :
    job.targetAgent? = some agentId ↔
      job.payload.get? "agent_id" = some agentId ∧ agentId ≠ "" := by
  simp [targetAgent?, Option.filter_eq_some_iff]

theorem nodeId?_of_written (h : job.payload.get? "node_id" = some written) :
    job.nodeId? = some written := by
  rw [nodeId?, h, Option.some_or]

theorem nodeId?_of_unwritten (h : job.payload.get? "node_id" = none) :
    job.nodeId? = job.payload.get? "agent_id" := by
  rw [nodeId?, h, Option.none_or]

theorem nodeOption_of_unwritten (h : payload.get? "node_id" = none) :
    Work.nodeOption payload = Work.optional payload "agent_id" := by
  have none_ : Work.optional payload "node_id" = none := by simp [Work.optional, h]
  rw [Work.nodeOption, none_, Option.none_or]

theorem ViewsAgree.isTidy (agree : job.ViewsAgree) : job.IsTidy := by
  constructor
  case agent =>
    intro written hwritten
    by_cases blank : written = ""
    · rw [blank]
      rfl
    · have target := targetAgent?_eq_some_iff.mpr ⟨hwritten, blank⟩
      rcases (agree.target written).mp target with ⟨other, hother, trim, _⟩
      cases hwritten.symm.trans hother
      exact trim
  case node =>
    intro written work hwritten meant names
    rcases Option.ne_none_iff_exists'.mp names with ⟨nodeId, named⟩
    have same := (nodeId?_of_written hwritten).symm.trans (agree.node work nodeId meant named)
    cases same
    exact Work.trimmed_of_nodeOption (Work.nodeOption_of_decode meant named)

theorem IsTidy.viewsAgree (tidy : job.IsTidy) : job.ViewsAgree := by
  constructor
  case target =>
    intro agentId
    rw [targetAgent?_eq_some_iff]
    constructor
    · rintro ⟨hwritten, named⟩
      exact ⟨agentId, hwritten, tidy.agent agentId hwritten, named⟩
    · rintro ⟨written, hwritten, trim, named⟩
      rw [tidy.agent written hwritten] at trim
      exact ⟨trim ▸ hwritten, named⟩
  case node =>
    intro work nodeId meant named
    have node := Work.nodeOption_of_decode meant named
    cases hwritten : job.payload.get? "node_id" with
    | some written =>
        have names : work.nodeId? ≠ none := by simp [named]
        rcases tidy.node written work hwritten meant names with ⟨trimmed, some_⟩
        have raw := nodeId?_of_written hwritten
        rw [raw, ← node, Work.nodeOption_of_nodeId? raw trimmed some_]
    | none =>
        rw [nodeOption_of_unwritten hwritten] at node
        rcases Work.optional_eq_some_iff.mp node with ⟨written, agent, trim, _⟩
        rw [nodeId?_of_unwritten hwritten, agent, ← trim, tidy.agent written agent]

/-- No agent with a trimmed name may lease a job whose agent is written with blanks around its
name. -/
theorem not_mayLease_of_padded {policy : DispatchPolicy} {observers : List Observer}
    {agent : Agent} {updates : Nat} (h : job.payload.get? "agent_id" = some written)
    (padded : Text.trim written ≠ written) (trimmed : Text.trim agentId = agentId) :
    State.mayLease policy observers agentId agent updates job = false := by
  have some_ : written ≠ "" := by
    rintro rfl
    exact padded rfl
  have other : written ≠ agentId := by
    rintro rfl
    exact padded trimmed
  have target := targetAgent?_eq_some_iff.mpr ⟨h, some_⟩
  simp [State.mayLease, target, other]

end Job

namespace State

variable {s s' : State} {fresh : Fresh} {now : Instant} {order : Job.Order} {job : Job}

theorem jobType?_eq_some {type written : String} (h : jobType? written = some type) :
    type = Text.trim written := by
  rcases Option.ite_none_left_eq_some.mp h with ⟨_, same⟩
  exact (Option.some.inj same).symm

theorem createJob_of_decode (fresh : Fresh) (now : Instant) {type : String} {work : Job.Work}
    (htype : jobType? order.type = some type)
    (meant : Job.Work.decode type order.payload = .ok work) :
    s.createJob fresh order now =
      .ok (s.insertJob fresh type order.payload order.createdBy now) := by
  simp only [createJob, htype, meant]

/-- A job that is accepted is stored with the payload that it was ordered with.  The queue and
its work name the same agent and the same node exactly when the payload is tidy, and with blanks
around its agent the job is passed over by every agent whose name is trimmed. -/
theorem viewsAgree_iff (h : s.createJob fresh order now = .ok (job, s')) :
    (s'.jobs.get? job.id = some job ∧ job.type = Text.trim order.type ∧
      job.payload = order.payload) ∧
    (job.ViewsAgree ↔ job.IsTidy) ∧
    ∀ written, order.payload.get? "agent_id" = some written → Text.trim written ≠ written →
      ∀ policy observers agentId agent updates, Text.trim agentId = agentId →
        mayLease policy observers agentId agent updates job = false := by
  unfold createJob at h
  split at h
  · cases h
  · rename_i type htype
    split at h
    · cases h
    · cases h
      refine ⟨⟨?_, jobType?_eq_some htype, rfl⟩, ?_, ?_⟩
      · exact (Table.get?_insert s.jobs _ _ _).trans (if_pos rfl)
      · exact ⟨Job.ViewsAgree.isTidy, Job.IsTidy.viewsAgree⟩
      · intro written hwritten padded policy observers agentId agent updates trimmed
        exact Job.not_mayLease_of_padded hwritten padded trimmed

/-!
# A start and a measurement

The start of an instance is ordered with blanks around its type and with an empty agent, which
is no agent in either reading.  The disk of a node is measured for an agent that is written with
a blank before its name, and with an empty text for the node.
-/

def startOrder : Job.Order :=
  { type := " instance.start "
    payload := .ofList [("instance_id", "i1"), ("node_id", "n1"), ("agent_id", "")]
    createdBy := none }

def paddedOrder : Job.Order :=
  { type := "node.disk.stat"
    payload := .ofList [("node_id", ""), ("agent_id", " a")]
    createdBy := none }

theorem jobType?_padded : jobType? paddedOrder.type = some "node.disk.stat" := by
  decide +kernel

theorem decode_padded :
    Job.Work.decode "node.disk.stat" paddedOrder.payload = .ok (.nodeDiskStat "a") := by
  decide +kernel

theorem viewsAgree_iff_start :
    (∃ job s', State.empty.createJob (.strokes 'j') startOrder .epoch = .ok (job, s') ∧
      job.ViewsAgree) ∧
    ∃ job s', State.empty.createJob (.strokes 'j') paddedOrder .epoch = .ok (job, s') ∧
      ∀ policy agent, mayLease policy [] "a" agent 0 job = false := by
  constructor
  · have type : jobType? startOrder.type = some "instance.start" := by decide +kernel
    have meant : Job.Work.decode "instance.start" startOrder.payload =
        .ok (.lifecycle "i1" (some "n1") .start) := by decide +kernel
    have accepted := createJob_of_decode (s := .empty) (.strokes 'j') .epoch type meant
    refine ⟨_, _, accepted, (viewsAgree_iff accepted).2.1.mpr ⟨?_, ?_⟩⟩
    · intro written hwritten
      cases hwritten
      rfl
    · intro written work hwritten _ _
      cases hwritten
      decide +kernel
  · have accepted := createJob_of_decode (s := .empty) (.strokes 'j') .epoch jobType?_padded
      decode_padded
    refine ⟨_, _, accepted, fun policy agent => ?_⟩
    exact (viewsAgree_iff accepted).2.2 " a" rfl (by decide +kernel) policy [] "a" agent 0
      (by decide +kernel)

/-- The work is for the node `a`, and the queue has the agent ` a` and a node without a name. -/
theorem not_viewsAgree_padded :
    ∃ job s', State.empty.createJob (.strokes 'j') paddedOrder .epoch = .ok (job, s') ∧
      Job.Work.decode job.type job.payload = .ok (.nodeDiskStat "a") ∧
      job.targetAgent? = some " a" ∧ job.nodeId? = some "" ∧ ¬ job.ViewsAgree := by
  refine ⟨_, _, createJob_of_decode (.strokes 'j') .epoch jobType?_padded decode_padded,
    decode_padded, rfl, rfl, ?_⟩
  intro agree
  have node : some "" = some "a" := agree.node _ _ decode_padded rfl
  exact absurd node (by decide)

end State
end FleetControl
