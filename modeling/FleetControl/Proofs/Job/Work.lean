import Mathlib.Data.List.Forall2
import FleetControl.Job.Basic
import FleetControl.Proofs.Port.Rule
import FleetControl.State.Firewalls

/-!
# The work of firewall jobs

A job that opens or closes ports means a node and a list of rules, none of which has port
zero.  The jobs that the plane requests of its own accord mean what they were requested
for.
-/

namespace FleetControl

open Port
open Refusal

theorem Refusal.mapM_eq_ok {ε α β : Type} {f : α → Except ε β} {xs : List α} {ys : List β} :
    xs.mapM f = .ok ys ↔ List.Forall₂ (fun x y => f x = .ok y) xs ys := by
  induction xs generalizing ys with
  | nil =>
      rw [List.mapM_nil, pure_eq_ok, List.forall₂_nil_left_iff, eq_comm]
  | cons x rest ih =>
      rw [List.mapM_cons, bind_eq_ok, List.forall₂_cons_left_iff]
      refine exists_congr fun y => ?_
      rw [bind_eq_ok]
      constructor
      · rintro ⟨hy, more, hmore, h⟩
        exact ⟨more, hy, ih.mp hmore, (pure_eq_ok.mp h).symm⟩
      · rintro ⟨more, hy, hmore, h⟩
        exact ⟨hy, more, ih.mpr hmore, pure_eq_ok.mpr h.symm⟩

namespace Job

def IsFirewall (job : Job) : Prop :=
  job.type = State.openPortsType ∨ job.type = State.closePortsType

instance (job : Job) : Decidable job.IsFirewall :=
  inferInstanceAs (Decidable (job.type = State.openPortsType ∨ job.type = State.closePortsType))

namespace Work

variable {type nodeId : String} {payload : Payload} {rules : List Rule}

/-!
# Rules
-/

theorem ruleList_eq_ok {s : String} :
    ruleList type s = .ok rules ↔
      List.Forall₂ (fun item r => Rule.read item = .ok r) (items s) rules := by
  rw [ruleList, mapM_eq_ok]
  refine ⟨fun h => h.imp ?_, fun h => h.imp ?_⟩
  · intro item r h
    split at h
    · rename_i found
      rw [found, Except.ok.inj h]
    · cases h
  · intro item r h
    rw [h]

theorem ruleList_listText (positive : ∀ r ∈ rules, r.port ≠ 0) :
    ruleList type (listText rules) = .ok rules := by
  rw [ruleList_eq_ok, items, listItems_listText, List.forall₂_map_left_iff, List.forall₂_same]
  exact fun r hr => Rule.read_text (positive r hr)

theorem positive_of_ruleList {s : String} (h : ruleList type s = .ok rules) :
    ∀ r ∈ rules, r.port ≠ 0 := by
  have read := ruleList_eq_ok.mp h
  clear h
  generalize items s = items at read
  induction read with
  | nil => simp
  | cons first _ ih =>
      exact List.forall_mem_cons.mpr ⟨Rule.positive_of_readChars first, ih⟩

/-!
# Firewall jobs
-/

theorem positive_of_ofFirewall {work : Work} (h : ofFirewall type payload = .ok work) :
    ∃ nodeId rules, work = .firewall nodeId rules ∧ ∀ r ∈ rules, r.port ≠ 0 := by
  unfold ofFirewall at h
  rcases bind_eq_ok.mp h with ⟨ports, _, h⟩
  rcases bind_eq_ok.mp h with ⟨rules, hrules, h⟩
  rcases bind_eq_ok.mp h with ⟨nodeId, _, h⟩
  exact ⟨nodeId, rules, (pure_eq_ok.mp h).symm, positive_of_ruleList hrules⟩

theorem ofFamily_ne_firewall : ofFamily type payload ≠ .ok (.firewall nodeId rules) := by
  intro h
  unfold ofFamily at h
  split at h
  · cases h
  · split at h
    · unfold ofVoiceServer at h
      split at h <;> cases h
    · split at h
      · rcases bind_eq_ok.mp h with ⟨_, _, h⟩
        cases h
      · cases h

def IsAside (work : Work) : Prop :=
  (∀ nodeId rules, work ≠ .firewall nodeId rules) ∧
    ∀ instanceId nodeId action, work ≠ .lifecycle instanceId nodeId action

/-- Firewall jobs mean work on firewalls, and work on instances is that of a family. -/
theorem decode_cases {work : Work} (h : decode type payload = .ok work) :
    ((type = State.openPortsType ∨ type = State.closePortsType) ∧
      ofFirewall type payload = .ok work) ∨
    ofFamily type payload = .ok work ∨ work.IsAside := by
  have mapped : ∀ {x : Except Flaw String} {f : String → Work},
      (∀ s, (f s).IsAside) → x.map f = .ok work → work.IsAside := by
    intro x f aside h
    rcases map_eq_ok.mp h with ⟨s, _, rfl⟩
    exact aside s
  unfold decode at h
  split at h
  case h_3 => exact Or.inl ⟨Or.inl rfl, h⟩
  case h_4 => exact Or.inl ⟨Or.inr rfl, h⟩
  case h_6 =>
    unfold ofDdosPolicy at h
    rcases bind_eq_ok.mp h with ⟨_, _, h⟩
    rcases bind_eq_ok.mp h with ⟨_, _, h⟩
    rcases bind_eq_ok.mp h with ⟨_, _, h⟩
    rcases bind_eq_ok.mp h with ⟨_, _, h⟩
    cases pure_eq_ok.mp h
    exact Or.inr (Or.inr ⟨nofun, nofun⟩)
  case h_12 =>
    rcases bind_eq_ok.mp h with ⟨_, _, h⟩
    rcases bind_eq_ok.mp h with ⟨_, _, h⟩
    cases pure_eq_ok.mp h
    exact Or.inr (Or.inr ⟨nofun, nofun⟩)
  case h_13 => exact Or.inr (Or.inl h)
  all_goals exact Or.inr (Or.inr (mapped (by simp [IsAside]) h))

theorem ofFirewall_of_decode (h : decode type payload = .ok (.firewall nodeId rules)) :
    (type = State.openPortsType ∨ type = State.closePortsType) ∧
      ofFirewall type payload = .ok (.firewall nodeId rules) := by
  rcases decode_cases h with firewall | family | aside
  · exact firewall
  · exact absurd family ofFamily_ne_firewall
  · exact absurd rfl (aside.1 nodeId rules)

theorem positive_of_decode (h : decode type payload = .ok (.firewall nodeId rules)) :
    ∀ r ∈ rules, r.port ≠ 0 := by
  rcases positive_of_ofFirewall (ofFirewall_of_decode h).2 with ⟨_, _, same, positive⟩
  cases same
  exact positive

theorem decode_of_firewallType (firewall : type = State.openPortsType ∨
    type = State.closePortsType) : decode type payload = ofFirewall type payload := by
  rcases firewall with rfl | rfl <;> rfl

theorem decode_of_isFirewall {job : Job} (firewall : job.IsFirewall) :
    decode job.type job.payload = ofFirewall job.type job.payload :=
  decode_of_firewallType firewall

theorem optional_eq_some_iff {field s : String} :
    optional payload field = some s ↔
      ∃ written, payload.get? field = some written ∧ Text.trim written = s ∧ s ≠ "" := by
  simp only [optional, Option.filter_eq_some_iff, Option.map_eq_some_iff, Bool.not_eq_true',
    String.isEmpty_eq_false_iff]
  constructor
  · rintro ⟨⟨written, get, trim⟩, named⟩
    exact ⟨written, get, trim, named⟩
  · rintro ⟨written, get, trim, named⟩
    exact ⟨⟨written, get, trim⟩, named⟩

theorem trimmed_of_optional {field s : String} (h : optional payload field = some s) :
    Text.trim s = s ∧ s ≠ "" := by
  rcases optional_eq_some_iff.mp h with ⟨written, _, rfl, named⟩
  exact ⟨Text.trim_trim written, named⟩

theorem optional_of_blank {field s : String} (h : payload.get? field = some s)
    (blank : Text.trim s = "") : optional payload field = none := by
  simp [optional, h, blank]

theorem optional_of_some {field s : String} (h : payload.get? field = some s)
    (named : Text.trim s ≠ "") : optional payload field = some (Text.trim s) := by
  simp [optional, h, named]

theorem optional_of_trimmed {field s : String} (h : payload.get? field = some s)
    (trimmed : Text.trim s = s) (named : s ≠ "") : optional payload field = some s := by
  simp [optional, h, trimmed, named]

theorem nodeOption_of_nodeId? {job : Job} (h : job.nodeId? = some nodeId)
    (trimmed : Text.trim nodeId = nodeId) (named : nodeId ≠ "") :
    nodeOption job.payload = some nodeId := by
  unfold nodeId? at h
  unfold nodeOption
  cases hnode : job.payload.get? "node_id" with
  | none =>
      rw [hnode, Option.none_or] at h
      rw [optional_of_trimmed h trimmed named, optional, hnode]
      rfl
  | some other =>
      rw [hnode, Option.some_or] at h
      rw [optional_of_trimmed (hnode.trans h) trimmed named, Option.some_or]

theorem decode_of_ports {job : Job} (firewall : job.IsFirewall)
    (node : job.nodeId? = some nodeId) (trimmed : Text.trim nodeId = nodeId) (named : nodeId ≠ "")
    (ports : job.payload.get? "ports" = some (listText rules)) (some_ : rules ≠ [])
    (positive : ∀ r ∈ rules, r.port ≠ 0) :
    decode job.type job.payload = .ok (.firewall nodeId rules) := by
  have text := optional_of_trimmed ports (trim_listText rules) (listText_ne_empty some_)
  rw [decode_of_isFirewall firewall, ofFirewall, required, text]
  refine bind_eq_ok.mpr ⟨_, rfl, bind_eq_ok.mpr ⟨_, ruleList_listText positive, ?_⟩⟩
  rw [Work.node, nodeOption_of_nodeId? node trimmed named]
  rfl

/-!
# Jobs that the plane requests

A node has the name that somebody gave to its pool or its allocation.  Nobody looks at this
name before a payload is made of it.
-/

/-- A request for a node with a blank name means nothing, and any other means the rules of the
node with the trimmed name. -/
theorem decode_firewallPayload (firewall : type = State.openPortsType ∨
      type = State.closePortsType) (some_ : rules ≠ []) (positive : ∀ r ∈ rules, r.port ≠ 0) :
    decode type (State.firewallPayload nodeId (listText rules)) =
      if Text.trim nodeId = "" then .error (.missing type "node_id")
      else .ok (.firewall (Text.trim nodeId) rules) := by
  have ports : optional (State.firewallPayload nodeId (listText rules)) "ports" =
      some (listText rules) :=
    optional_of_trimmed (by simp [State.firewallPayload]) (trim_listText rules)
      (listText_ne_empty some_)
  have node : (State.firewallPayload nodeId (listText rules)).get? "node_id" = some nodeId := by
    simp [State.firewallPayload]
  have agent : (State.firewallPayload nodeId (listText rules)).get? "agent_id" = some nodeId := by
    simp [State.firewallPayload]
  rw [decode_of_firewallType firewall, ofFirewall, required, ports]
  simp only [bind, Except.bind, ruleList_listText positive, Work.node, nodeOption]
  by_cases blank : Text.trim nodeId = ""
  · rw [optional_of_blank node blank, optional_of_blank agent blank, if_pos blank]
    rfl
  · rw [optional_of_some node blank, if_neg blank]
    rfl

end Work
end Job
end FleetControl
