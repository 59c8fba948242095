import FleetControl.Proofs.Job.Work
import FleetControl.Proofs.Port.Spelling

/-!
# Port lists in payloads

A firewall job with a node means the rules that its list of ports spells, in their order, and
these only.  One entry that is neither blank nor a rule in one of the two spellings spoils the
whole list.  The list that is written for rules spells these rules.
-/

namespace FleetControl

open Text
open Port
open Refusal

theorem Refusal.exists_of_mapM_error {ε α β : Type} {f : α → Except ε β} {xs : List α} {e : ε}
    (h : xs.mapM f = .error e) : ∃ x ∈ xs, f x = .error e := by
  induction xs with
  | nil => cases h
  | cons x rest ih =>
      rw [List.mapM_cons] at h
      cases first : f x with
      | error flaw =>
          rw [first] at h
          cases h
          exact ⟨x, List.mem_cons_self, first⟩
      | ok y =>
          rw [first] at h
          cases others : rest.mapM f with
          | error flaw =>
              simp only [others, bind, Except.bind] at h
              cases h
              rcases ih others with ⟨x', hx', found⟩
              exact ⟨x', List.mem_cons_of_mem x hx', found⟩
          | ok ys =>
              simp only [others, bind, Except.bind] at h
              cases h

namespace Port

theorem spellsList_listText {rules : List Rule} (positive : ∀ r ∈ rules, r.port ≠ 0) :
    SpellsList rules (listText rules).toList := by
  refine ⟨rules.map Rule.textChars, toList_listText rules, ?_⟩
  induction rules with
  | nil => exact .nil
  | cons r rest ih =>
      rcases List.forall_mem_cons.mp positive with ⟨first, others⟩
      exact .rule (Rule.spells_textChars first) (ih others)

end Port

namespace Job
namespace Work

variable {type nodeId text : String} {payload : Payload} {rules : List Rule}

/-!
# The rules of a text
-/

theorem ruleList_eq_ok_iff_spells (type : String) {s : String} :
    ruleList type s = .ok rules ↔ SpellsList rules s.toList := by
  rw [ruleList_eq_ok, items, List.forall₂_map_left_iff, listItems, pieces_eq_splitOn,
    spellsList_iff, ← entries_iff]
  simp only [Rule.read, String.toList_ofList]

theorem ruleList_error {s : String} {flaw : Flaw} (h : ruleList type s = .error flaw) :
    ∃ ruleFlaw, flaw = .invalid type "ports" (.rule ruleFlaw) := by
  rcases exists_of_mapM_error h with ⟨item, _, refused⟩
  split at refused
  · cases refused
  · cases refused
    exact ⟨_, rfl⟩

theorem ruleList_trim (type s : String) : ruleList type (trim s) = ruleList type s := by
  rw [ruleList, items, trim, String.toList_ofList, listItems_trimChars]
  rfl

/-- Every entry of a list that is read is blank or spells a rule. -/
theorem ruleList_of_entry (type : String) {s : String} {entry : List Char}
    (mem : entry ∈ s.toList.splitOn ',') (some_ : ¬ AllBlank entry)
    (noRule : ∀ r : Rule, ¬ r.Spells entry) :
    ∃ ruleFlaw, ruleList type s = .error (.invalid type "ports" (.rule ruleFlaw)) := by
  cases read : ruleList type s with
  | error flaw =>
      rcases ruleList_error read with ⟨ruleFlaw, rfl⟩
      exact ⟨ruleFlaw, rfl⟩
  | ok rules =>
      rcases (spellsList_iff.mp ((ruleList_eq_ok_iff_spells type).mp read)).of_mem mem some_ with
        ⟨r, _, spells⟩
      exact absurd spells (noRule r)

theorem ruleList_of_blank {s : String} (blank : trim s = "") : ruleList type s = .ok [] := by
  rw [← ruleList_trim, blank]
  rfl

/-!
# The rules of a payload
-/

section Payload

variable (firewall : type = State.openPortsType ∨ type = State.closePortsType)
  (ports : payload.get? "ports" = some text)

include ports

theorem ofFirewall_of_ports (some_ : trim text ≠ "") :
    ofFirewall type payload = do
      let rules ← ruleList type text
      let nodeId ← node type payload
      return .firewall nodeId rules := by
  rw [ofFirewall, required, optional_of_some ports some_]
  simp only [bind, Except.bind, ruleList_trim]

include firewall

theorem decode_eq_ok_iff_spells (node_ : payload.get? "node_id" = some nodeId)
    (trimmed : trim nodeId = nodeId) (named : nodeId ≠ "") (some_ : rules ≠ []) :
    decode type payload = .ok (.firewall nodeId rules) ↔ SpellsList rules text.toList := by
  rw [← ruleList_eq_ok_iff_spells type, decode_of_firewallType firewall]
  by_cases blank : trim text = ""
  · rw [ruleList_of_blank blank, ofFirewall, required, optional_of_blank ports blank]
    constructor
    · intro h
      cases h
    · intro same
      exact absurd (Except.ok.inj same).symm some_
  · have found : node type payload = .ok nodeId := by
      rw [node, nodeOption, optional_of_trimmed node_ trimmed named]
      rfl
    rw [ofFirewall_of_ports ports blank, found, bind_eq_ok]
    constructor
    · rintro ⟨read, hread, same⟩
      cases same
      exact hread
    · intro hread
      exact ⟨rules, hread, rfl⟩

theorem decode_of_entry {entry : List Char} (mem : entry ∈ text.toList.splitOn ',')
    (some_ : ¬ AllBlank entry) (noRule : ∀ r : Rule, ¬ r.Spells entry) :
    ∃ flaw, decode type payload = .error (.invalid type "ports" (.rule flaw)) := by
  rcases ruleList_of_entry type mem some_ noRule with ⟨flaw, refused⟩
  have notBlank : trim text ≠ "" := by
    intro blank
    rw [ruleList_of_blank blank] at refused
    cases refused
  refine ⟨flaw, ?_⟩
  rw [decode_of_firewallType firewall, ofFirewall_of_ports ports notBlank, refused]
  rfl

/-- With a node, a firewall job means the rules that its ports spell, among them those that are
written for these rules.  With or without, it means nothing when some entry is no rule. -/
theorem decode_of_ports_field :
    (∀ nodeId, payload.get? "node_id" = some nodeId → trim nodeId = nodeId → nodeId ≠ "" →
      ∀ rules, rules ≠ [] →
        (decode type payload = .ok (.firewall nodeId rules) ↔ SpellsList rules text.toList) ∧
        ((∀ r ∈ rules, r.port ≠ 0) → text = listText rules →
          decode type payload = .ok (.firewall nodeId rules))) ∧
    ∀ entry ∈ text.toList.splitOn ',', ¬ AllBlank entry → (∀ r : Rule, ¬ r.Spells entry) →
      ∃ flaw, decode type payload = .error (.invalid type "ports" (.rule flaw)) := by
  constructor
  · intro nodeId node_ trimmed named rules some_
    have spelled := decode_eq_ok_iff_spells firewall ports node_ trimmed named some_
    refine ⟨spelled, ?_⟩
    rintro positive rfl
    exact spelled.mpr (spellsList_listText positive)
  · intro entry mem some_ noRule
    exact decode_of_entry firewall ports mem some_ noRule

end Payload

/-!
# A list in mixed spelling

Blanks, capitals, empty entries, zeros and a plus in front, and the port first.
-/

def listed (ports : String) : Payload :=
  .ofList [("node_id", "n1"), ("ports", ports)]

theorem decode_of_ports_field_mixed :
    (decode State.openPortsType (listed " TCP : +0080 ,, 443/Udp ,") =
        .ok (.firewall "n1" [⟨.tcp, 80⟩, ⟨.udp, 443⟩]) ∧
      SpellsList [⟨.tcp, 80⟩, ⟨.udp, 443⟩] " TCP : +0080 ,, 443/Udp ,".toList) ∧
    decode State.closePortsType (listed (listText [⟨.udp, 443⟩, ⟨.tcp, 80⟩])) =
      .ok (.firewall "n1" [⟨.udp, 443⟩, ⟨.tcp, 80⟩]) ∧
    ∃ flaw, decode State.closePortsType (listed "tcp:80,udp:0") =
      .error (.invalid State.closePortsType "ports" (.rule flaw)) := by
  have node_ : ∀ ports, (listed ports).get? "node_id" = some "n1" := fun ports => by
    simp [listed, Table.ofList]
  have field : ∀ ports, (listed ports).get? "ports" = some ports := fun ports => by
    simp [listed, Table.ofList]
  have mixed : decode State.openPortsType (listed " TCP : +0080 ,, 443/Udp ,") =
      .ok (.firewall "n1" [⟨.tcp, 80⟩, ⟨.udp, 443⟩]) := by
    decide +kernel
  have zero : ∀ r : Rule, ¬ r.Spells "udp:0".toList := by
    intro r spells
    have refused : Rule.readChars "udp:0".toList = .error .portZero := by decide +kernel
    cases refused.symm.trans (Rule.readChars_eq_ok_iff.mpr spells)
  refine ⟨⟨mixed, ?_⟩, ?_, ?_⟩
  · exact ((decode_of_ports_field (Or.inl rfl) (field _)).1 "n1" (node_ _) (by decide)
      (by decide) _ (by decide)).1.mp mixed
  · exact ((decode_of_ports_field (Or.inr rfl) (field _)).1 "n1" (node_ _) (by decide)
      (by decide) _ (by decide)).2 (by decide) rfl
  · exact (decode_of_ports_field (Or.inr rfl) (field _)).2 "udp:0".toList (by decide +kernel)
      (by decide +kernel) zero

end Work
end Job
end FleetControl
