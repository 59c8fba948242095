import FleetControl.Job.Kind
import FleetControl.Proofs.Effect.Registry
import FleetControl.Proofs.Job.Work
import FleetControl.Proofs.Text.Blank
import FleetControl.Text.Ascii

/-!
# Handlers are given what they look for

The standard registry routes a job by its type, and the type decides what the payload means.
These are two tables over the same names, with exact names, leads and first segments.  They
agree: the handler that a job is routed to looks for work of just the family that the payload
means.  Work that is of a family of its own is routed, except that of the bare names of the two
voice servers, which have no action.

The first segment of a type reaches to its first dot.  So a type is in the family of a voice
server exactly when it is the bare name of the family, or has that name and a dot in front.
-/

namespace FleetControl

/-!
# Segments and families
-/

namespace Text

variable {sep : Char} {lead cs : List Char}

theorem head?_pieces (sep : Char) (cs : List Char) :
    (pieces sep cs).head? = some (cs.takeWhile (· != sep)) := by
  induction cs with
  | nil => rfl
  | cons c rest ih =>
      unfold pieces
      by_cases same : c = sep
      · simp [same]
      · cases more : pieces sep rest with
        | nil => exact absurd more (pieces_ne_nil sep rest)
        | cons piece others =>
            rw [more, List.head?_cons, Option.some_inj] at ih
            simp [same, ih]

theorem takeWhile_eq_iff (apart : sep ∉ lead) :
    cs.takeWhile (· != sep) = lead ↔ cs = lead ∨ lead ++ [sep] <+: cs := by
  have other : ∀ c ∈ lead, (c != sep) = true := by
    intro c hc
    rw [bne_iff_ne]
    rintro rfl
    exact apart hc
  constructor
  · intro same
    have whole := List.takeWhile_append_dropWhile (p := (· != sep)) (l := cs)
    rw [same] at whole
    cases rest : cs.dropWhile (· != sep) with
    | nil =>
        rw [rest, List.append_nil] at whole
        exact Or.inl whole.symm
    | cons c more =>
        have stop : (c != sep) = false := by
          have head := List.head?_dropWhile_not (· != sep) cs
          rw [rest] at head
          exact head
        rw [bne_eq_false_iff_eq] at stop
        refine Or.inr ⟨more, ?_⟩
        rw [← stop, List.append_assoc, List.singleton_append, ← rest, whole]
  · rintro (rfl | ⟨more, rfl⟩)
    · exact List.takeWhile_eq_self_iff.mpr other
    · rw [List.append_assoc, List.takeWhile_append_of_pos other]
      simp

end Text

namespace Job

open Inventory

variable {type : String} {flavor : Flavor}

theorem firstSegment_eq (type : String) :
    firstSegment type = String.ofList (type.toList.takeWhile (· != '.')) := by
  rw [firstSegment, segments, List.headD_eq_head?_getD, List.head?_map, Text.head?_pieces]
  rfl

theorem firstSegment_eq_iff {name : String} (apart : '.' ∉ name.toList) :
    firstSegment type = name ↔ type = name ∨ Text.startsWith (name ++ ".") type = true := by
  have chars : firstSegment type = name ↔ type.toList.takeWhile (· != '.') = name.toList := by
    rw [firstSegment_eq, ← String.toList_inj, String.toList_ofList]
  rw [chars, Text.takeWhile_eq_iff apart, Text.startsWith_iff, String.toList_inj,
    String.toList_append]
  rfl

theorem flavor?_eq_some_iff :
    flavor? type = some flavor ↔
      type = flavor.word ∨ Text.startsWith (flavor.word ++ ".") type = true := by
  have apart : '.' ∉ flavor.word.toList := by
    cases flavor <;> decide
  rw [← firstSegment_eq_iff apart]
  unfold flavor?
  split
  · rename_i first
    rw [first]
    cases flavor <;> simp [Flavor.word]
  · rename_i first
    rw [first]
    cases flavor <;> simp [Flavor.word]
  · rename_i not3 not6
    cases flavor with
    | ts3 => exact iff_of_false nofun not3
    | ts6 => exact iff_of_false nofun not6

end Job

open Refusal

namespace Job.Work

inductive Family where
  | domain
  | firewall
  | ddosCheck
  | ddosPolicy
  | voiceServer
  | lifecycle
  | diskScan
  | nodeDiskStat
  | statusCheck
  | backup
  | anonymize
  | agentUpdate
  | generic
  deriving DecidableEq

def family : Work → Family
  | .domain _ => .domain
  | .firewall _ _ => .firewall
  | .ddosCheck _ => .ddosCheck
  | .ddosPolicy _ _ _ _ _ => .ddosPolicy
  | .voiceServer _ _ _ => .voiceServer
  | .lifecycle _ _ _ => .lifecycle
  | .diskScan _ _ => .diskScan
  | .nodeDiskStat _ => .nodeDiskStat
  | .statusCheck _ => .statusCheck
  | .backup _ _ => .backup
  | .anonymize _ _ => .anonymize
  | .agentUpdate _ => .agentUpdate
  | .generic _ => .generic

end Job.Work

namespace Effect

open Job.Work (Family)

/-!
# What a handler looks for
-/

/-- The handler has something to say about work of this family, and nothing about any other
work: with this family it gets past its first look at the work. -/
structure Handler.IsFor (handler : Handler) (family : Family) : Prop where
  speaks : ∃ i, i.work.family = family ∧ handler i ≠ []
  silent : ∀ i, i.work.family ≠ family → handler i = []

namespace Handler

theorem IsFor.unique {handler : Handler} {family other : Family} (isFor : handler.IsFor family)
    (isFor' : handler.IsFor other) : family = other := by
  rcases isFor.speaks with ⟨i, of_, heard⟩
  by_contra differs
  exact heard (isFor'.silent i fun same => differs (of_.symm.trans same))

def families : List (Handler × Family) :=
  [(domainAdded, .domain),
   (certificateIssued, .domain),
   (firewallApplied, .firewall),
   (ddosReported, .ddosCheck),
   (ddosPolicyApplied, .ddosPolicy),
   (voiceServerLifecycle, .voiceServer),
   (instanceLifecycle, .lifecycle),
   (diskScanned, .diskScan),
   (nodeDiskReported, .nodeDiskStat),
   (queryChanged, .statusCheck),
   (backupFinished, .backup),
   (userAnonymized, .anonymize)]

theorem silent_of_mem_families : ∀ entry ∈ families, ∀ i : Input,
    i.work.family ≠ entry.2 → entry.1 i = [] := by
  simp only [families, List.forall_mem_cons, List.not_mem_nil, false_implies, implies_true,
    and_true]
  refine ⟨?_, ?_, ?_, ?_, ?_, ?_, ?_, ?_, ?_, ?_, ?_, ?_⟩
  all_goals
    rintro ⟨type, work, status, output, completedAt⟩ other
    cases work <;> first | rfl | exact absurd rfl other

def sample : Family → Job.Work
  | .domain => .domain ""
  | .firewall => .firewall "" []
  | .ddosCheck => .ddosCheck ""
  | .ddosPolicy => .ddosPolicy "" "" [] [] true
  | .voiceServer => .voiceServer "" .ts3 .start
  | .lifecycle => .lifecycle "" none .start
  | .diskScan => .diskScan "" none
  | .nodeDiskStat => .nodeDiskStat ""
  | .statusCheck => .statusCheck ""
  | .backup => .backup "" none
  | .anonymize => .anonymize "" ""
  | .agentUpdate => .agentUpdate none
  | .generic => .generic .empty

def sampleDone (family : Family) : Input :=
  { type := "", work := sample family, status := .succeeded
    output := Table.empty.insert "expires_at" (.number (.ofUInt64 0)), completedAt := .epoch }

theorem isFor_of_mem_families : ∀ entry ∈ families, entry.1.IsFor entry.2 := by
  have speaks : ∀ entry ∈ families, entry.1 (sampleDone entry.2) ≠ [] := by
    decide +kernel
  intro entry mem
  refine ⟨⟨sampleDone entry.2, ?_, speaks entry mem⟩, silent_of_mem_families entry mem⟩
  cases entry.2 <;> rfl

end Handler

/-!
# Where types are routed
-/

namespace Registry

open Handler

variable {type : String}

theorem route_of_not_exact (other : standard.exact.get? type = none) :
    standard.route type =
      if Text.startsWith "instance." type then some instanceLifecycle
      else if Text.startsWith "ts3." type ∨ Text.startsWith "ts6." type then
        some voiceServerLifecycle
      else none := by
  rw [route, other, Option.none_or, leads_standard, standardLeads]
  cases instance_ : Text.startsWith "instance." type with
  | true => simp [instance_]
  | false =>
      cases ts3 : Text.startsWith "ts3." type <;> cases ts6 : Text.startsWith "ts6." type <;>
        simp [instance_, ts3, ts6]

theorem not_startsWith_instance {flavor : Inventory.Flavor}
    (voiceServer : Text.startsWith (flavor.word ++ ".") type = true) :
    Text.startsWith "instance." type = false := by
  rw [← Bool.not_eq_true]
  intro instance_
  rw [Text.startsWith_iff] at voiceServer instance_
  have short : (flavor.word ++ ".").toList.length ≤ "instance.".toList.length := by
    cases flavor <;> decide
  have nested := List.prefix_of_prefix_length_le voiceServer instance_ short
  revert nested
  cases flavor <;> decide

end Registry

/-!
# Both tables
-/

/-- A type whose payload means work of this family is routed to a handler for the family, or to
none when there is no family of its own or no action. -/
inductive Agrees (type : String) (family : Family) : Prop
  | routed {handler : Handler} (goes : Registry.standard.route type = some handler)
      (isFor : handler.IsFor family) (own : family ≠ .generic ∧ family ≠ .agentUpdate)
      (acts : type ≠ "ts3" ∧ type ≠ "ts6")
  | unrouted (nowhere : Registry.standard.route type = none)
      (plain : family = .generic ∨ family = .agentUpdate ∨ type = "ts3" ∨ type = "ts6")

variable {type : String} {payload : Payload} {work : Job.Work}

open Registry Handler

theorem agrees_of_mem {handler : Handler} {family : Family}
    (goes : standard.route type = some handler) (mem : (handler, family) ∈ families)
    (acts : type ≠ "ts3" ∧ type ≠ "ts6") : Agrees type family := by
  have own : ∀ entry ∈ families, entry.2 ≠ Family.generic ∧ entry.2 ≠ Family.agentUpdate := by
    simp [families]
  exact .routed goes (isFor_of_mem_families _ mem) (own _ mem) acts

/-- A bare name of voice servers does not begin with what is routed. -/
theorem acts_of_startsWith {lead : String}
    (begins : Text.startsWith lead type = true) (long : 3 < lead.toList.length) :
    type ≠ "ts3" ∧ type ≠ "ts6" := by
  have whole : lead.toList.length ≤ type.toList.length :=
    (Text.startsWith_iff.mp begins).length_le
  constructor
  all_goals
    rintro rfl
    exact absurd (Nat.lt_of_lt_of_le long whole) (by decide)

theorem agrees_of_flavor {flavor : Inventory.Flavor}
    (other : standard.exact.get? type = none) (found : Job.flavor? type = some flavor) :
    Agrees type .voiceServer := by
  have route := route_of_not_exact other
  rcases Job.flavor?_eq_some_iff.mp found with rfl | begins
  · refine .unrouted ?_ (Or.inr (Or.inr ?_))
    · rw [route]
      cases flavor <;> rfl
    · cases flavor with
      | ts3 => exact Or.inl rfl
      | ts6 => exact Or.inr rfl
  · have goes : standard.route type = some voiceServerLifecycle := by
      rw [route, not_startsWith_instance begins]
      cases flavor with
      | ts3 => exact if_pos (Or.inl begins)
      | ts6 => exact if_pos (Or.inr begins)
    refine agrees_of_mem goes (by simp [families]) (acts_of_startsWith begins ?_)
    cases flavor <;> decide

theorem agrees_of_ofFamily (other : standard.exact.get? type = none)
    (h : Job.Work.ofFamily type payload = .ok work) : Agrees type work.family := by
  have route := route_of_not_exact other
  unfold Job.Work.ofFamily at h
  split at h
  · rename_i update
    cases h
    refine .unrouted ?_ (Or.inr (Or.inl rfl))
    simp only [Job.isUpdate, Bool.or_eq_true, decide_eq_true_eq] at update
    rw [route]
    rcases update with (rfl | rfl) | rfl <;> rfl
  · split at h
    · rename_i flavor found
      unfold Job.Work.ofVoiceServer at h
      split at h <;> cases h
      exact agrees_of_flavor other found
    · rename_i notVoiceServer
      split at h
      · rename_i action behind
        rcases bind_eq_ok.mp h with ⟨instanceId, _, h⟩
        cases pure_eq_ok.mp h
        rcases Option.ite_none_right_eq_some.mp behind with ⟨begins, _⟩
        have mem : (instanceLifecycle, Family.lifecycle) ∈ families := by simp [families]
        exact agrees_of_mem (route.trans (if_pos begins)) mem
          (acts_of_startsWith begins (by decide))
      · rename_i none_
        cases h
        refine .unrouted ?_ (Or.inl rfl)
        have apart : ∀ flavor : Inventory.Flavor,
            ¬ Text.startsWith (flavor.word ++ ".") type = true := by
          intro flavor begins
          cases notVoiceServer.symm.trans (Job.flavor?_eq_some_iff.mpr (Or.inr begins))
        rw [route, if_neg, if_neg]
        · rintro (ts3 | ts6)
          · exact apart .ts3 ts3
          · exact apart .ts6 ts6
        · intro begins
          cases none_.symm.trans (if_pos begins)

theorem family_of_map {family : Family} {x : Except Job.Work.Flaw String}
    {f : String → Job.Work} (of_ : ∀ s, (f s).family = family) (h : x.map f = .ok work) :
    work.family = family := by
  rcases map_eq_ok.mp h with ⟨s, _, rfl⟩
  exact of_ s

theorem family_of_ofDdosPolicy (h : Job.Work.ofDdosPolicy type payload = .ok work) :
    work.family = .ddosPolicy := by
  unfold Job.Work.ofDdosPolicy at h
  rcases bind_eq_ok.mp h with ⟨nodeId, _, h⟩
  rcases bind_eq_ok.mp h with ⟨mode, _, h⟩
  rcases bind_eq_ok.mp h with ⟨ports, _, h⟩
  rcases bind_eq_ok.mp h with ⟨enabled, _, h⟩
  cases pure_eq_ok.mp h
  rfl

theorem agrees_of_decode (h : Job.Work.decode type payload = .ok work) :
    Agrees type work.family := by
  have exact_ : ∀ {handler : Handler} (family : Family), work.family = family →
      standard.route type = some handler → (handler, family) ∈ families →
      type ≠ "ts3" ∧ type ≠ "ts6" → Agrees type work.family := by
    intro handler family of_ goes mem acts
    rw [of_]
    exact agrees_of_mem goes mem acts
  unfold Job.Work.decode at h
  split at h
  case h_1 | h_2 =>
    exact exact_ .domain (family_of_map (fun _ => rfl) h) rfl (by simp [families]) (by decide)
  case h_3 | h_4 =>
    rcases Job.Work.positive_of_ofFirewall h with ⟨nodeId, rules, rfl, _⟩
    exact exact_ .firewall rfl rfl (by simp [families]) (by decide)
  case h_5 =>
    exact exact_ .ddosCheck (family_of_map (fun _ => rfl) h) rfl (by simp [families]) (by decide)
  case h_6 =>
    exact exact_ .ddosPolicy (family_of_ofDdosPolicy h) rfl (by simp [families]) (by decide)
  case h_7 =>
    exact exact_ .diskScan (family_of_map (fun _ => rfl) h) rfl (by simp [families]) (by decide)
  case h_8 =>
    exact exact_ .backup (family_of_map (fun _ => rfl) h) rfl (by simp [families]) (by decide)
  case h_9 | h_10 =>
    exact exact_ .statusCheck (family_of_map (fun _ => rfl) h) rfl (by simp [families]) (by decide)
  case h_11 =>
    exact exact_ .nodeDiskStat (family_of_map (fun _ => rfl) h) rfl (by simp [families]) (by decide)
  case h_12 =>
    rcases bind_eq_ok.mp h with ⟨userId, _, h⟩
    rcases bind_eq_ok.mp h with ⟨requestId, _, h⟩
    cases pure_eq_ok.mp h
    exact exact_ .anonymize rfl rfl (by simp [families]) (by decide)
  case h_13 =>
    refine agrees_of_ofFamily ?_ h
    simp (disch := assumption) only [standard, register, registerLead, empty, List.foldl_cons,
      List.foldl_nil, Table.get?_insert, Table.get?_empty, if_neg]

/-- Whatever a payload means, a handler that its type is routed to looks for work of that very
family.  Work is routed unless it has no family of its own, or its type is the bare name of a
voice server. -/
theorem route_standard_of_decode (h : Job.Work.decode type payload = .ok work) :
    (∀ handler, standard.route type = some handler → handler.IsFor work.family) ∧
    ((standard.route type).isSome ↔
      work.family ≠ .generic ∧ work.family ≠ .agentUpdate ∧ type ≠ "ts3" ∧ type ≠ "ts6") := by
  cases agrees_of_decode h with
  | routed goes isFor own acts =>
      constructor
      · intro handler found
        cases goes.symm.trans found
        exact isFor
      · exact iff_of_true (Option.isSome_of_eq_some goes) ⟨own.1, own.2, acts⟩
  | unrouted nowhere plain =>
      constructor
      · intro handler found
        cases nowhere.symm.trans found
      · refine iff_of_false (by simp [nowhere]) ?_
        rintro ⟨notGeneric, notUpdate, not3, not6⟩
        rcases plain with generic | update | ts3 | ts6
        · exact notGeneric generic
        · exact notUpdate update
        · exact not3 ts3
        · exact not6 ts6

/-!
# Types with odd segments

More segments than usual, an exact name with a segment too many, and a bare name.
-/

def oddPayload : Payload :=
  .ofList [("instance_id", " i1 ")]

theorem route_standard_of_decode_odd :
    (Job.Work.decode "ts3.a.b.delete" oddPayload = .ok (.voiceServer "i1" .ts3 .delete) ∧
      ∃ handler, standard.route "ts3.a.b.delete" = some handler ∧
        handler.IsFor .voiceServer) ∧
    (Job.Work.decode "instance.disk.scan.x" oddPayload =
        .ok (.lifecycle "i1" none (.other "disk.scan.x")) ∧
      ∃ handler, standard.route "instance.disk.scan.x" = some handler ∧
        handler.IsFor .lifecycle) ∧
    Job.Work.decode "ts3" oddPayload = .ok (.voiceServer "i1" .ts3 (.other "ts3")) ∧
      ¬ (standard.route "ts3").isSome := by
  have deletion : Job.Work.decode "ts3.a.b.delete" oddPayload =
      .ok (.voiceServer "i1" .ts3 .delete) := by
    decide +kernel
  have scan : Job.Work.decode "instance.disk.scan.x" oddPayload =
      .ok (.lifecycle "i1" none (.other "disk.scan.x")) := by
    decide +kernel
  have bare : Job.Work.decode "ts3" oddPayload =
      .ok (.voiceServer "i1" .ts3 (.other "ts3")) := by
    decide +kernel
  rcases route_standard_of_decode deletion with ⟨isFor, routed⟩
  rcases Option.isSome_iff_exists.mp (routed.mpr (by decide)) with ⟨handler, goes⟩
  rcases route_standard_of_decode scan with ⟨isFor', routed'⟩
  rcases Option.isSome_iff_exists.mp (routed'.mpr (by decide)) with ⟨handler', goes'⟩
  refine ⟨⟨deletion, handler, goes, isFor handler goes⟩,
    ⟨scan, handler', goes', isFor' handler' goes'⟩, bare, ?_⟩
  intro some_
  exact ((route_standard_of_decode bare).2.mp some_).2.2.1 rfl

end Effect
end FleetControl
