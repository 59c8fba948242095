import FleetControl.Effect.Registry
import FleetControl.Text.Ascii
import Mathlib.Data.List.Infix
import Mathlib.Data.List.Pairwise

/-!
# Which call a type is routed by

A registry is filled by calls, each with a handler for an exact type or for a lead.  Of the calls
for one type the last one counts, of the calls for one lead the first one.

The leads are sorted again after each call.  The sort is stable, so the calls for one lead stay
in their order, and the first lead that is found is the longest one.  Between different types and
leads the order of the calls has no effect.
-/

namespace FleetControl

namespace Text

variable {lead other s : String}

theorem length_le_of_utf8ByteSize_le (begins : lead.toList <+: s.toList)
    (begins' : other.toList <+: s.toList) (h : other.utf8ByteSize ≤ lead.utf8ByteSize) :
    other.length ≤ lead.length := by
  by_contra longer
  rw [← String.length_toList, ← String.length_toList] at longer
  rcases List.prefix_of_prefix_length_le begins begins' (by omega) with ⟨rest, whole⟩
  have other_eq : other = lead ++ String.ofList rest := by
    rw [← String.toList_inj, String.toList_append, String.toList_ofList, whole]
  have no_rest : (String.ofList rest).utf8ByteSize = 0 := by
    rw [other_eq, String.utf8ByteSize_append] at h
    omega
  rw [String.utf8ByteSize_eq_zero_iff] at no_rest
  rw [other_eq, no_rest, String.append_empty] at longer
  exact longer le_rfl

end Text

namespace Effect

variable {α : Type}

/-!
# Calls
-/

inductive Slot where
  | exact (name : String)
  | lead (name : String)
  deriving DecidableEq

def Slot.Covers (type : String) : Slot → Prop
  | .exact name => name = type
  | .lead name => name.toList <+: type.toList

instance (type : String) : DecidablePred (Slot.Covers type)
  | .exact name => inferInstanceAs (Decidable (name = type))
  | .lead name => inferInstanceAs (Decidable (name.toList <+: type.toList))

structure Call (α : Type) where
  slot : Slot
  handler : α

variable {slot : Slot} {calls others : List (Call α)} {type lead other : String} {handler : α}

def handlersAt (slot : Slot) (calls : List (Call α)) : List α :=
  (calls.filter (fun call => call.slot = slot)).map Call.handler

theorem handlersAt_concat (slot : Slot) (calls : List (Call α)) (call : Call α) :
    handlersAt slot (calls ++ [call]) =
      if call.slot = slot then handlersAt slot calls ++ [call.handler]
      else handlersAt slot calls := by
  unfold handlersAt
  rw [List.filter_append, List.map_append, List.filter_singleton]
  by_cases same : call.slot = slot <;> simp [same]

theorem handlersAt_eq_nil_iff :
    handlersAt slot calls = [] ↔ slot ∉ calls.map Call.slot := by
  simp [handlersAt]

theorem mem_slots_of_getLast? (last : (handlersAt slot calls).getLast? = some handler) :
    slot ∈ calls.map Call.slot := by
  by_contra unnamed
  rw [handlersAt_eq_nil_iff.mpr unnamed] at last
  cases last

namespace Registry

def accept (r : Registry α) (call : Call α) : Registry α :=
  match call.slot with
  | .exact type => r.register type call.handler
  | .lead lead => r.registerLead lead call.handler

def ofCalls (calls : List (Call α)) : Registry α :=
  calls.foldl accept empty

end Registry

/-!
# The handler that the calls choose
-/

structure IsLongestLead (calls : List (Call α)) (type lead : String) : Prop where
  registered : Slot.lead lead ∈ calls.map Call.slot
  begins : lead.toList <+: type.toList
  longest : ∀ other, Slot.lead other ∈ calls.map Call.slot →
    other.toList <+: type.toList → other.length ≤ lead.length

/-- The calls choose this handler for the type: the one registered last for just the type, or
else the one registered first for the longest lead. -/
inductive Chosen (calls : List (Call α)) (type : String) (handler : α) : Prop
  | exact (last : (handlersAt (.exact type) calls).getLast? = some handler)
  | lead {lead : String} (unnamed : Slot.exact type ∉ calls.map Call.slot)
      (longest : IsLongestLead calls type lead)
      (first : (handlersAt (.lead lead) calls).head? = some handler)

theorem IsLongestLead.unique (isLongest : IsLongestLead calls type lead)
    (isLongest' : IsLongestLead calls type other) : lead = other := by
  have same : lead.length = other.length :=
    Nat.le_antisymm (isLongest'.longest lead isLongest.registered isLongest.begins)
      (isLongest.longest other isLongest'.registered isLongest'.begins)
  rw [← String.length_toList, ← String.length_toList] at same
  have nested := List.prefix_of_prefix_length_le isLongest.begins isLongest'.begins same.le
  exact String.toList_inj.mp (nested.eq_of_length same)

theorem Chosen.unique {found : α} (chosen : Chosen calls type handler)
    (chosen' : Chosen calls type found) : handler = found := by
  cases chosen with
  | exact last =>
      cases chosen' with
      | exact last' => exact Option.some.inj (last.symm.trans last')
      | lead unnamed _ _ => exact absurd (mem_slots_of_getLast? last) unnamed
  | lead unnamed longest first =>
      cases chosen' with
      | exact last' => exact absurd (mem_slots_of_getLast? last') unnamed
      | lead _ longest' first' =>
          cases longest.unique longest'
          exact Option.some.inj (first.symm.trans first')

theorem Chosen.covered (chosen : Chosen calls type handler) :
    ∃ slot ∈ calls.map Call.slot, slot.Covers type := by
  cases chosen with
  | exact last => exact ⟨.exact type, mem_slots_of_getLast? last, rfl⟩
  | lead _ longest _ => exact ⟨_, longest.registered, longest.begins⟩

/-!
# What a registry keeps of the calls

An exact type keeps its last handler.  The leads keep all of theirs, longer leads first, and those
of one lead in the order of the calls.
-/

namespace Registry

variable {r : Registry α}

structure Keeps (r : Registry α) (calls : List (Call α)) : Prop where
  exact : ∀ type, r.exact.get? type = (handlersAt (.exact type) calls).getLast?
  sorted : r.leads.Pairwise (fun a b => notShorter a b = true)
  leads : ∀ lead, (r.leads.filter (fun entry => entry.1 = lead)).map Prod.snd =
    handlersAt (.lead lead) calls

theorem notShorter_trans (a b c : String × α) (ab : notShorter a b = true)
    (bc : notShorter b c = true) : notShorter a c = true := by
  simp only [notShorter, decide_eq_true_eq] at *
  exact bc.trans ab

theorem notShorter_total (a b : String × α) : (notShorter a b || notShorter b a) = true := by
  simp only [notShorter, Bool.or_eq_true, decide_eq_true_eq]
  exact Nat.le_total _ _

/-- The sort is stable: the entries of one lead stay in their order. -/
theorem filter_mergeSort_notShorter (entries : List (String × α)) (lead : String) :
    (entries.mergeSort notShorter).filter (fun entry => entry.1 = lead) =
      entries.filter (fun entry => entry.1 = lead) := by
  -- entries of one lead are level, so all of them are a sorted part of the list
  have level : (entries.filter (fun entry => entry.1 = lead)).Pairwise
      (fun a b => notShorter a b = true) := by
    refine List.pairwise_of_forall_mem_list ?_
    intro a ha b hb
    have ha' : a.1 = lead := by simpa using (List.mem_filter.mp ha).2
    have hb' : b.1 = lead := by simpa using (List.mem_filter.mp hb).2
    simp [notShorter, ha', hb']
  have kept : (entries.filter (fun entry => entry.1 = lead)).Sublist
      ((entries.mergeSort notShorter).filter (fun entry => entry.1 = lead)) := by
    have whole := List.sublist_mergeSort notShorter_trans notShorter_total level
      List.filter_sublist
    simpa only [List.filter_filter, Bool.and_self] using
      whole.filter (fun entry => decide (entry.1 = lead))
  have size := ((List.mergeSort_perm entries notShorter).filter
    (fun entry => decide (entry.1 = lead))).length_eq
  exact (kept.eq_of_length size.symm).symm

theorem keeps_empty : (empty : Registry α).Keeps [] where
  exact := fun _ => rfl
  sorted := .nil
  leads := fun _ => rfl

theorem Keeps.register (keeps : r.Keeps calls) (name : String) (handler : α) :
    (r.register name handler).Keeps (calls ++ [⟨.exact name, handler⟩]) where
  exact := by
    intro type
    rw [Registry.register, Table.get?_insert, handlersAt_concat, keeps.exact]
    by_cases same : name = type
    · rw [if_pos same.symm, if_pos (congrArg Slot.exact same), List.getLast?_concat]
    · rw [if_neg (Ne.symm same), if_neg (fun h => same (Slot.exact.inj h))]
  sorted := keeps.sorted
  leads := by
    intro lead
    rw [handlersAt_concat, if_neg nofun]
    exact keeps.leads lead

theorem Keeps.registerLead (keeps : r.Keeps calls) (name : String) (handler : α) :
    (r.registerLead name handler).Keeps (calls ++ [⟨.lead name, handler⟩]) where
  exact := by
    intro type
    rw [handlersAt_concat, if_neg nofun]
    exact keeps.exact type
  sorted := List.pairwise_mergeSort notShorter_trans notShorter_total _
  leads := by
    intro lead
    rw [Registry.registerLead, filter_mergeSort_notShorter, List.filter_append, List.map_append,
      keeps.leads, handlersAt_concat, List.filter_singleton]
    by_cases same : name = lead <;> simp [same]

theorem Keeps.accept (keeps : r.Keeps calls) (call : Call α) :
    (r.accept call).Keeps (calls ++ [call]) := by
  rcases call with ⟨slot, handler⟩
  cases slot with
  | exact name => exact keeps.register name handler
  | lead name => exact keeps.registerLead name handler

theorem Keeps.foldl_accept (keeps : r.Keeps calls) (more : List (Call α)) :
    (more.foldl Registry.accept r).Keeps (calls ++ more) := by
  induction more generalizing r calls with
  | nil => rwa [List.append_nil]
  | cons call rest ih =>
      have step := ih (keeps.accept call)
      rwa [List.append_assoc, List.singleton_append] at step

theorem keeps_ofCalls (calls : List (Call α)) : (ofCalls calls).Keeps calls :=
  keeps_empty.foldl_accept calls

/-!
# The first lead that is found
-/

theorem Keeps.mem_leads_iff (keeps : r.Keeps calls) :
    Slot.lead lead ∈ calls.map Call.slot ↔ ∃ entry ∈ r.leads, entry.1 = lead := by
  rw [← not_iff_not, ← handlersAt_eq_nil_iff, ← keeps.leads lead, List.map_eq_nil_iff,
    List.filter_eq_nil_iff]
  simp only [decide_eq_true_eq, not_exists, not_and]

theorem exists_split_of_find? {entries : List (String × α)} {entry : String × α}
    (found : entries.find? (fun entry => Text.startsWith entry.1 type) = some entry) :
    ∃ before after, entries = before ++ entry :: after ∧ entry.1.toList <+: type.toList ∧
      ∀ earlier ∈ before, ¬ earlier.1.toList <+: type.toList := by
  rcases List.find?_eq_some_iff_append.mp found with ⟨begins, before, after, split, passed⟩
  refine ⟨before, after, split, Text.startsWith_iff.mp begins, ?_⟩
  intro earlier mem begins'
  have no := passed earlier mem
  rw [Text.startsWith_iff.mpr begins'] at no
  cases no

theorem Keeps.isLongestLead (keeps : r.Keeps calls) {entry : String × α}
    (found : r.leads.find? (fun entry => Text.startsWith entry.1 type) = some entry) :
    IsLongestLead calls type entry.1 := by
  rcases exists_split_of_find? found with ⟨before, after, split, begins, passed⟩
  have sorted := keeps.sorted
  rw [split, List.pairwise_append, List.pairwise_cons] at sorted
  refine ⟨keeps.mem_leads_iff.mpr ⟨entry, by simp [split], rfl⟩, begins, ?_⟩
  intro other registered begins'
  rcases keeps.mem_leads_iff.mp registered with ⟨entry', mem, rfl⟩
  refine Text.length_le_of_utf8ByteSize_le begins begins' ?_
  rw [split, List.mem_append, List.mem_cons] at mem
  rcases mem with earlier | same | later
  · exact absurd begins' (passed entry' earlier)
  · rw [same]
  · exact of_decide_eq_true (sorted.2.1.1 entry' later)

/-- What is found first is also the first entry of its lead. -/
theorem Keeps.head?_handlersAt (keeps : r.Keeps calls) {entry : String × α}
    (found : r.leads.find? (fun entry => Text.startsWith entry.1 type) = some entry) :
    (handlersAt (.lead entry.1) calls).head? = some entry.2 := by
  rcases exists_split_of_find? found with ⟨before, after, split, begins, passed⟩
  have first : r.leads.find? (fun other => other.1 = entry.1) = some entry := by
    refine List.find?_eq_some_iff_append.mpr ⟨by simp, before, after, split, ?_⟩
    intro other earlier
    have differs : other.1 ≠ entry.1 := by
      intro same
      exact passed other earlier (same ▸ begins)
    simp [differs]
  rw [← keeps.leads, List.head?_map, List.head?_filter, first]
  rfl

theorem Keeps.chosen_of_route (keeps : r.Keeps calls) (h : r.route type = some handler) :
    Chosen calls type handler := by
  rw [route, keeps.exact, Option.or_eq_some_iff] at h
  rcases h with last | ⟨unnamed, h⟩
  · exact .exact last
  · rcases Option.map_eq_some_iff.mp h with ⟨entry, found, rfl⟩
    rw [List.getLast?_eq_none_iff, handlersAt_eq_nil_iff] at unnamed
    exact .lead unnamed (keeps.isLongestLead found) (keeps.head?_handlersAt found)

theorem Keeps.not_covers_of_route (keeps : r.Keeps calls) (h : r.route type = none) :
    ∀ slot ∈ calls.map Call.slot, ¬ slot.Covers type := by
  rw [route, keeps.exact, Option.or_eq_none_iff, List.getLast?_eq_none_iff, handlersAt_eq_nil_iff,
    Option.map_eq_none_iff] at h
  intro slot mem covers
  cases slot with
  | exact name =>
      cases covers
      exact h.1 mem
  | lead lead =>
      rcases keeps.mem_leads_iff.mp mem with ⟨entry, there, rfl⟩
      exact List.find?_eq_none.mp h.2 entry there (Text.startsWith_iff.mpr covers)

theorem route_ofCalls_eq_some_iff :
    (ofCalls calls).route type = some handler ↔ Chosen calls type handler := by
  constructor
  · exact (keeps_ofCalls calls).chosen_of_route
  · intro chosen
    cases found : (ofCalls calls).route type with
    | none =>
        rcases chosen.covered with ⟨slot, mem, covers⟩
        exact absurd covers ((keeps_ofCalls calls).not_covers_of_route found slot mem)
    | some handler' =>
        rw [((keeps_ofCalls calls).chosen_of_route found).unique chosen]

theorem route_ofCalls_eq_none_iff :
    (ofCalls calls).route type = none ↔ ∀ slot ∈ calls.map Call.slot, ¬ slot.Covers type := by
  constructor
  · exact (keeps_ofCalls calls).not_covers_of_route
  · intro uncovered
    rw [Option.eq_none_iff_forall_ne_some]
    intro handler found
    rcases (route_ofCalls_eq_some_iff.mp found).covered with ⟨slot, mem, covers⟩
    exact uncovered slot mem covers

end Registry

/-!
# Calls in another order
-/

structure Alike (calls others : List (Call α)) : Prop where
  exact : ∀ type, (handlersAt (.exact type) calls).getLast? =
    (handlersAt (.exact type) others).getLast?
  lead : ∀ lead, (handlersAt (.lead lead) calls).head? = (handlersAt (.lead lead) others).head?

/-- The same calls for each type and each lead, in the same order.  Calls for different ones may
stand in any order. -/
def Reordered (calls others : List (Call α)) : Prop :=
  ∀ slot, handlersAt slot calls = handlersAt slot others

theorem Reordered.alike (reordered : Reordered calls others) : Alike calls others where
  exact := fun type => congrArg List.getLast? (reordered (.exact type))
  lead := fun lead => congrArg List.head? (reordered (.lead lead))

/-- Neighbours for different slots change places. -/
theorem reordered_swap {a b : Call α} (apart : a.slot ≠ b.slot) (before after : List (Call α)) :
    Reordered (before ++ a :: b :: after) (before ++ b :: a :: after) := by
  intro slot
  unfold handlersAt
  by_cases first : a.slot = slot
  · have second : b.slot ≠ slot := fun same => apart (first.trans same.symm)
    simp [first, second]
  · simp [first, List.filter_cons]

theorem Alike.symm (alike : Alike calls others) : Alike others calls where
  exact := fun type => (alike.exact type).symm
  lead := fun lead => (alike.lead lead).symm

theorem Alike.mem_slots_iff (alike : Alike calls others) (slot : Slot) :
    slot ∈ calls.map Call.slot ↔ slot ∈ others.map Call.slot := by
  rw [← not_iff_not, ← handlersAt_eq_nil_iff, ← handlersAt_eq_nil_iff]
  cases slot with
  | exact name => rw [← List.getLast?_eq_none_iff, alike.exact, List.getLast?_eq_none_iff]
  | lead name => rw [← List.head?_eq_none_iff, alike.lead, List.head?_eq_none_iff]

theorem Alike.chosen (alike : Alike calls others) (chosen : Chosen calls type handler) :
    Chosen others type handler := by
  cases chosen with
  | exact last => exact .exact ((alike.exact type).symm.trans last)
  | lead unnamed isLongest first =>
      refine .lead (mt (alike.mem_slots_iff _).mpr unnamed) ⟨?_, isLongest.begins, ?_⟩
        ((alike.lead _).symm.trans first)
      · exact (alike.mem_slots_iff _).mp isLongest.registered
      · intro other registered
        exact isLongest.longest other ((alike.mem_slots_iff _).mpr registered)

namespace Registry

theorem route_ofCalls_of_alike (alike : Alike calls others) (type : String) :
    (ofCalls others).route type = (ofCalls calls).route type := by
  apply Option.ext
  intro handler
  rw [route_ofCalls_eq_some_iff, route_ofCalls_eq_some_iff]
  exact ⟨alike.symm.chosen, alike.chosen⟩

/-- How a registry routes that the calls have filled: to the chosen handler, and nowhere exactly
when no slot covers the type.  What the calls do not choose by has no effect, and neither has
their order between different slots. -/
structure RoutesBy (r : Registry α) (calls : List (Call α)) : Prop where
  chosen : ∀ type handler, r.route type = some handler ↔ Chosen calls type handler
  nowhere : ∀ type, r.route type = none ↔ ∀ slot ∈ calls.map Call.slot, ¬ slot.Covers type
  alike : ∀ others, Alike calls others → ∀ type, (ofCalls others).route type = r.route type
  reordered : ∀ others, Reordered calls others →
    ∀ type, (ofCalls others).route type = r.route type

/-- Whatever the calls are, with whatever repetitions, an empty registry that they have filled
routes by them. -/
theorem routesBy_ofCalls (calls : List (Call α)) : (ofCalls calls).RoutesBy calls where
  chosen := fun _ _ => route_ofCalls_eq_some_iff
  nowhere := fun _ => route_ofCalls_eq_none_iff
  alike := fun _ alike => route_ofCalls_of_alike alike
  reordered := fun _ reordered => route_ofCalls_of_alike reordered.alike

/-!
# Overlapping calls

A type and a lead that are both registered twice, and a lead inside another.
-/

def overlapping : List (Call String) :=
  [⟨.exact "instance.mod.add", "old"⟩, ⟨.lead "instance.", "instances"⟩,
   ⟨.lead "instance.mod.", "mods"⟩, ⟨.lead "instance.mod.", "late"⟩,
   ⟨.exact "instance.mod.add", "new"⟩]

def longerFirst : List (Call String) :=
  [⟨.exact "instance.mod.add", "old"⟩, ⟨.lead "instance.mod.", "mods"⟩,
   ⟨.lead "instance.", "instances"⟩, ⟨.lead "instance.mod.", "late"⟩,
   ⟨.exact "instance.mod.add", "new"⟩]

theorem routesBy_ofCalls_overlapping :
    (ofCalls overlapping).route "instance.mod.add" = some "new" ∧
    (ofCalls overlapping).route "instance.mod.drop" = some "mods" ∧
    (ofCalls overlapping).route "instance" = none ∧
    (ofCalls longerFirst).route "instance.mod.drop" = some "mods" := by
  have routes := routesBy_ofCalls overlapping
  have longest : IsLongestLead overlapping "instance.mod.drop" "instance.mod." := by
    refine ⟨by decide, by decide, ?_⟩
    intro other registered _
    simp only [overlapping, List.map_cons, List.map_nil, List.mem_cons, List.not_mem_nil,
      Slot.lead.injEq, reduceCtorEq, false_or, or_false] at registered
    rcases registered with rfl | rfl | rfl <;> decide
  have drop : (ofCalls overlapping).route "instance.mod.drop" = some "mods" :=
    (routes.chosen _ _).mpr (.lead (by decide) longest (by decide))
  have swapped : Reordered overlapping longerFirst :=
    reordered_swap (by decide) [⟨.exact "instance.mod.add", "old"⟩] _
  refine ⟨(routes.chosen _ _).mpr (.exact (by decide)), drop, ?_, ?_⟩
  · exact (routes.nowhere _).mpr (by decide)
  · exact (routes.reordered _ swapped _).trans drop

end Registry
end Effect
end FleetControl
