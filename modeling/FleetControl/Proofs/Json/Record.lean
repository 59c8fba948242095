import FleetControl.Proofs.Json.Decode

/-!
# Records read back

The fields of a record are looked up by their names.  Where the members of an object are
the fields in their order, what a record comes to is put together from what its fields
come to, one after the other; if one of them is refused, the record is refused.
-/

namespace FleetControl
namespace Json

open Draft

namespace Record

variable {α β : Type}

/-!
# Looking fields up
-/

theorem findMember_of_mem {members : List (String × Draft)} {name : String} {item : Draft}
    (nodup : (members.map Prod.fst).Nodup) (h : (name, item) ∈ members) (start : Nat) :
    ∃ place, findMember name start members = some (place, item) := by
  induction members generalizing start with
  | nil =>
      cases h
  | cons member rest ih =>
      rcases member with ⟨key, other⟩
      simp only [List.map_cons, List.nodup_cons] at nodup
      rcases List.mem_cons.mp h with heq | hrest
      · cases heq
        exact ⟨start, by simp [findMember]⟩
      · have hne : key ≠ name := by
          intro heq
          subst heq
          exact nodup.1 (List.mem_map.mpr ⟨_, hrest, rfl⟩)
        rcases ih nodup.2 hrest (start + 1) with ⟨place, found⟩
        exact ⟨place, by simp [findMember, hne, found]⟩

theorem frameStop_eq_none {names seen : List String} {members : List (String × Draft)}
    (known : ∀ name ∈ members.map Prod.fst, name ∈ names)
    (nodup : (members.map Prod.fst).Nodup)
    (unseen : ∀ name ∈ members.map Prod.fst, name ∉ seen) (place : Nat) :
    frameStop names seen true place members = none := by
  induction members generalizing seen place with
  | nil =>
      rfl
  | cons member rest ih =>
      rcases member with ⟨key, item⟩
      simp only [List.map_cons, List.nodup_cons] at nodup
      have hknown : key ∈ names := known key (by simp)
      have hunseen : key ∉ seen := unseen key (by simp)
      have others : frameStop names (key :: seen) true (place + 1) rest = none := ih
        (fun name hname => known name (List.mem_cons_of_mem _ hname)) nodup.2
        (by
          intro name hname hseen
          rcases List.mem_cons.mp hseen with heq | hseen
          · rw [heq] at hname
            exact nodup.1 hname
          · exact unseen name (List.mem_cons_of_mem _ hname) hseen)
        (place + 1)
      simp [frameStop, hknown, hunseen, others]

/-!
# Putting fields together
-/

structure Offers (source : Source) (room : Nat) (members : List (String × Draft)) : Prop where
  room : source.room = room
  found : ∀ member ∈ members, ∀ index, ∃ place,
    source.find index member.1 = some (place, member.2)

theorem Offers.left {source : Source} {room : Nat} {ms ns : List (String × Draft)}
    (h : Offers source room (ms ++ ns)) : Offers source room ms :=
  ⟨h.room, fun member hmember => h.found member (List.mem_append_left ns hmember)⟩

theorem Offers.right {source : Source} {room : Nat} {ms ns : List (String × Draft)}
    (h : Offers source room (ms ++ ns)) : Offers source room ns :=
  ⟨h.room, fun member hmember => h.found member (List.mem_append_right ms hmember)⟩

structure Yields (r : Record α) (room : Nat) (members : List (String × Draft))
    (result : Option α) : Prop where
  names : r.names = members.map Prod.fst
  build : ∀ source index, Offers source room members →
    (r.build source index).toOption = result

namespace Yields

theorem start (a : α) (room : Nat) : Yields (constant a) room [] (some a) :=
  ⟨rfl, fun _ _ _ => rfl⟩

theorem both {f : Record (α → β)} {x : Record α} {room : Nat}
    {ms ns : List (String × Draft)} {g : Option (α → β)} {a : Option α}
    (hf : f.Yields room ms g) (hx : x.Yields room ns a) :
    (f.both x).Yields room (ms ++ ns) (g.bind (fun g => a.map g)) := by
  constructor
  · rw [Record.both, hf.names, hx.names, List.map_append]
  · intro source index offers
    have left := hf.build source index offers.left
    have right := hx.build source (index + f.names.length) offers.right
    subst left right
    simp only [Record.both]
    cases f.build source index with
    | ok g =>
        cases x.build source (index + f.names.length) with
        | ok a => rfl
        | error t => rfl
    | error s =>
        cases x.build source (index + f.names.length) with
        | ok a => rfl
        | error t => rfl

theorem field {decode : Decoder α} {room : Nat} (name : String) (item : Draft)
    (absent : Bool → Option α) :
    (Record.field name decode absent).Yields room [(name, item)]
      (decode room item).toOption := by
  constructor
  · rfl
  · intro source index offers
    rcases offers.found (name, item) (List.mem_singleton.mpr rfl) index with ⟨place, found⟩
    simp only [Record.field, found, offers.room]
    cases decode room item with
    | ok a => rfl
    | error flaw => rfl

theorem asked {f : Record (α → β)} {room : Nat} {ms : List (String × Draft)}
    {g : Option (α → β)} {name : String} {absent : Bool → Option α} (hf : f.Yields room ms g)
    (decode : Decoder α) (item : Draft) :
    (f.both (Record.field name decode absent)).Yields room (ms ++ [(name, item)])
      (g.bind (fun g => (decode room item).toOption.map g)) :=
  hf.both (field name item absent)

theorem known {f : Record (α → β)} {room : Nat} {ms : List (String × Draft)}
    {g : Option (α → β)} {name : String} {item : Draft} {decode : Decoder α}
    {absent : Bool → Option α} {a : α} (hf : f.Yields room ms g)
    (h : decode room item = .ok a) :
    (f.both (Record.field name decode absent)).Yields room (ms ++ [(name, item)])
      (g.map (fun g => g a)) := by
  have step : (f.both (Record.field name decode absent)).Yields room (ms ++ [(name, item)])
      (g.bind (fun g => (decode room item).toOption.map g)) := hf.asked decode item
  rw [h] at step
  cases g with
  | none => exact step
  | some g => exact step

theorem decode {r : Record α} {room : Nat} {members : List (String × Draft)}
    {result : Option α} (h : r.Yields room members result) (nodup : r.names.Nodup) :
    (r.decode (room + 1) (.object members true)).toOption = result := by
  rw [h.names] at nodup
  have frame : frameStop r.names [] true 0 members = none := by
    rw [h.names]
    exact frameStop_eq_none (fun _ hname => hname) nodup (fun _ _ => List.not_mem_nil) 0
  have built := h.build
    { room := room
      find := fun _ name => findMember name 0 members
      named := true
      size := members.length } 0
    ⟨rfl, fun member hmember _ => findMember_of_mem nodup hmember 0⟩
  rw [← built, Record.decode, frame]
  cases r.build _ 0 with
  | ok a => rfl
  | error s => rfl

end Yields

/-- A document with these fields is read back exactly when they yield what was written. -/
theorem readsBack_iff_of_yields {r : Record α} {write : α → Json} {room : Nat} {a : α}
    {members : List (String × Draft)} {fields : List (String × Json)} {result : Option α}
    (written : write a = .object fields) (h : r.Yields room members result)
    (nodup : r.names.Nodup)
    (same : members = fields.map (fun field => (field.1, reread field.2))) :
    Decoder.ReadsBack r.decode write (room + 1) a ↔ result = some a := by
  unfold Decoder.ReadsBack
  rw [written, reread, rereadFields_eq_map, ← same, ← Refusal.toOption_eq_some, h.decode nodup]

theorem readsBack_of_yields {r : Record α} {write : α → Json} {room : Nat} {a : α}
    {members : List (String × Draft)} {fields : List (String × Json)}
    (written : write a = .object fields) (h : r.Yields room members (some a))
    (nodup : r.names.Nodup)
    (same : members = fields.map (fun field => (field.1, reread field.2))) :
    Decoder.ReadsBack r.decode write (room + 1) a :=
  (readsBack_iff_of_yields written h nodup same).mpr rfl

end Record
end Json
end FleetControl
