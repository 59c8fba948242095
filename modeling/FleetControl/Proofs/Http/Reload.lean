import FleetControl.Proofs.Http.Registration

/-!
# Starting again over the file

When a snapshot has reached the file, a start over the file comes to the state that was
committed, exactly when that state is restorable.  What agents send need not be: a request
has room for values that are nested two levels deeper than a snapshot has.
-/

namespace FleetControl
namespace Server

open Time

theorem disk_after_write {p : Plane} {events : List Event} {index : Nat} {commit : Commit}
    (committed : ((start p).after events).commits[index]? = some commit) :
    ((start p).after (events ++ [.write index])).disk =
      ((start p).after events).disk.save (.ofState commit.state) := by
  have snapshot := (kept_after p events).snapshots commit (List.mem_of_getElem? committed)
  rw [after_append, after, after, next]
  simp only [committed, snapshot]

theorem reload_iff {p : Plane} {events : List Event} {index : Nat} {commit : Commit}
    (committed : ((start p).after events).commits[index]? = some commit)
    (written : ((start p).after (events ++ [.write index])).disk ≠ ((start p).after events).disk) :
    ((start p).after (events ++ [.write index])).disk.written = commit.state.revision ∧
      (Store.load? ((start p).after (events ++ [.write index])).disk.file =
        some (.holding commit.state) ↔ commit.state.Restorable) := by
  have saved := disk_after_write committed
  rcases ((start p).after events).disk.save_cases commit.state with same | held
  · rw [same] at saved
    exact absurd saved written
  · rw [saved, held]
    exact ⟨rfl, Store.load?_holding_iff⟩

/-!
# Registrations that are nested deep
-/

def registrationText (depth : Nat) : List Char :=
  "\x7b\"bootstrap_token\":\"boot\",\"name\":\"node\",\"roles\":[],".toList ++
    ("\"metadata\":\x7b\"m\":".toList ++
      (List.replicate depth '[' ++ (List.replicate depth ']' ++ "\x7d\x7d".toList)))

def asks (depth : Nat) (r : Registration) : Bool :=
  r.bootstrapToken == "boot" && !(Text.trim r.name).isEmpty &&
    (match r.metadata.entries with
      | [entry] => entry.2.document.nesting == depth && entry.2.document.numbers.isEmpty
      | _ => false)

theorem membersRestore_iff_of_asks {depth room : Nat} {r : Registration}
    (h : asks depth r = true) : Json.MembersRestore room r.metadata ↔ depth ≤ room := by
  unfold asks at h
  split at h
  · rename_i entry entries
    simp only [Bool.and_eq_true, beq_iff_eq, List.isEmpty_iff] at h
    rcases h with ⟨_, nesting, numbers⟩
    unfold Json.MembersRestore
    rw [entries]
    constructor
    · intro restores
      rw [← nesting]
      exact (restores entry List.mem_cons_self).shallow
    · intro le other hother
      rw [List.mem_singleton.mp hother]
      constructor
      · rw [nesting]
        exact le
      · rw [numbers]
        exact fun n hn => absurd hn List.not_mem_nil
  · rw [Bool.and_false] at h
    cases h

def registering (depth : Nat) : List Event :=
  [.request (.strokes 'a') .epoch
    (Http.registrationOf (String.ofList (registrationText depth)))]

/-- The registration is committed first, and its snapshot is the first to be written. -/
theorem after_registering {depth : Nat}
    (read : (Wire.registration Json.Decoder.depthLimit
      (Json.Draft.read (registrationText depth)).1).toOption.any (asks depth) = true) :
    ∃ commit : Commit,
      ((start emptyPlane).after (registering depth)).commits[0]? = some commit ∧
      ((start emptyPlane).after (registering depth)).disk = .fresh none ∧
      ((start emptyPlane).after (registering depth ++ [.write 0])).disk =
        .holding commit.state ∧
      (commit.state.Restorable ↔ depth ≤ State.valueRoom) := by
  rcases Option.any_eq_true _ _ |>.mp read with ⟨r, found, asked⟩
  have decoded : Wire.registration.runLead (String.ofList (registrationText depth)) = .ok r := by
    rw [Json.Decoder.runLead, String.toList_ofList]
    exact Refusal.toOption_eq_some.mp found
  have token : r.bootstrapToken = "boot" := by
    simp only [asks, Bool.and_eq_true, beq_iff_eq] at asked
    exact asked.1.1
  have named : (Text.trim r.name).isEmpty = false := by
    simp only [asks, Bool.and_eq_true, Bool.not_eq_true'] at asked
    exact asked.1.2
  rcases first_registration (.strokes 'a') .epoch decoded token named with
    ⟨agent, metadata, stats, disk, commits⟩
  have committed : ((start emptyPlane).after (registering depth)).commits[0]? = _ :=
    congrArg (·[0]?) commits
  refine ⟨_, committed, disk, ?_, ?_⟩
  · rw [disk_after_write committed]
    show ((start emptyPlane).next _).disk.save _ = _
    rw [disk]
    exact Disk.save_fresh not_revision_stateWith_le
  · rw [restorable_stateWith_iff stats, metadata]
    exact membersRestore_iff_of_asks asked

theorem asks_shallow : (Wire.registration Json.Decoder.depthLimit
    (Json.Draft.read (registrationText 3)).1).toOption.any (asks 3) = true := by
  decide +kernel

theorem asks_deep : (Wire.registration Json.Decoder.depthLimit
    (Json.Draft.read (registrationText 124)).1).toOption.any (asks 124) = true := by
  decide +kernel

theorem reload_iff_shallow :
    ∃ commit : Commit,
      ((start emptyPlane).after (registering 3)).commits[0]? = some commit ∧
      ((start emptyPlane).after (registering 3 ++ [.write 0])).disk ≠
        ((start emptyPlane).after (registering 3)).disk ∧
      commit.state.Restorable ∧
      Store.load? ((start emptyPlane).after (registering 3 ++ [.write 0])).disk.file =
        some (.holding commit.state) := by
  rcases after_registering asks_shallow with ⟨commit, committed, before, after, restorable⟩
  have written : ((start emptyPlane).after (registering 3 ++ [.write 0])).disk ≠
      ((start emptyPlane).after (registering 3)).disk := by
    rw [before, after]
    exact Disk.holding_ne_fresh
  have shallow : commit.state.Restorable := restorable.mpr (by decide)
  exact ⟨commit, committed, written, shallow, (reload_iff committed written).2.mpr shallow⟩

theorem deep_registration_not_reloaded :
    ∃ commit : Commit,
      ((start emptyPlane).after (registering 124)).commits[0]? = some commit ∧
      ((start emptyPlane).after (registering 124 ++ [.write 0])).disk ≠
        ((start emptyPlane).after (registering 124)).disk ∧
      Store.load? ((start emptyPlane).after (registering 124 ++ [.write 0])).disk.file ≠
        some (.holding commit.state) := by
  rcases after_registering asks_deep with ⟨commit, committed, before, after, restorable⟩
  have written : ((start emptyPlane).after (registering 124 ++ [.write 0])).disk ≠
      ((start emptyPlane).after (registering 124)).disk := by
    rw [before, after]
    exact Disk.holding_ne_fresh
  refine ⟨commit, committed, written, ?_⟩
  rw [after]
  intro loaded
  have fits : 124 ≤ State.valueRoom := restorable.mp (Store.load?_holding_iff.mp loaded)
  exact absurd fits (by decide)

end Server
end FleetControl
