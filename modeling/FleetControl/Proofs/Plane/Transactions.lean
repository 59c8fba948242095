import FleetControl.Http.Respond
import FleetControl.Proofs.Plane.Commits
import FleetControl.Proofs.Plane.Run

/-!
# What the plane does to its store

Whatever is asked of the plane, it runs one transaction on its store, or none.
-/

namespace FleetControl

open Time

def Store.Goes (a b : Store) : Prop :=
  ∃ change s, b = a.apply change s

theorem Store.Goes.refl (a : Store) : a.Goes a :=
  ⟨.volatile, a.state, rfl⟩

namespace Plane

variable {p : Plane} {fresh : Fresh} {now : Instant}

def Transacts (p q : Plane) : Prop :=
  ∃ change s, q = { p with store := p.store.apply change s }

theorem Transacts.refl (p : Plane) : p.Transacts p :=
  ⟨.volatile, p.state, rfl⟩

theorem Transacts.goes {p q : Plane} (h : p.Transacts q) : p.store.Goes q.store := by
  rcases h with ⟨change, s, rfl⟩
  exact ⟨change, s, rfl⟩

theorem Transacts.registry {p q : Plane} (h : p.Transacts q) : q.registry = p.registry := by
  rcases h with ⟨change, s, rfl⟩
  rfl

theorem Transacts.config {p q : Plane} (h : p.Transacts q) : q.config = p.config := by
  rcases h with ⟨change, s, rfl⟩
  rfl

theorem Transacts.guard {p q : Plane} (h : p.Transacts q) : q.guard = p.guard := by
  rcases h with ⟨change, s, rfl⟩
  rfl

theorem transacts_expireStale : p.Transacts (p.expireStale now).plane :=
  ⟨.durableIf (!(p.state.expireStale now).1.isEmpty), (p.state.expireStale now).2, rfl⟩

theorem Ends.transacts {operation : Operation} {q : Plane}
    (ends : p.Ends fresh now operation q) : p.Transacts q := by
  cases ends with
  | unchanged => exact .refl p
  | @committed change s _ => exact ⟨change, s, rfl⟩

theorem transacts_run (operation : Operation) :
    p.Transacts (p.run fresh now operation).plane :=
  (ends_run p fresh now operation).transacts

theorem goes_run (operation : Operation) :
    p.store.Goes (p.run fresh now operation).plane.store :=
  (transacts_run operation).goes

theorem registry_next (p : Plane) (step : Step) : (p.next step).registry = p.registry :=
  (transacts_run (p := { p with observers := step.observers }) step.operation).registry

theorem config_next (p : Plane) (step : Step) : (p.next step).config = p.config :=
  (transacts_run (p := { p with observers := step.observers }) step.operation).config

theorem guard_next (p : Plane) (step : Step) : (p.next step).guard = p.guard :=
  (transacts_run (p := { p with observers := step.observers }) step.operation).guard

theorem config_after (p : Plane) (steps : List Step) : (p.after steps).config = p.config := by
  induction steps generalizing p with
  | nil => rfl
  | cons step rest ih => exact (ih (p.next step)).trans (p.config_next step)

theorem store_authenticate (p : Plane) (now : Instant) (parts : Signature.Parts)
    (method path : String) (body : List UInt8) :
    (p.authenticate parts method path body now).plane.store = p.store := by
  unfold authenticate
  split
  · rfl
  · rfl

end Plane

/-!
# Requests
-/

namespace Http

variable {p : Plane} {fresh : Fresh} {now : Instant}

theorem goes_respondUnsigned (e : Endpoint) (parameter : String) (req : Request) :
    p.store.Goes (respondUnsigned p fresh now e parameter req).plane.store := by
  unfold respondUnsigned
  split
  · exact Plane.goes_run _
  · exact .refl p.store

theorem goes_respondSigned (e : Endpoint) (parameter : String) (req : Request) :
    p.store.Goes (respondSigned p fresh now e parameter req).plane.store := by
  unfold respondSigned
  split
  · exact .refl p.store
  · rename_i limit _
    have same := Plane.store_authenticate p now (signatureParts req) req.method
      req.pathAndQuery req.body
    simp only
    split
    · rw [turnAway, same]
      exact .refl p.store
    · split
      · rw [← same]
        exact Plane.goes_run _
      · rw [turnAway, same]
        exact .refl p.store

theorem goes_respondAt (route : Route) (req : Request) :
    p.store.Goes (respondAt p fresh now route req).plane.store := by
  unfold respondAt
  simp only
  split
  · exact .refl p.store
  · split
    · exact .refl p.store
    · split
      · exact .refl p.store
      · split
        · exact goes_respondSigned _ _ req
        · exact goes_respondUnsigned _ _ req

theorem goes_respond (req : Request) :
    p.store.Goes (respond p fresh now req).plane.store := by
  unfold respond
  split
  · exact .refl p.store
  · split
    · exact .refl p.store
    · simp only
      split
      · exact goes_respondAt _ req
      · exact goes_respondAt _ req

end Http
end FleetControl
