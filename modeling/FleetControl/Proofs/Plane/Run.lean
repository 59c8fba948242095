import FleetControl.Plane.Operation

/-!
# Runs of the plane

A run is a list of steps, taken one after the other by whoever asks.  A step has the
names that it may give, its time, and the observers that are asked in it; all of
these may differ from step to step.
-/

namespace FleetControl

open Time

namespace Fresh

/-- No job has one of these names yet, and no two jobs to come share one. -/
def NamesNewJobs (fresh : Fresh) (s : State) : Prop :=
  (∀ m n, fresh.job m = fresh.job n → m = n) ∧ ∀ n, s.jobs.get? (fresh.job n) = none

def NamesNewAgent (fresh : Fresh) (s : State) : Prop :=
  s.agents.get? fresh.agent = none

/-- Names that begin with a letter, and show the number of the job in strokes. -/
def strokes (letter : Char) : Fresh :=
  { job := fun n => String.ofList (letter :: List.replicate n.toNat '|')
    token := fun jobId => jobId
    block := fun n => String.ofList (letter :: List.replicate n '|')
    allocation := String.singleton letter
    pool := String.singleton letter
    range := String.singleton letter
    agent := String.singleton letter
    secret := String.singleton letter
    sealNonce := List.replicate 12 0 }

theorem strokes_injective (letter : Char) (m n : UInt64)
    (h : (strokes letter).job m = (strokes letter).job n) : m = n := by
  have same : letter :: List.replicate m.toNat '|' = letter :: List.replicate n.toNat '|' :=
    String.ofList_inj.mp h
  have length := congrArg List.length same
  simp only [List.length_cons, List.length_replicate, Nat.add_right_cancel_iff] at length
  exact UInt64.toNat_inj.mp length

theorem strokes_apart {a b : Char} (h : a ≠ b) (m n : UInt64) :
    (strokes a).job m ≠ (strokes b).job n := by
  intro heq
  have same : a :: List.replicate m.toNat '|' = b :: List.replicate n.toNat '|' :=
    String.ofList_inj.mp heq
  exact h (List.cons.inj same).1

end Fresh

namespace Plane

structure Step where
  fresh : Fresh
  now : Instant
  observers : List Observer
  operation : Operation

def perform (p : Plane) (step : Step) : Outcome Answer :=
  { p with observers := step.observers }.run step.fresh step.now step.operation

def next (p : Plane) (step : Step) : Plane :=
  (p.perform step).plane

def idle (config : Config) : Plane :=
  { config := config
    registry := .standard
    observers := []
    store := .inMemory
    guard := .empty }

def after (p : Plane) : List Step → Plane
  | [] => p
  | step :: rest => (p.next step).after rest

/-- Every step of a run names the jobs that it creates by new names. -/
def RunsFresh (p : Plane) : List Step → Prop
  | [] => True
  | step :: rest => step.fresh.NamesNewJobs p.state ∧ (p.next step).RunsFresh rest

def NamesNewAgents (p : Plane) : List Step → Prop
  | [] => True
  | step :: rest => step.fresh.NamesNewAgent p.state ∧ (p.next step).NamesNewAgents rest

@[simp] theorem after_nil (p : Plane) : p.after [] = p := rfl

@[simp] theorem after_cons (p : Plane) (step : Step) (rest : List Step) :
    p.after (step :: rest) = (p.next step).after rest := rfl

theorem after_append (p : Plane) (first second : List Step) :
    p.after (first ++ second) = (p.after first).after second := by
  induction first generalizing p with
  | nil =>
      rfl
  | cons step rest ih =>
      exact ih (p.next step)

theorem runsFresh_append {p : Plane} {first second : List Step} :
    p.RunsFresh (first ++ second) ↔
      p.RunsFresh first ∧ (p.after first).RunsFresh second := by
  induction first generalizing p with
  | nil =>
      simp [RunsFresh]
  | cons step rest ih =>
      simp only [List.cons_append, RunsFresh, after_cons, ih, and_assoc]

theorem namesNewAgents_append {p : Plane} {first second : List Step} :
    p.NamesNewAgents (first ++ second) ↔
      p.NamesNewAgents first ∧ (p.after first).NamesNewAgents second := by
  induction first generalizing p with
  | nil =>
      simp [NamesNewAgents]
  | cons step rest ih =>
      simp only [List.cons_append, NamesNewAgents, after_cons, ih, and_assoc]

/-- What a start has and every fresh step keeps, the end of a fresh run has. -/
theorem after_of_next {P : Plane → Prop}
    (keep : ∀ p step, P p → step.fresh.NamesNewJobs p.state → P (p.next step))
    {p : Plane} (start : P p) {steps : List Step} (fresh : p.RunsFresh steps) :
    P (p.after steps) := by
  induction steps generalizing p with
  | nil =>
      exact start
  | cons step rest ih =>
      exact ih (keep p step start fresh.1) fresh.2

end Plane
end FleetControl
