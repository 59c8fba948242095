import FleetControl.Text.Ascii
import FleetControl.Text.Blank

/-!
# Job status

A job is queued, then running, then in one of three terminal states; a queued job
may also be cancelled.  No edge leaves a terminal state.
-/

namespace FleetControl
namespace Job

inductive Status where
  | queued
  | running
  | succeeded
  | failed
  | cancelled
  deriving DecidableEq, Repr, Inhabited

namespace Status

def word : Status → String
  | .queued => "queued"
  | .running => "running"
  | .succeeded => "succeeded"
  | .failed => "failed"
  | .cancelled => "cancelled"

def all : List Status :=
  [.queued, .running, .succeeded, .failed, .cancelled]

def isTerminal : Status → Bool
  | .queued => false
  | .running => false
  | _ => true

/-- A queued or running job. -/
def isPending (s : Status) : Bool :=
  !s.isTerminal

def canBecome : Status → Status → Bool
  | .queued, .running => true
  | .queued, .cancelled => true
  | .running, .succeeded => true
  | .running, .failed => true
  | .running, .cancelled => true
  | _, _ => false

/-- The outcome reported by an agent; only terminal states have words. -/
def reported? (s : String) : Option Status :=
  match Text.lower (Text.trim s) with
  | "succeeded" => some .succeeded
  | "success" => some .succeeded
  | "failed" => some .failed
  | "failure" => some .failed
  | "cancelled" => some .cancelled
  | "canceled" => some .cancelled
  | _ => none

theorem not_canBecome_of_isTerminal {s : Status} (h : s.isTerminal = true)
    (next : Status) : s.canBecome next = false := by
  cases s <;> cases next <;> simp [isTerminal, canBecome] at h ⊢

theorem isTerminal_of_reported? {text : String} {s : Status}
    (h : reported? text = some s) : s.isTerminal = true := by
  unfold reported? at h
  split at h <;> cases h <;> rfl

end Status
end Job
end FleetControl
