import FleetControl.Time.Instant

/-!
# Used nonces

A guard remembers which nonce an agent has used, and when.  What is older than the
time to retain is forgotten at every look.
-/

namespace FleetControl
namespace Signature

open Time

structure Sighting where
  agentId : String
  nonce : String
  time : Instant
  deriving DecidableEq

structure Guard where
  seen : List Sighting
  deriving DecidableEq

namespace Guard

def empty : Guard :=
  { seen := [] }

def size (g : Guard) : Nat :=
  g.seen.length

/-- Keep the sightings that are younger than the time to retain. -/
def retain (g : Guard) (now : Instant) (retainMillis : Int) : Guard :=
  { seen := g.seen.filter (fun s => now < s.time.addMillis retainMillis) }

def knows (g : Guard) (agentId nonce : String) : Bool :=
  g.seen.any (fun s => s.agentId = agentId && s.nonce = nonce)

/-- Whether the nonce is fresh, and the guard that remembers it. -/
def check (g : Guard) (agentId nonce : String) (now : Instant) (retainMillis : Int) :
    Bool × Guard :=
  let kept := g.retain now retainMillis
  if kept.knows agentId nonce then (false, kept)
  else (true, { seen := { agentId := agentId, nonce := nonce, time := now } :: kept.seen })

end Guard
end Signature
end FleetControl
