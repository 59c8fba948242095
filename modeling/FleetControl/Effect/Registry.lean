import FleetControl.Effect.Handlers
import FleetControl.Table
import FleetControl.Text.Quoted

/-!
# Registries

A registry routes job types.  A type that is registered exactly goes to what was
registered last for it.  Any other type goes to the longest registered lead of it,
and of equal leads to the one registered first.
-/

namespace FleetControl
namespace Effect

structure Registry (α : Type) where
  exact : Table α
  /-- Longer leads stand before shorter ones. -/
  leads : List (String × α)

namespace Registry

variable {α : Type}

def empty : Registry α :=
  { exact := .empty, leads := [] }

def register (r : Registry α) (type : String) (handler : α) : Registry α :=
  { r with exact := r.exact.insert type handler }

def notShorter (a b : String × α) : Bool :=
  decide (b.1.utf8ByteSize ≤ a.1.utf8ByteSize)

def registerLead (r : Registry α) (lead : String) (handler : α) : Registry α :=
  { r with leads := (r.leads ++ [(lead, handler)]).mergeSort notShorter }

def route (r : Registry α) (type : String) : Option α :=
  (r.exact.get? type).or
    ((r.leads.find? (fun entry => Text.startsWith entry.1 type)).map Prod.snd)

/-- The handlers of all families. -/
def standard : Registry Handler :=
  let exact : List (String × Handler) :=
    [("domain.add", Handler.domainAdded),
     ("domain.ssl.issue", Handler.certificateIssued),
     ("firewall.open_ports", Handler.firewallApplied),
     ("firewall.close_ports", Handler.firewallApplied),
     ("ddos.status.check", Handler.ddosReported),
     ("ddos.policy.apply", Handler.ddosPolicyApplied),
     ("instance.disk.scan", Handler.diskScanned),
     ("node.disk.stat", Handler.nodeDiskReported),
     ("server.status.check", Handler.queryChanged),
     ("instance.query.check", Handler.queryChanged),
     ("instance.backup.create", Handler.backupFinished),
     ("gdpr.anonymize_user", Handler.userAnonymized)]
  let leads : List (String × Handler) :=
    [("ts3.", Handler.voiceServerLifecycle),
     ("ts6.", Handler.voiceServerLifecycle),
     ("instance.", Handler.instanceLifecycle)]
  let r := exact.foldl (fun r entry => r.register entry.1 entry.2) empty
  leads.foldl (fun r entry => r.registerLead entry.1 entry.2) r

def map {β : Type} (change : α → β) (r : Registry α) : Registry β :=
  { exact := r.exact.map (fun _ handler => change handler)
    leads := r.leads.map (fun entry => (entry.1, change entry.2)) }

/-- What is registered, for human readers: exact types in order, then the leads as
they are searched. -/
def describe (r : Registry α) : String :=
  "EffectRegistry \x7b exact: " ++ Text.Quoted.list r.exact.keys ++ ", prefixes: " ++
    Text.Quoted.list (r.leads.map Prod.fst) ++ " \x7d"

/-- The events of a finished job; a type that is not routed has none. -/
def eventsFor (r : Registry Handler) (i : Input) : List Event :=
  match r.route i.type with
  | some handler => handler i
  | none => []

end Registry
end Effect
end FleetControl
