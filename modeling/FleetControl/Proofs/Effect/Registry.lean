import FleetControl.Effect.Registry

/-!
# What the standard handlers make of a job

Handlers speak about the work of the job that they are given.  So a change of a firewall
follows from firewall work only, and it opens no rule that the work does not name.
-/

namespace FleetControl
namespace Effect

open Port

namespace Registry

variable {α : Type} {P : α → Prop} {r : Registry α}

/-!
# What holds of all handlers
-/

structure All (P : α → Prop) (r : Registry α) : Prop where
  exact : ∀ type handler, r.exact.get? type = some handler → P handler
  leads : ∀ entry ∈ r.leads, P entry.2

theorem all_empty (P : α → Prop) : (empty : Registry α).All P where
  exact := fun _ _ h => nomatch h
  leads := fun _ h => nomatch h

theorem All.register (all : r.All P) (type : String) {handler : α} (new : P handler) :
    (r.register type handler).All P where
  exact := by
    intro other found h
    rw [Registry.register, Table.get?_insert] at h
    split at h
    · cases h
      exact new
    · exact all.exact other found h
  leads := all.leads

theorem All.registerLead (all : r.All P) (lead : String) {handler : α} (new : P handler) :
    (r.registerLead lead handler).All P where
  exact := all.exact
  leads := by
    intro entry h
    rcases List.mem_append.mp (List.mem_mergeSort.mp h) with h | h
    · exact all.leads entry h
    · rw [List.mem_singleton.mp h]
      exact new

theorem All.foldl_register (all : r.All P) {entries : List (String × α)}
    (new : ∀ entry ∈ entries, P entry.2) :
    (entries.foldl (fun r entry => r.register entry.1 entry.2) r).All P := by
  induction entries generalizing r with
  | nil => exact all
  | cons entry rest ih =>
      rcases List.forall_mem_cons.mp new with ⟨first, others⟩
      exact ih (all.register entry.1 first) others

theorem All.foldl_registerLead (all : r.All P) {entries : List (String × α)}
    (new : ∀ entry ∈ entries, P entry.2) :
    (entries.foldl (fun r entry => r.registerLead entry.1 entry.2) r).All P := by
  induction entries generalizing r with
  | nil => exact all
  | cons entry rest ih =>
      rcases List.forall_mem_cons.mp new with ⟨first, others⟩
      exact ih (all.registerLead entry.1 first) others

theorem All.route (all : r.All P) {type : String} {handler : α}
    (h : r.route type = some handler) : P handler := by
  rw [Registry.route, Option.or_eq_some_iff] at h
  rcases h with h | ⟨_, h⟩
  · exact all.exact type handler h
  · rcases Option.map_eq_some_iff.mp h with ⟨entry, found, rfl⟩
    exact all.leads entry (List.mem_of_find?_eq_some found)

end Registry

def Handler.aside : List Handler :=
  [domainAdded, certificateIssued, ddosReported, ddosPolicyApplied, voiceServerLifecycle,
    diskScanned, nodeDiskReported, queryChanged, backupFinished, userAnonymized]

theorem Registry.all_standard {P : Handler → Prop} (firewall : P Handler.firewallApplied)
    (lifecycle : P Handler.instanceLifecycle) (aside : ∀ handler ∈ Handler.aside, P handler) :
    standard.All P := by
  simp only [Handler.aside, List.forall_mem_cons, List.not_mem_nil, false_implies,
    implies_true, and_true] at aside
  refine All.foldl_registerLead (All.foldl_register (all_empty _) ?_) ?_
  · simp [aside, firewall]
  · simp [aside, lifecycle]

/-!
# Changes of firewalls
-/

/-- The handler has no firewall changed but by firewall work, and no rule opened that the
work does not name. -/
def Handler.KeepsToWork (handler : Handler) : Prop :=
  ∀ i nodeId opened closed, Event.firewallApplied nodeId opened closed ∈ handler i →
    ∃ rules, i.work = .firewall nodeId rules ∧ ∀ r ∈ opened, r ∈ rules

namespace Handler

theorem keepsToWork_firewallApplied : KeepsToWork firewallApplied := by
  intro i nodeId opened closed h
  unfold firewallApplied at h
  split at h
  · rename_i node rules work
    split at h
    · split at h
      · cases List.mem_singleton.mp h
        exact ⟨_, work, by simp⟩
      · cases List.mem_singleton.mp h
        exact ⟨_, work, fun _ h => h⟩
    · cases h
  · cases h

def IsSilent (handler : Handler) : Prop :=
  ∀ i nodeId opened closed, Event.firewallApplied nodeId opened closed ∉ handler i

theorem IsSilent.keepsToWork {handler : Handler} (silent : IsSilent handler) :
    KeepsToWork handler :=
  fun i nodeId opened closed h => absurd h (silent i nodeId opened closed)

theorem not_mem_instanceFollowUps {instanceId nodeId : String} {on : Option String}
    {action : Inventory.Lifecycle} {opened closed : List Rule} :
    Event.firewallApplied nodeId opened closed ∉ instanceFollowUps instanceId on action := by
  cases action <;> simp [instanceFollowUps]

theorem isSilent_instanceLifecycle : IsSilent instanceLifecycle := by
  intro i nodeId opened closed h
  grind [instanceLifecycle, not_mem_instanceFollowUps]

theorem isSilent_of_mem_aside : ∀ handler ∈ aside, IsSilent handler := by
  simp only [aside, List.forall_mem_cons, List.not_mem_nil, false_implies, implies_true, and_true]
  refine ⟨?_, ?_, ?_, ?_, ?_, ?_, ?_, ?_, ?_, ?_⟩
  all_goals
    intro i nodeId opened closed h
    grind [domainAdded, certificateIssued, ddosReported, ddosPolicyApplied,
      voiceServerLifecycle, diskScanned, nodeDiskReported, queryChanged, backupFinished,
      userAnonymized]

end Handler

theorem Registry.keepsToWork_standard : standard.All Handler.KeepsToWork :=
  all_standard Handler.keepsToWork_firewallApplied
    Handler.isSilent_instanceLifecycle.keepsToWork
    fun handler mem => (Handler.isSilent_of_mem_aside handler mem).keepsToWork

/-!
# Scans of disks
-/

def Handler.ScansStarted (handler : Handler) : Prop :=
  ∀ i instanceId nodeId, Event.diskScanRequested instanceId nodeId ∈ handler i →
    i.status = .succeeded ∧ ∃ action, i.work = .lifecycle instanceId nodeId action ∧
      (action = .create ∨ action = .start)

namespace Handler

theorem mem_instanceFollowUps {instanceId other : String} {nodeId on : Option String}
    {action : Inventory.Lifecycle}
    (h : Event.diskScanRequested other on ∈ instanceFollowUps instanceId nodeId action) :
    other = instanceId ∧ on = nodeId ∧ (action = .create ∨ action = .start) := by
  cases action with
  | create | start =>
      cases List.mem_singleton.mp h
      simp
  | delete => cases List.mem_singleton.mp h
  | stop | restart | reinstall | suspend | unsuspend | other _ => cases h

theorem scansStarted_instanceLifecycle : ScansStarted instanceLifecycle := by
  intro i instanceId nodeId h
  unfold instanceLifecycle at h
  split at h
  · rename_i other on action work
    split at h
    · rename_i succeeded
      split at h
      · rcases List.mem_cons.mp h with changed | asked
        · cases changed
        · rcases mem_instanceFollowUps asked with ⟨rfl, rfl, starts⟩
          exact ⟨succeeded, action, work, starts⟩
      · cases h
    · split at h
      · cases List.mem_singleton.mp h
      · cases h
    · cases h
  · cases h

theorem scansStarted_firewallApplied : ScansStarted firewallApplied := by
  intro i instanceId nodeId h
  grind [firewallApplied]

theorem scansStarted_of_mem_aside : ∀ handler ∈ aside, ScansStarted handler := by
  simp only [aside, List.forall_mem_cons, List.not_mem_nil, false_implies, implies_true, and_true]
  refine ⟨?_, ?_, ?_, ?_, ?_, ?_, ?_, ?_, ?_, ?_⟩
  all_goals
    intro i instanceId nodeId h
    grind [domainAdded, certificateIssued, ddosReported, ddosPolicyApplied,
      voiceServerLifecycle, diskScanned, nodeDiskReported, queryChanged, backupFinished,
      userAnonymized]

end Handler

theorem Registry.scansStarted_standard : standard.All Handler.ScansStarted :=
  all_standard Handler.scansStarted_firewallApplied Handler.scansStarted_instanceLifecycle
    Handler.scansStarted_of_mem_aside

/-!
# Leads
-/

def Registry.standardLeads : List (String × Handler) :=
  [("instance.", Handler.instanceLifecycle),
   ("ts3.", Handler.voiceServerLifecycle),
   ("ts6.", Handler.voiceServerLifecycle)]

theorem Registry.leads_standard : standard.leads = standardLeads := by
  have ts3 : "ts3.".utf8ByteSize = 4 := by decide
  have ts6 : "ts6.".utf8ByteSize = 4 := by decide
  have instance_ : "instance.".utf8ByteSize = 9 := by decide
  simp [standard, register, registerLead, empty, notShorter, standardLeads, List.mergeSort,
    List.MergeSort.Internal.splitInTwo, ts3, ts6, instance_]

/-- The standard registry with its leads written out: sorting them does not reduce. -/
theorem Registry.standard_eq : standard = { standard with leads := standardLeads } := by
  rw [← leads_standard]

theorem Registry.route_of_firewall {type : String}
    (h : type = "firewall.open_ports" ∨ type = "firewall.close_ports") :
    standard.route type = some Handler.firewallApplied := by
  rcases h with rfl | rfl <;> rfl

end Effect
end FleetControl
