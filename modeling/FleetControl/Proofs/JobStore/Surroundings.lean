import FleetControl.Proofs.Refusal
import FleetControl.State.Dispatch
import FleetControl.State.Reports

/-!
# The surroundings of the jobs

Agents, ports, firewalls and the inventory surround the jobs.  What is done to jobs alone
leaves the surroundings as they are, and so does the creation of jobs.
-/

namespace FleetControl

open Refusal
open Time

namespace State

def surroundings (s : State) : State :=
  { s with jobs := .empty, results := .empty, logs := .empty, lastSeq := 0 }

def besidesRows (s : State) : State :=
  { s with jobs := .empty, results := .empty }

variable {s s' : State} {id : String} {now : Instant}

theorem logs_of_besidesRows (h : s'.besidesRows = s.besidesRows) : s'.logs = s.logs := by
  have same := congrArg logs h
  exact same

theorem surroundings_of_besidesRows (h : s'.besidesRows = s.besidesRows) :
    s'.surroundings = s.surroundings := by
  have same := congrArg surroundings h
  exact same

/-!
# One job
-/

theorem surroundings_appendLogs (s : State) (id : String) (messages : List String)
    (now : Instant) : (s.appendLogs id messages now).surroundings = s.surroundings := by
  induction messages generalizing s with
  | nil => rfl
  | cons message rest ih => exact ih (s.appendLog id message none now)

theorem besidesRows_transition {next previous : Job.Status}
    (h : s.transition id next now = .ok (previous, s')) : s'.besidesRows = s.besidesRows := by
  unfold transition at h
  rcases bind_eq_ok.mp h with ⟨job, _, h⟩
  split at h
  · cases pure_eq_ok.mp h
    rfl
  · exact absurd h throw_ne_ok

theorem besidesRows_lockJob {agentId token : String} {expires : Instant}
    (h : s.lockJob id agentId token expires = .ok s') : s'.besidesRows = s.besidesRows := by
  unfold lockJob at h
  rcases bind_eq_ok.mp h with ⟨job, _, h⟩
  split at h
  · cases pure_eq_ok.mp h
    rfl
  · exact absurd h throw_ne_ok

theorem besidesRows_unlockJob {token : String} {held : Bool}
    (h : s.unlockJob id token = .ok (held, s')) : s'.besidesRows = s.besidesRows := by
  unfold unlockJob at h
  rcases bind_eq_ok.mp h with ⟨job, _, h⟩
  split at h <;> cases pure_eq_ok.mp h <;> rfl

theorem besidesRows_extendLock {expiry extended : Instant}
    (h : s.extendLock id expiry now = .ok (extended, s')) :
    s'.besidesRows = s.besidesRows := by
  unfold extendLock at h
  rcases bind_eq_ok.mp h with ⟨job, _, h⟩
  split at h
  · split at h
    · split at h
      · cases pure_eq_ok.mp h
        rfl
      · exact absurd h throw_ne_ok
    · exact absurd h throw_ne_ok
  · exact absurd h throw_ne_ok

theorem surroundings_leaseJob {agentId token : String} {ttl : Int} {job : Job}
    (h : s.leaseJob id agentId token ttl now = .ok (job, s')) :
    s'.surroundings = s.surroundings := by
  unfold leaseJob at h
  rcases bind_eq_ok.mp h with ⟨locked, hlock, h⟩
  rcases bind_eq_ok.mp h with ⟨⟨_, started⟩, hstart, h⟩
  rcases bind_eq_ok.mp h with ⟨_, _, h⟩
  cases pure_eq_ok.mp h
  have rows := (besidesRows_transition hstart).trans (besidesRows_lockJob hlock)
  have leased := surroundings_of_besidesRows rows
  exact leased

theorem surroundings_cancelJob {job : Job} (h : s.cancelJob id now = .ok (job, s')) :
    s'.surroundings = s.surroundings := by
  unfold cancelJob at h
  rcases bind_eq_ok.mp h with ⟨before, _, h⟩
  split at h
  · exact absurd h throw_ne_ok
  · split at h
    · exact absurd h throw_ne_ok
    · rcases bind_eq_ok.mp h with ⟨⟨_, withdrawn⟩, hmove, h⟩
      rcases bind_eq_ok.mp h with ⟨_, _, h⟩
      cases pure_eq_ok.mp h
      have moved := surroundings_of_besidesRows (besidesRows_transition hmove)
      exact moved

theorem besidesRows_recordResult {status : Job.Status} {output : Members}
    {completedAt : Instant} {result : Job.Result}
    (h : s.recordResult id status output completedAt = .ok (result, s')) :
    s'.besidesRows = s.besidesRows := by
  unfold recordResult at h
  split at h
  · cases h
  · cases h
    rfl

theorem surroundings_finishJob {token : String} {status : Job.Status} {report : ResultReport}
    {cap : Nat} {job : Job} {result : Job.Result}
    (h : s.finishJob id token status report cap now = .ok (job, result, s')) :
    s'.surroundings = s.surroundings := by
  unfold finishJob at h
  rcases bind_eq_ok.mp h with ⟨⟨_, recorded⟩, hresult, h⟩
  rcases bind_eq_ok.mp h with ⟨⟨_, moved⟩, hmove, h⟩
  rcases bind_eq_ok.mp h with ⟨⟨_, released⟩, hunlock, h⟩
  rcases bind_eq_ok.mp h with ⟨_, _, h⟩
  cases pure_eq_ok.mp h
  have rows := (besidesRows_unlockJob hunlock).trans
    ((besidesRows_transition hmove).trans (besidesRows_recordResult hresult))
  exact (surroundings_of_besidesRows rows).trans (surroundings_appendLogs _ _ _ _)

theorem surroundings_submitLogs {agentId : String} {report : LogReport} {policy : ReportPolicy}
    {expires : Instant} (h : s.submitLogs agentId id report policy now = .ok (expires, s')) :
    s'.surroundings = s.surroundings := by
  unfold submitLogs at h
  rcases bind_eq_ok.mp h with ⟨_, _, h⟩
  rcases bind_eq_ok.mp h with ⟨token, _, h⟩
  rcases bind_eq_ok.mp h with ⟨_, _, h⟩
  rcases bind_eq_ok.mp h with ⟨⟨extended, held⟩, hextend, h⟩
  cases pure_eq_ok.mp h
  rw [surroundings_appendLogs, ← surroundings_of_besidesRows (besidesRows_extendLock hextend)]
  split <;> rfl

/-!
# Many jobs
-/

theorem surroundings_reclaim (s : State) (id : String) (now : Instant) :
    (s.reclaim id now).2.surroundings = s.surroundings := by
  unfold reclaim
  split
  · rfl
  · simp only
    split
    · rename_i recorded
      have written := surroundings_of_besidesRows (besidesRows_recordResult recorded)
      exact written
    · rfl

theorem surroundings_reclaimAll (s : State) (now : Instant) (ids : List String) :
    (s.reclaimAll now ids).2.surroundings = s.surroundings := by
  induction ids generalizing s with
  | nil => rfl
  | cons id rest ih => exact (ih (s.reclaim id now).2).trans (s.surroundings_reclaim id now)

theorem surroundings_expireStale (s : State) (now : Instant) :
    (s.expireStale now).2.surroundings = s.surroundings :=
  s.surroundings_reclaimAll now (s.lapsedIds now)

theorem surroundings_leaseCandidates (s : State) (fresh : Fresh) (policy : DispatchPolicy)
    (observers : List Observer) (agentId : String) (agent : Agent) (now : Instant)
    (slots updates : Nat) (ids : List String) :
    (s.leaseCandidates fresh policy observers agentId agent now slots updates
      ids).2.surroundings = s.surroundings := by
  induction ids generalizing s slots updates with
  | nil => rfl
  | cons id rest ih =>
      unfold leaseCandidates
      split
      · rfl
      · split
        · exact ih s slots updates
        · split
          · split
            · exact ih s slots updates
            · rename_i leased
              exact (ih _ _ _).trans (surroundings_leaseJob leased)
          · exact ih s slots updates

theorem surroundings_pollForWork {fresh : Fresh} {agentId : String} {limit : Nat}
    {policy : DispatchPolicy} {observers : List Observer} {outcome : PollOutcome}
    (h : s.pollForWork fresh agentId limit policy observers now = .ok (outcome, s')) :
    s'.surroundings = s.surroundings := by
  unfold pollForWork at h
  split at h
  · cases h
  · split at h
    · cases h
    · cases h
      exact (surroundings_leaseCandidates _ _ _ _ _ _ _ _ _ _).trans
        (s.surroundings_expireStale now)

/-!
# New jobs
-/

theorem surroundings_createJob {fresh : Fresh} {order : Job.Order} {job : Job}
    (h : s.createJob fresh order now = .ok (job, s')) : s'.surroundings = s.surroundings := by
  unfold createJob at h
  split at h
  · cases h
  · split at h
    · cases h
    · cases h
      rfl

theorem surroundings_requestFirewallJob (s : State) (fresh : Fresh) (type nodeId : String)
    (rules : List Port.Rule) (now : Instant) :
    (s.requestFirewallJob fresh type nodeId rules now).2.surroundings = s.surroundings := by
  unfold requestFirewallJob
  split
  · rfl
  · dsimp only
    split <;> rfl

theorem surroundings_reconcileFirewall (s : State) (fresh : Fresh) (nodeId : String)
    (now : Instant) :
    (s.reconcileFirewall fresh nodeId now).2.surroundings = s.surroundings :=
  (surroundings_requestFirewallJob _ fresh closePortsType nodeId _ now).trans
    (s.surroundings_requestFirewallJob fresh openPortsType nodeId _ now)

theorem surroundings_reconcileFirewalls (s : State) (fresh : Fresh) (now : Instant)
    (nodes : List String) :
    (s.reconcileFirewalls fresh now nodes).2.surroundings = s.surroundings := by
  induction nodes generalizing s with
  | nil => rfl
  | cons nodeId rest ih =>
      exact (ih (s.reconcileFirewall fresh nodeId now).2).trans
        (s.surroundings_reconcileFirewall fresh nodeId now)

end State
end FleetControl
