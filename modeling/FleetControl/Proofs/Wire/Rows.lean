import FleetControl.Proofs.Wire.Scalar
import FleetControl.Wire.State

/-!
# Rows and states read back

Rows that hold no values of agents are read back as they were.  A result and an agent hold
such values, and are read back exactly when these are.  So a state is read back exactly when
what agents filled in can be read back where it stands: within a row, which is within a table,
which is within the state.
-/

namespace FleetControl
namespace Wire

open Json
open Json.Decoder
open Json.Record (Yields readsBack_of_yields readsBack_iff_of_yields)
open Inventory

/-!
# Jobs
-/

theorem readsBack_jobStatus (room : Nat) (s : Job.Status) :
    ReadsBack jobStatus (fun s => .text s.word) room s :=
  readsBack_word (by intro s; cases s <;> rfl) room s

theorem readsBack_job (room : Nat) (j : Job) : ReadsBack job ofJob (room + 2) j :=
  readsBack_of_yields rfl
    (Yields.start Job.mk (room + 1)
      |>.known (readsBack_text _ j.id)
      |>.known (readsBack_text _ j.type)
      |>.known (readsBack_payload _ j.payload)
      |>.known (readsBack_jobStatus _ j.status)
      |>.known (readsBack_text? _ j.lockedBy)
      |>.known (readsBack_text? _ j.lockToken)
      |>.known (readsBack_instant? _ j.lockExpiresAt)
      |>.known (readsBack_instant _ j.createdAt)
      |>.known (readsBack_instant _ j.updatedAt)
      |>.known (readsBack_uint64 _ j.seq)
      |>.known (readsBack_text? _ j.createdBy)) (by decide) (by simp)

theorem readsBack_logLine (room : Nat) (l : Job.LogLine) :
    ReadsBack logLine ofLogLine (room + 1) l :=
  readsBack_of_yields rfl
    (Yields.start Job.LogLine.mk room
      |>.known (readsBack_text _ l.jobId)
      |>.known (readsBack_text _ l.message)
      |>.known (readsBack_uint8? _ l.progress)
      |>.known (readsBack_instant _ l.createdAt)) (by decide) (by simp)

theorem readsBack_logLines (room : Nat) (lines : List Job.LogLine) :
    ReadsBack (listOf logLine) (ofList ofLogLine) (room + 2) lines :=
  readsBack_list (fun l _ => readsBack_logLine room l)

/-!
# Ports and firewalls
-/

theorem readsBack_protocols (room : Nat) (protocols : List Port.Protocol) :
    ReadsBack (listOf protocol) (ofList ofProtocol) (room + 1) protocols :=
  readsBack_list (fun p _ => readsBack_protocol room p)

theorem readsBack_pool (room : Nat) (p : Port.Pool) : ReadsBack pool ofPool (room + 2) p :=
  readsBack_of_yields rfl
    (Yields.start Port.Pool.mk (room + 1)
      |>.known (readsBack_text _ p.id)
      |>.known (readsBack_text _ p.nodeId)
      |>.known (readsBack_text _ p.name)
      |>.known (readsBack_uint16 _ p.startPort)
      |>.known (readsBack_uint16 _ p.endPort)
      |>.known (readsBack_protocols _ p.protocols)
      |>.known (readsBack_text _ p.purpose)
      |>.known (readsBack_bool _ p.enabled)) (by decide) (by simp)

theorem readsBack_range (room : Nat) (r : Port.Range) : ReadsBack range ofRange (room + 1) r :=
  readsBack_of_yields rfl
    (Yields.start Port.Range.mk room
      |>.known (readsBack_text _ r.id)
      |>.known (readsBack_text _ r.nodeId)
      |>.known (readsBack_text _ r.name)
      |>.known (readsBack_uint16 _ r.startPort)
      |>.known (readsBack_uint16 _ r.endPort)
      |>.known (readsBack_protocol _ r.protocol)
      |>.known (readsBack_text _ r.purpose)
      |>.known (readsBack_bool _ r.enabled)) (by decide) (by simp)

theorem readsBack_block (room : Nat) (b : Port.Block) : ReadsBack block ofBlock (room + 1) b :=
  readsBack_of_yields rfl
    (Yields.start Port.Block.mk room
      |>.known (readsBack_text _ b.id)
      |>.known (readsBack_text _ b.poolId)
      |>.known (readsBack_text _ b.nodeId)
      |>.known (readsBack_text _ b.customerId)
      |>.known (readsBack_text? _ b.instanceId)
      |>.known (readsBack_uint16 _ b.startPort)
      |>.known (readsBack_uint16 _ b.endPort)
      |>.known (readsBack_instant _ b.allocatedAt)
      |>.known (readsBack_instant? _ b.releasedAt)) (by decide) (by simp)

theorem readsBack_allocation (room : Nat) (a : Port.Allocation) :
    ReadsBack allocation ofAllocation (room + 1) a :=
  readsBack_of_yields rfl
    (Yields.start Port.Allocation.mk room
      |>.known (readsBack_text _ a.id)
      |>.known (readsBack_text _ a.nodeId)
      |>.known (readsBack_protocol _ a.protocol)
      |>.known (readsBack_uint16 _ a.port)
      |>.known (readsBack_text _ a.instanceId)
      |>.known (readsBack_text _ a.role)
      |>.known (readsBack_instant _ a.allocatedAt)) (by decide) (by simp)

theorem readsBack_tables (room : Nat) (t : Port.Tables) :
    ReadsBack tables ofTables (room + 4) t :=
  readsBack_of_yields rfl
    (Yields.start Port.Tables.mk (room + 3)
      |>.known (readsBack_table (readsBack_pool room) t.pools)
      |>.known (readsBack_table (readsBack_range (room + 1)) t.ranges)
      |>.known (readsBack_table (readsBack_block (room + 1)) t.blocks)
      |>.known (readsBack_table (readsBack_allocation (room + 1)) t.allocations))
    (by decide) (by simp)

theorem readsBack_firewall (room : Nat) (f : Firewall.Node) :
    ReadsBack firewall ofFirewall (room + 3) f :=
  readsBack_of_yields rfl
    (Yields.start Firewall.Node.mk (room + 2)
      |>.known (readsBack_text _ f.nodeId)
      |>.known (readsBack_ruleSet _ f.openPorts)
      |>.known (readsBack_ruleSet _ f.managed)
      |>.known (readsBack_instant? _ f.reportedAt)) (by decide) (by simp)

/-!
# Inventory
-/

theorem readsBack_domainStatus (room : Nat) (s : DomainStatus) :
    ReadsBack (wordIn DomainStatus.all DomainStatus.word) (fun s => .text s.word) room s :=
  readsBack_word (by intro s; cases s <;> rfl) room s

theorem readsBack_domain (room : Nat) (d : Domain) : ReadsBack domain ofDomain (room + 1) d :=
  readsBack_of_yields rfl
    (Yields.start Domain.mk room
      |>.known (readsBack_text _ d.id)
      |>.known (readsBack_text _ d.name)
      |>.known (readsBack_domainStatus _ d.status)
      |>.known (readsBack_instant? _ d.sslExpiresAt)
      |>.known (readsBack_instant? _ d.updatedAt)) (by decide) (by simp)

theorem readsBack_queryState (room : Nat) (s : QueryState) :
    ReadsBack (wordIn QueryState.all QueryState.word) (fun s => .text s.word) room s :=
  readsBack_word (by intro s; cases s <;> rfl) room s

theorem readsBack_query (room : Nat) (q : Query) : ReadsBack query ofQuery (room + 1) q :=
  readsBack_of_yields rfl
    (Yields.start Query.mk room
      |>.known (readsBack_queryState _ q.state)
      |>.known (readsBack_uint32? _ q.players)
      |>.known (readsBack_uint32? _ q.maxPlayers)
      |>.known (readsBack_text? _ q.error)
      |>.known (readsBack_instant _ q.checkedAt)) (by decide) (by simp)

theorem readsBack_query? (room : Nat) (o : Option Query) :
    ReadsBack (optional query) (ofOption ofQuery) (room + 1) o :=
  readsBack_option ⟨_, rfl⟩ (readsBack_query room) o

theorem readsBack_instanceStatus (room : Nat) (s : InstanceStatus) :
    ReadsBack instanceStatus (fun s => .text s.word) room s :=
  readsBack_word (by intro s; cases s <;> rfl) room s

theorem readsBack_instanceRow (room : Nat) (i : Instance) :
    ReadsBack instanceRow ofInstance (room + 2) i :=
  readsBack_of_yields rfl
    (Yields.start Instance.mk (room + 1)
      |>.known (readsBack_text _ i.id)
      |>.known (readsBack_text _ i.customerId)
      |>.known (readsBack_text _ i.nodeId)
      |>.known (readsBack_instanceStatus _ i.status)
      |>.known (readsBack_uint64? _ i.diskUsedBytes)
      |>.known (readsBack_text? _ i.diskError)
      |>.known (readsBack_instant? _ i.diskScannedAt)
      |>.known (readsBack_query? _ i.query)
      |>.known (readsBack_instant? _ i.updatedAt)) (by decide) (by simp)

theorem readsBack_flavor (room : Nat) (f : Flavor) :
    ReadsBack (wordIn [Flavor.ts3, Flavor.ts6] Flavor.word) (fun f => .text f.word) room f :=
  readsBack_word (by intro f; cases f <;> rfl) room f

theorem readsBack_voiceServer (room : Nat) (v : VoiceServer) :
    ReadsBack voiceServer ofVoiceServer (room + 1) v :=
  readsBack_of_yields rfl
    (Yields.start VoiceServer.mk room
      |>.known (readsBack_text _ v.id)
      |>.known (readsBack_flavor _ v.flavor)
      |>.known (readsBack_text _ v.nodeId)
      |>.known (readsBack_instanceStatus _ v.status)
      |>.known (readsBack_instant? _ v.updatedAt)) (by decide) (by simp)

theorem readsBack_backupStatus (room : Nat) (s : BackupStatus) :
    ReadsBack (wordIn BackupStatus.all BackupStatus.word) (fun s => .text s.word) room s :=
  readsBack_word (by intro s; cases s <;> rfl) room s

theorem readsBack_backup (room : Nat) (b : Backup) : ReadsBack backup ofBackup (room + 1) b :=
  readsBack_of_yields rfl
    (Yields.start Backup.mk room
      |>.known (readsBack_text _ b.id)
      |>.known (readsBack_text _ b.instanceId)
      |>.known (readsBack_backupStatus _ b.status)
      |>.known (readsBack_uint64? _ b.sizeBytes)
      |>.known (readsBack_text? _ b.error)
      |>.known (readsBack_instant? _ b.completedAt)) (by decide) (by simp)

theorem readsBack_user (room : Nat) (u : User) : ReadsBack user ofUser (room + 1) u :=
  readsBack_of_yields rfl
    (Yields.start User.mk room
      |>.known (readsBack_text _ u.id)
      |>.known (readsBack_text _ u.email)
      |>.known (readsBack_text _ u.displayName)
      |>.known (readsBack_instant? _ u.anonymizedAt)) (by decide) (by simp)

theorem readsBack_deletionStatus (room : Nat) (s : DeletionStatus) :
    ReadsBack (wordIn DeletionStatus.all DeletionStatus.word) (fun s => .text s.word) room s :=
  readsBack_word (by intro s; cases s <;> rfl) room s

theorem readsBack_deletionRequest (room : Nat) (r : DeletionRequest) :
    ReadsBack deletionRequest ofDeletionRequest (room + 1) r :=
  readsBack_of_yields rfl
    (Yields.start DeletionRequest.mk room
      |>.known (readsBack_text _ r.id)
      |>.known (readsBack_text _ r.userId)
      |>.known (readsBack_deletionStatus _ r.status)
      |>.known (readsBack_instant? _ r.completedAt)) (by decide) (by simp)

theorem readsBack_diskLevel (room : Nat) (l : DiskLevel) :
    ReadsBack (wordIn DiskLevel.all DiskLevel.word) (fun l => .text l.word) room l :=
  readsBack_word (by intro l; cases l <;> rfl) room l

theorem readsBack_nodeDisk (room : Nat) (d : NodeDisk) :
    ReadsBack nodeDisk ofNodeDisk (room + 1) d :=
  readsBack_of_yields rfl
    (Yields.start NodeDisk.mk room
      |>.known (readsBack_text _ d.nodeId)
      |>.known (readsBack_uint64? _ d.totalBytes)
      |>.known (readsBack_uint64? _ d.freeBytes)
      |>.known (readsBack_diskLevel _ d.level)
      |>.known (readsBack_bool _ d.overrideActive)
      |>.known (readsBack_text? _ d.error)
      |>.known (readsBack_instant _ d.updatedAt)) (by decide) (by simp)

theorem readsBack_ddosReport (room : Nat) (r : DdosReport) :
    ReadsBack ddosReport ofDdosReport (room + 2) r :=
  readsBack_of_yields rfl
    (Yields.start DdosReport.mk (room + 1)
      |>.known (readsBack_text _ r.nodeId)
      |>.known (readsBack_bool _ r.attackActive)
      |>.known (readsBack_uint64 _ r.pps)
      |>.known (readsBack_uint64? _ r.bps)
      |>.known (readsBack_ports _ r.ports)
      |>.known (readsBack_texts _ r.protocols)
      |>.known (readsBack_instant _ r.reportedAt)) (by decide) (by simp)

theorem readsBack_ddosPolicy (room : Nat) (p : DdosPolicy) :
    ReadsBack ddosPolicy ofDdosPolicy (room + 2) p :=
  readsBack_of_yields rfl
    (Yields.start DdosPolicy.mk (room + 1)
      |>.known (readsBack_text _ p.nodeId)
      |>.known (readsBack_text _ p.mode)
      |>.known (readsBack_ports _ p.ports)
      |>.known (readsBack_texts _ p.protocols)
      |>.known (readsBack_bool _ p.enabled)
      |>.known (readsBack_instant _ p.appliedAt)) (by decide) (by simp)

/-!
# What agents fill in
-/

theorem readsBack_result_iff {room : Nat} {r : Job.Result} :
    ReadsBack result ofResult (room + 2) r ↔ MembersRestore room r.output := by
  rw [← readsBack_members_iff]
  refine Iff.trans (readsBack_iff_of_yields rfl
    (Yields.start Job.Result.mk (room + 1)
      |>.known (readsBack_text _ r.jobId)
      |>.known (readsBack_jobStatus _ r.status)
      |>.asked members (Draft.reread (ofMembers r.output))
      |>.known (readsBack_instant _ r.completedAt)) (by decide) (by simp)) ?_
  rcases r with ⟨jobId, status, output, completedAt⟩
  simp [ReadsBack, ← Refusal.toOption_eq_some]

theorem readsBack_agentStatus (room : Nat) (s : Agent.Status) :
    ReadsBack (wordIn Agent.Status.all Agent.Status.word) (fun s => .text s.word) room s :=
  readsBack_word (by intro s; cases s <;> rfl) room s

theorem readsBack_agent_iff {room : Nat} {a : Agent} :
    ReadsBack agent ofAgent (room + 2) a ↔
      MembersRestore room a.lastHeartbeatStats ∧ MembersRestore room a.metadata := by
  rw [← readsBack_members_iff, ← readsBack_members_iff]
  refine Iff.trans (readsBack_iff_of_yields rfl
    (Yields.start Agent.mk (room + 1)
      |>.known (readsBack_text _ a.id)
      |>.known (readsBack_text _ a.name)
      |>.known (readsBack_text _ a.sealedSecret)
      |>.known (readsBack_names _ a.roles)
      |>.known (readsBack_agentStatus _ a.status)
      |>.known (readsBack_instant? _ a.lastHeartbeatAt)
      |>.known (readsBack_text? _ a.lastHeartbeatIp)
      |>.known (readsBack_text? _ a.lastHeartbeatVersion)
      |>.asked members (Draft.reread (ofMembers a.lastHeartbeatStats))
      |>.known (readsBack_uint32 _ a.jobConcurrency)
      |>.asked members (Draft.reread (ofMembers a.metadata))
      |>.known (readsBack_instant _ a.registeredAt)) (by decide) (by simp)) ?_
  simp only [ReadsBack, ← Refusal.toOption_eq_some]
  cases (members (room + 1) (Draft.reread (ofMembers a.lastHeartbeatStats))).toOption with
  | none => simp
  | some stats =>
      cases (members (room + 1) (Draft.reread (ofMembers a.metadata))).toOption with
      | none => simp
      | some metadata =>
          cases a
          simp

/-!
# States
-/

theorem readsBack_state_iff_tables {room : Nat} {s : State} :
    ReadsBack state ofState (room + 5) s ↔
      ReadsBack (tableOf result) (ofTable ofResult) (room + 4) s.results ∧
        ReadsBack (tableOf agent) (ofTable ofAgent) (room + 4) s.agents := by
  refine Iff.trans (readsBack_iff_of_yields rfl
    (Yields.start State.mk (room + 4)
      |>.known (readsBack_table (readsBack_job (room + 1)) s.jobs)
      |>.asked (tableOf result) (Draft.reread (ofTable ofResult s.results))
      |>.known (readsBack_table (readsBack_logLines (room + 1)) s.logs)
      |>.asked (tableOf agent) (Draft.reread (ofTable ofAgent s.agents))
      |>.known (readsBack_tables room s.ports)
      |>.known (readsBack_table (readsBack_firewall room) s.firewalls)
      |>.known (readsBack_table (readsBack_ddosReport (room + 1)) s.ddosReports)
      |>.known (readsBack_table (readsBack_ddosPolicy (room + 1)) s.ddosPolicies)
      |>.known (readsBack_table (readsBack_domain (room + 2)) s.domains)
      |>.known (readsBack_table (readsBack_instanceRow (room + 1)) s.instances)
      |>.known (readsBack_table (readsBack_voiceServer (room + 2)) s.voiceServers)
      |>.known (readsBack_table (readsBack_backup (room + 2)) s.backups)
      |>.known (readsBack_table (readsBack_user (room + 2)) s.users)
      |>.known (readsBack_table (readsBack_deletionRequest (room + 2)) s.deletionRequests)
      |>.known (readsBack_table (readsBack_nodeDisk (room + 2)) s.nodeDisks)
      |>.known (readsBack_uint64 _ s.lastSeq)
      |>.known (readsBack_uint64 _ s.revision)) (by decide) (by simp)) ?_
  simp only [ReadsBack, ← Refusal.toOption_eq_some]
  cases (tableOf result (room + 4) (Draft.reread (ofTable ofResult s.results))).toOption with
  | none => simp
  | some results =>
      cases (tableOf agent (room + 4) (Draft.reread (ofTable ofAgent s.agents))).toOption with
      | none => simp
      | some agents =>
          cases s
          simp

end Wire
end FleetControl
