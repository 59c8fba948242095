import FleetControl.Proofs.Store.Reload

/-!
# Snapshots read back

The depth of a text is all that limits what a snapshot can hold.  A state whose text is
nested within the limit of the reader, and whose numbers are read back, is read back from
its snapshot as it was: every row of every table, every instant, every option that is
absent, and the two counts.
-/

namespace FleetControl

open Json

/-!
# Values within a document

What stands in a document that can be read back can be read back where it stands.
-/

namespace Wire

theorem restores_of_ofTable {α : Type} {write : α → Json} {room : Nat} {t : Table α}
    (restores : (ofTable write t).Restores (room + 1)) {id : String} {row : α}
    (found : t.get? id = some row) : (write row).Restores room :=
  restores_object.mp restores (id, write row)
    (List.mem_map.mpr ⟨(id, row), Table.get?_eq_some_iff.mp found, rfl⟩)

theorem membersRestore_of_ofMembers {room : Nat} {m : Members}
    (restores : (ofMembers m).Restores (room + 1)) : MembersRestore room m := by
  intro entry hentry
  exact restores_of_ofTable restores (Table.get?_eq_some_iff.mpr hentry)

theorem membersRestore_of_ofResult {room : Nat} {r : Job.Result}
    (restores : (ofResult r).Restores (room + 2)) : MembersRestore room r.output :=
  membersRestore_of_ofMembers
    (restores_object.mp restores ("output", ofMembers r.output) (by simp))

theorem membersRestore_of_ofAgent {room : Nat} {a : Agent}
    (restores : (ofAgent a).Restores (room + 2)) :
    MembersRestore room a.lastHeartbeatStats ∧ MembersRestore room a.metadata := by
  have fields := restores_object.mp restores
  constructor
  · exact membersRestore_of_ofMembers
      (fields ("last_heartbeat_stats", ofMembers a.lastHeartbeatStats) (by simp))
  · exact membersRestore_of_ofMembers (fields ("metadata", ofMembers a.metadata) (by simp))

/-- The values of agents stand four levels below the document of the state. -/
theorem restorable_of_ofState {s : State}
    (restores : (ofState s).Restores Decoder.depthLimit) : s.Restorable := by
  have inner : (ofState s).Restores (State.valueRoom + 3 + 1) := restores
  have fields := restores_object.mp inner
  have results : (ofTable ofResult s.results).Restores (State.valueRoom + 3) :=
    fields ("results", ofTable ofResult s.results) (by simp)
  have agents : (ofTable ofAgent s.agents).Restores (State.valueRoom + 3) :=
    fields ("agents", ofTable ofAgent s.agents) (by simp)
  constructor
  · intro jobId result found
    exact membersRestore_of_ofResult (restores_of_ofTable results found)
  · intro agentId agent found
    exact (membersRestore_of_ofAgent (restores_of_ofTable agents found)).1
  · intro agentId agent found
    exact (membersRestore_of_ofAgent (restores_of_ofTable agents found)).2

end Wire

namespace Snapshot

theorem read?_pretty {s : State} (shallow : (Wire.ofState s).nesting ≤ Decoder.depthLimit)
    (returns : ∀ n ∈ (Wire.ofState s).numbers, n.Returns) :
    read? (Wire.ofState s).pretty = some s :=
  read?_ofState_iff.mpr (Wire.restorable_of_ofState ⟨shallow, returns⟩)

/-!
# A state with many sorts of rows

It has a job that runs and one that is done, a leap second, instants before the first
year and in the last one, a fraction of nine digits, the greatest counts, texts with
characters that are escaped, and values within values.
-/

def leapSecond : Time.Instant :=
  { seconds := 1483228799, nanos := 1500000000, bounded := by decide, fine := by decide }

def earliest : Time.Instant :=
  { seconds := -8334601228800, nanos := 7, bounded := by decide, fine := by decide }

def latest : Time.Instant :=
  { seconds := 8210266876799, nanos := 1999999999, bounded := by decide, fine := by decide }

def nested : Members :=
  .ofList
    [("found", .array [.null, .bool true, .number (.real (.ofBits 0x4004000000000000)), .text "a\"\\\n\u0001é😀"]),
     ("counts", .object (.ofList
       [("least", .number (.whole (-0x8000000000000000) (by decide))),
        ("greatest", .number (.ofUInt64 0xffffffffffffffff))]))]

def running : Job :=
  { id := "job-1", type := "node.reboot", payload := .ofList [("agent_id", "a")]
    status := .running, lockedBy := some "a", lockToken := some "token"
    lockExpiresAt := some latest, createdAt := earliest, updatedAt := leapSecond
    seq := 0xffffffffffffffff, createdBy := none }

def finished : Job :=
  { running.release with id := "job-2", status := .succeeded, createdBy := some "" }

def agentRow : Agent :=
  { id := "a", name := "node", sealedSecret := "sealed", roles := .ofList ["game", "ts3"]
    status := .online, lastHeartbeatAt := some leapSecond, lastHeartbeatIp := none
    lastHeartbeatVersion := some "1.0", lastHeartbeatStats := nested, jobConcurrency := 4
    metadata := .empty, registeredAt := earliest }

def ports : Port.Tables :=
  { pools := .ofList [("p",
      { id := "p", nodeId := "a", name := "pool", startPort := 1, endPort := 65535
        protocols := [.udp, .tcp, .udp], purpose := "", enabled := false })]
    ranges := .ofList [("r",
      { id := "r", nodeId := "a", name := "range", startPort := 0, endPort := 9
        protocol := .udp, purpose := "game", enabled := true })]
    blocks := .ofList [("b",
      { id := "b", poolId := "p", nodeId := "a", customerId := "c", instanceId := none
        startPort := 5, endPort := 6, allocatedAt := earliest, releasedAt := some latest })]
    allocations := .ofList [("l",
      { id := "l", nodeId := "a", protocol := .tcp, port := 80, instanceId := "i"
        role := "web", allocatedAt := leapSecond })] }

def varied : State :=
  { jobs := .ofList [("job-1", running), ("job-2", finished)]
    results := .ofList [("job-2",
      { jobId := "job-2", status := .succeeded, output := nested, completedAt := leapSecond })]
    logs := .ofList [("job-1",
      [{ jobId := "job-1", message := "", progress := some 255, createdAt := earliest },
       { jobId := "job-1", message := "half", progress := none, createdAt := latest }])]
    agents := .ofList [("a", agentRow)]
    ports := ports
    firewalls := .ofList [("a",
      { nodeId := "a", openPorts := ⟨[⟨.tcp, 80⟩, ⟨.udp, 53⟩], by decide⟩
        managed := ⟨[⟨.tcp, 80⟩], by decide⟩, reportedAt := none })]
    ddosReports := .ofList [("a",
      { nodeId := "a", attackActive := true, pps := 0xffffffffffffffff, bps := none
        ports := [53, 53, 0], protocols := ["udp", ""], reportedAt := leapSecond })]
    ddosPolicies := .ofList [("a",
      { nodeId := "a", mode := "block", ports := [], protocols := [], enabled := false
        appliedAt := earliest })]
    domains := .ofList [("d",
      { id := "d", name := "example", status := .active, sslExpiresAt := some latest
        updatedAt := none })]
    instances := .ofList [("i",
      { id := "i", customerId := "c", nodeId := "a", status := .suspended
        diskUsedBytes := some 0, diskError := some "", diskScannedAt := none
        query := some
          { state := .error, players := some 0, maxPlayers := none, error := some "late"
            checkedAt := latest }
        updatedAt := some earliest })]
    voiceServers := .ofList [("v",
      { id := "v", flavor := .ts6, nodeId := "a", status := .deleted, updatedAt := none })]
    backups := .ofList [("k",
      { id := "k", instanceId := "i", status := .failed, sizeBytes := none
        error := some "full", completedAt := some leapSecond })]
    users := .ofList [("u",
      { id := "u", email := "u@example", displayName := "U", anonymizedAt := none })]
    deletionRequests := .ofList [("q",
      { id := "q", userId := "u", status := .completed, completedAt := some leapSecond })]
    nodeDisks := .ofList [("a",
      { nodeId := "a", totalBytes := some 0xffffffffffffffff, freeBytes := none
        level := .critical, overrideActive := true, error := none, updatedAt := latest })]
    lastSeq := 0xffffffffffffffff
    revision := 0xffffffffffffffff }

theorem read?_pretty_varied :
    (Wire.ofState varied).nesting ≤ Decoder.depthLimit ∧
      (∀ n ∈ (Wire.ofState varied).numbers, n.Returns) ∧
      read? (Wire.ofState varied).pretty = some varied := by
  have shallow : (Wire.ofState varied).nesting ≤ Decoder.depthLimit := by
    decide +kernel
  have returns : ∀ n ∈ (Wire.ofState varied).numbers, n.Returns := by
    decide +kernel
  exact ⟨shallow, returns, read?_pretty shallow returns⟩

end Snapshot
end FleetControl
