import FleetControl.Proofs.JobStore.Provenance
import FleetControl.Proofs.Plane.Reconcile
import FleetControl.Proofs.Plane.Records
import FleetControl.Proofs.Port.Blocks

/-!
# Blocks over a run

Blocks are leased, bound and released by operators, and released as well when the deletion of
an instance succeeds.  Whatever the order of these, the plane only ever does deeds on the port
tables, so its blocks live as the rows of the tables do.
-/

namespace FleetControl

open Port
open Refusal
open Time

/-!
# Events
-/

namespace State

variable {s s' : State} {fresh : Fresh} {now : Instant}

theorem follows_applyEvent {thresholds : Inventory.DiskThresholds} {event : Effect.Event}
    {followUp : FollowUp}
    (h : s.applyEvent fresh thresholds now event = .ok (followUp, s')) :
    s.ports.Follows (followUp.released.flatMap Release.blocks) [] s'.ports := by
  cases plain : event.isPlain with
  | true =>
      rw [(onlyTells_of_plain plain h).2,
        show s'.ports = s.ports from congrArg Network.ports (network_of_plain plain h)]
      exact .refl
  | false =>
      cases event with
      | portsReleased instanceId =>
          have parts := Except.ok.inj h
          have told : (s.releasePorts fresh instanceId now).1 = followUp := congrArg Prod.fst parts
          have after : (s.releasePorts fresh instanceId now).2 = s' := congrArg Prod.snd parts
          have released : (s.releasePorts fresh instanceId now).1.released =
              [(s.ports.releaseInstance instanceId now).1] := rfl
          have ports : (s.releasePorts fresh instanceId now).2.ports =
              (s.ports.releaseInstance instanceId now).2 :=
            congrArg Network.ports (network_reconcileFirewalls
              { s with ports := (s.ports.releaseInstance instanceId now).2 } fresh now
              (s.ports.releaseInstance instanceId now).1.nodes.names)
          rw [← told, ← after, released, ports, List.flatMap_singleton]
          exact Tables.Follows.single (.releaseInstance instanceId now) trivial rfl
      | diskScanRequested instanceId nodeId =>
          rcases State.requestDiskScan_eq_ok h with ⟨rfl, rfl⟩ | ⟨_, _, target, rfl, rfl⟩ <;>
            exact .refl
      | firewallApplied _ _ _ =>
          cases h
          exact .refl
      | _ => cases plain

theorem follows_applyEvents (s : State) (fresh : Fresh) (thresholds : Inventory.DiskThresholds)
    (now : Instant) (events : List Effect.Event) :
    s.ports.Follows
      ((s.applyEvents fresh thresholds now events).1.released.flatMap Release.blocks) []
      (s.applyEvents fresh thresholds now events).2.2.ports := by
  induction events generalizing s with
  | nil => exact .refl
  | cons event rest ih =>
      unfold applyEvents
      split
      · rename_i followUp s1 applied
        have follows := (follows_applyEvent applied).trans (ih s1)
        simp only [FollowUp.append, List.flatMap_append]
        exact follows
      · exact ih s

theorem ports_of_reconciled {ports : Tables} {nodes : List String} {jobs : List Job}
    (reconciled : { s with ports := ports }.reconcileFirewalls fresh now nodes = (jobs, s')) :
    s'.ports = ports := by
  have network := network_reconcileFirewalls { s with ports := ports } fresh now nodes
  rw [reconciled] at network
  exact congrArg Network.ports network

theorem follows_submitResult {agentId jobId : String} {report : ResultReport}
    {policy : ReportPolicy} {reported : Reported}
    (h : s.submitResult fresh agentId jobId report policy now = .ok (reported, s')) :
    s.ports.Follows (reported.followUp.released.flatMap Release.blocks) [] s'.ports := by
  rw [submitResult_eq] at h
  rcases map_eq_ok.mp h with ⟨⟨job, result, m⟩, taken, same⟩
  rcases takeResult_eq_ok taken with ⟨_, _, _, _, finished⟩
  have ports : m.ports = s.ports := congrArg Network.ports (network_finishJob finished)
  rw [← ports]
  cases same
  exact m.follows_applyEvents fresh policy.thresholds now (eventsOf policy.registry job result)

end State

/-!
# Steps
-/

def Fresh.NamesNewBlocks (fresh : Fresh) (s : State) : Prop :=
  ∀ n, s.ports.blocks.get? (fresh.block n) = none

namespace Plane

/-- How often it is told that a block is released. -/
def releases (id : String) (events : List AuditEvent) : Nat :=
  events.countP (fun e => e.action = "port.block.released" && e.subject = id)

/-- The block that an operation releases although it is released already. -/
def releasedAgain (p : Plane) : Operation → List String
  | .releaseBlock blockId _ => if p.state.ports.isReleased blockId then [blockId] else []
  | _ => []

theorem releases_append (id : String) (first second : List AuditEvent) :
    releases id (first ++ second) = releases id first + releases id second :=
  List.countP_append

theorem releases_of_other {id : String} {events : List AuditEvent}
    (other : ∀ e ∈ events, e.action ≠ "port.block.released") : releases id events = 0 := by
  apply List.countP_eq_zero.mpr
  intro e mem
  simp [other e mem]

theorem releases_map_jobEvent {action : String} (other : action ≠ "port.block.released")
    (id actor : String) (now : Instant) (jobs : List Job) :
    releases id (jobs.map (jobEvent action actor now)) = 0 := by
  apply releases_of_other
  intro e mem
  rcases List.mem_map.mp mem with ⟨job, _, rfl⟩
  exact other

theorem releases_creationEvents (id : String) (now : Instant) (jobs : List Job) :
    releases id (creationEvents now jobs) = 0 :=
  releases_map_jobEvent (by decide) id system now jobs

theorem releases_releaseEvents (id actor : String) (now : Instant) (blocks : List String) :
    releases id (releaseEvents actor now blocks) = blocks.count id := by
  rw [releases, releaseEvents, List.countP_map, List.count]
  apply List.countP_congr
  intro block _
  simp [AuditEvent.plain]

theorem releases_flatMap_releaseEvents (id actor : String) (now : Instant)
    (released : List Release) :
    releases id (released.flatMap (fun r => releaseEvents actor now r.blocks)) =
      (released.flatMap Release.blocks).count id := by
  induction released with
  | nil => rfl
  | cons first rest ih =>
      rw [List.flatMap_cons, List.flatMap_cons, releases_append, List.count_append, ih,
        releases_releaseEvents]

section Operations

variable {p : Plane} {fresh : Fresh} {now : Instant} {operation : Operation}
  {events : List AuditEvent} {s : State}

/-- What an operation does to the port tables are deeds, and what it has audited about the
release of blocks is what these tell. -/
theorem Records.follows (records : p.Records fresh now operation events s)
    (names : fresh.NamesNewBlocks p.state) :
    ∃ told, p.state.ports.Follows told (p.releasedAgain operation) s.ports ∧
      ∀ id, releases id events = told.count id := by
  have aside : ∀ {t : Tables}, t = p.state.ports → (∀ id, releases id events = 0) →
      ∃ told, p.state.ports.Follows told [] t ∧ ∀ id, releases id events = told.count id := by
    rintro t rfl silent
    exact ⟨[], .refl, silent⟩
  cases records with
  | register registered =>
      refine aside (congrArg Network.ports (State.network_registerAgent registered)) ?_
      exact fun id => releases_of_other (by simp [AuditEvent.plain, AuditEvent.noting])
  | heartbeat taken =>
      refine aside ?_ fun _ => rfl
      rcases State.takeHeartbeat_eq_ok taken with ⟨_, _, _, _, _, _, _, _, rfl⟩
      rfl
  | poll polled =>
      refine aside (congrArg Network.ports (State.network_pollForWork polled)) fun id => ?_
      rw [releases_append, releases_map_jobEvent (by decide), releases_map_jobEvent (by decide)]
  | @submitResult agentId jobId report reported s submitted =>
      refine ⟨_, State.follows_submitResult submitted, fun id => ?_⟩
      have result : releases id [resultEvent agentId jobId now reported] = 0 :=
        releases_of_other (by simp [resultEvent, AuditEvent.plain, AuditEvent.noting])
      rw [← List.singleton_append, releases_append, result, releases_append,
        releases_creationEvents, releases_flatMap_releaseEvents, Nat.zero_add, Nat.zero_add]
  | submitLogs submitted =>
      exact aside (congrArg Network.ports (State.network_submitLogs submitted)) fun _ => rfl
  | createJob created =>
      refine aside (congrArg Network.ports (State.network_createJob created)) fun id => ?_
      exact releases_of_other (by simp [jobEvent, AuditEvent.plain, AuditEvent.noting])
  | jobDetail => exact aside rfl fun _ => rfl
  | cancelJob cancelled =>
      refine aside (congrArg Network.ports (State.network_cancelJob cancelled)) fun id => ?_
      exact releases_of_other (by simp [AuditEvent.plain])
  | expireStale swept =>
      have ports := congrArg Network.ports (p.state.network_expireStale now)
      rw [swept] at ports
      exact aside ports fun id => releases_map_jobEvent (by decide) id system now _
  | @addPool pool row ports added =>
      refine ⟨[], ?_, fun _ => rfl⟩
      exact .single (.addPool pool fresh.pool) trivial (congrArg (Except.map Prod.snd) added)
  | @addRange range row ports added =>
      refine ⟨[], ?_, fun _ => rfl⟩
      exact .single (.addRange range fresh.range) trivial
        (congrArg (Except.map Prod.snd) added)
  | allocateBlocks allocated =>
      refine ⟨[], Tables.follows_allocateBlocks names allocated, fun id => ?_⟩
      apply releases_of_other
      intro e mem
      rcases List.mem_map.mp mem with ⟨block, _, rfl⟩
      simp [blockEvent, AuditEvent.plain, AuditEvent.noting]
  | @bindBlock blockId instanceId block ports jobs s bound reconciled =>
      refine ⟨[], ?_, fun id => releases_creationEvents id now jobs⟩
      rw [State.ports_of_reconciled reconciled]
      exact .single (.bindBlock blockId instanceId) trivial
        (congrArg (Except.map Prod.snd) bound)
  | @releaseBlock blockId actor block ports jobs s released reconciled =>
      refine ⟨[blockId], ?_, fun id => ?_⟩
      · rw [State.ports_of_reconciled reconciled]
        exact .single (.releaseBlock blockId now) trivial
          (congrArg (Except.map Prod.snd) released)
      · rw [releases_append, releases_releaseEvents, releases_creationEvents, Nat.add_zero]
  | @allocatePort req actor allocation ports jobs s allocated reconciled =>
      refine ⟨[], ?_, fun id => ?_⟩
      · rw [State.ports_of_reconciled reconciled]
        exact .single (.allocatePort req now fresh.allocation) trivial
          (congrArg (Except.map Prod.snd) allocated)
      · have told : releases id [allocationEvent actor now allocation] = 0 :=
          releases_of_other (by simp [allocationEvent, AuditEvent.plain, AuditEvent.noting])
        rw [← List.singleton_append, releases_append, told, releases_creationEvents]
        rfl
  | @releaseInstancePorts instanceId actor release ports jobs s released reconciled =>
      refine ⟨release.blocks, ?_, fun id => ?_⟩
      · rw [State.ports_of_reconciled reconciled]
        have done : p.state.ports.attempt (.releaseInstance instanceId now) = .ok ports := by
          rw [Tables.attempt, released]
        have follows := Tables.Follows.single (.releaseInstance instanceId now) trivial done
        rw [Tables.tells, released] at follows
        exact follows
      · rw [releases_append, releases_releaseEvents, releases_creationEvents, Nat.add_zero]
  | @reconcileFirewall nodeId jobs s reconciled =>
      have ports := congrArg Network.ports (p.state.network_reconcileFirewall fresh nodeId now)
      rw [reconciled] at ports
      exact aside ports fun id => releases_creationEvents id now jobs

end Operations

variable {p : Plane} {steps : List Step}

theorem releasedAgain_of_refused {fresh : Fresh} {now : Instant} {operation : Operation}
    {e : Error} (refused : (p.run fresh now operation).answer = .error e) :
    p.releasedAgain operation = [] := by
  cases operation with
  | releaseBlock blockId actor =>
      cases known : p.state.ports.blocks.get? blockId with
      | none => simp [releasedAgain, Tables.isReleased, known]
      | some block =>
          have found : p.state.ports.findBlock blockId = .ok block := by
            rw [Tables.findBlock, known]
          have released : ∃ parts, p.state.ports.releaseBlock blockId now = .ok parts := by
            unfold Tables.releaseBlock
            rw [found]
            exact ⟨_, rfl⟩
          rcases released with ⟨parts, released⟩
          rw [run, releaseBlock, released] at refused
          cases refused
  | register | heartbeat | poll | submitResult | submitLogs | createJob | jobDetail | cancelJob
  | expireStale | addPool | addRange | allocateBlocks | bindBlock | allocatePort
  | releaseInstancePorts | reconcileFirewall => rfl

theorem ports_follow_next {step : Step} (names : step.fresh.NamesNewBlocks p.state) :
    ∃ told, p.state.ports.Follows told (p.releasedAgain step.operation)
        (p.next step).state.ports ∧
      ∀ id, releases id (p.perform step).notices.audit = told.count id := by
  cases p.recorded_perform step with
  | refused answer silent kept =>
      have again : p.releasedAgain step.operation = [] :=
        releasedAgain_of_refused (p := { p with observers := step.observers }) answer
      refine ⟨[], ?_, fun id => by rw [silent]; rfl⟩
      rw [again, next, kept]
      exact .refl
  | @accepted a s revision answer records state =>
      rcases records.follows names with ⟨told, follows, counts⟩
      have ports : (p.next step).state.ports = s.ports := by rw [next, state]
      rw [ports]
      exact ⟨told, follows, counts⟩

/-!
# Runs
-/

def NamesNewBlocks (p : Plane) : List Step → Prop
  | [] => True
  | step :: rest => step.fresh.NamesNewBlocks p.state ∧ (p.next step).NamesNewBlocks rest

theorem namesNewBlocks_append {first second : List Step} :
    p.NamesNewBlocks (first ++ second) ↔
      p.NamesNewBlocks first ∧ (p.after first).NamesNewBlocks second := by
  induction first generalizing p with
  | nil => simp [NamesNewBlocks]
  | cons step rest ih => simp only [List.cons_append, NamesNewBlocks, after_cons, ih, and_assoc]

theorem age_after (names : p.NamesNewBlocks steps) :
    p.state.ports.Age (p.after steps).state.ports := by
  induction steps generalizing p with
  | nil => exact .refl _
  | cons step rest ih =>
      rcases ports_follow_next names.1 with ⟨told, follows, _⟩
      exact follows.age.trans (ih names.2)

theorem tidy_after (tidy : p.state.ports.Tidy) (names : p.NamesNewBlocks steps) :
    (p.after steps).state.ports.Tidy := by
  induction steps generalizing p with
  | nil => exact tidy
  | cons step rest ih =>
      rcases ports_follow_next names.1 with ⟨told, follows, _⟩
      exact ih (follows.tidy tidy) names.2

/-!
# Operations that are done again
-/

/-- The operations do the same to one block, whoever asks for them. -/
inductive SameOnBlock : Operation → Operation → Prop
  | bind (blockId instanceId : String) :
      SameOnBlock (.bindBlock blockId instanceId) (.bindBlock blockId instanceId)
  | release (blockId actor other : String) :
      SameOnBlock (.releaseBlock blockId actor) (.releaseBlock blockId other)

def onBlock (t : Tables) (now : Instant) :
    Operation → Option (Except Error (Block × Tables))
  | .bindBlock blockId instanceId => some (t.bindBlock blockId instanceId)
  | .releaseBlock blockId _ => some (t.releaseBlock blockId now)
  | _ => none

section Again

variable {operation other : Operation} {t t' : Tables} {now : Instant}

theorem SameOnBlock.isSome (same : SameOnBlock operation other) (t : Tables) (now : Instant) :
    ∃ result, onBlock t now operation = some result := by
  cases same <;> exact ⟨_, rfl⟩

theorem SameOnBlock.refused {e : Error} (same : SameOnBlock operation other)
    (h : onBlock t now operation = some (.error e)) (later : Instant) :
    onBlock t later other = some (.error e) := by
  cases same with
  | bind blockId instanceId => exact h
  | release blockId actor actor' =>
      exact congrArg some (Tables.releaseBlock_refused (Option.some.inj h) later)

theorem SameOnBlock.accepted {block : Block} (same : SameOnBlock operation other)
    (h : onBlock t now operation = some (.ok (block, t'))) (later : Instant) :
    onBlock t' later other = some (.ok (block, t')) := by
  cases same with
  | bind blockId instanceId =>
      exact congrArg some (Tables.bindBlock_again (Option.some.inj h))
  | release blockId actor actor' =>
      exact congrArg some (Tables.releaseBlock_again (Option.some.inj h) later)

end Again

variable {step again : Step}

theorem next_of_refused {e : Error}
    (h : onBlock p.state.ports step.now step.operation = some (.error e)) :
    p.next step = { p with observers := step.observers } := by
  rcases step with ⟨fresh, now, observers, operation⟩
  cases operation with
  | bindBlock | releaseBlock =>
      exact plane_changePorts_of_error (p := { p with observers := observers })
        (Option.some.inj h) _ _
  | _ => cases h

theorem next_of_accepted {block : Block} {ports : Tables}
    (h : onBlock p.state.ports step.now step.operation = some (.ok (block, ports))) :
    p.next step =
      { p with
        observers := step.observers
        store := p.store.apply .durable
          ({ p.state with ports := ports }.reconcileFirewalls step.fresh step.now
            [block.nodeId]).2 } := by
  rcases step with ⟨fresh, now, observers, operation⟩
  cases operation with
  | bindBlock | releaseBlock =>
      exact plane_changePorts (p := { p with observers := observers }) (Option.some.inj h) _ _
  | _ => cases h

theorem reconciled_of_accepted {block : Block} {ports : Tables}
    (h : onBlock p.state.ports step.now step.operation = some (.ok (block, ports))) :
    p.reconciled step = [block.nodeId] := by
  rcases step with ⟨fresh, now, observers, operation⟩
  cases operation with
  | bindBlock | releaseBlock => exact congrArg (nodeOf Block.nodeId) (Option.some.inj h)
  | _ => cases h

/-- What is done to a block a second time leaves everything as it is: all jobs for the
firewall of its node are there already. -/
theorem state_next_again {start : UInt64} (same : SameOnBlock step.operation again.operation)
    (names : step.fresh.NamesNewJobs p.state) (numbered : p.state.jobStore.Numbered start)
    (room : start.toNat + (p.next step).state.jobs.size < UInt64.size) :
    ∃ revision, ((p.next step).next again).state =
      { (p.next step).state with revision := revision } := by
  rcases same.isSome p.state.ports step.now with ⟨result, first⟩
  cases result with
  | error e =>
      have kept : (p.next step).state = p.state := by rw [next_of_refused first]; rfl
      have second := same.refused first again.now
      rw [← kept] at second
      rw [next_of_refused second]
      exact ⟨(p.next step).state.revision, rfl⟩
  | ok parts =>
      rcases parts with ⟨block, ports⟩
      have mem : block.nodeId ∈ p.reconciled step := by
        rw [reconciled_of_accepted first]
        exact List.mem_singleton_self _
      have requested := requested_next mem names numbered room
      have left : (p.next step).state.ports = ports := by
        rw [next_of_accepted first]
        exact (congrArg Network.ports (p.store.network_apply .durable _)).trans
          (State.ports_of_reconciled rfl)
      have second := same.accepted first again.now
      rw [← left] at second
      have silent : ((p.next step).state.reconcileFirewalls again.fresh again.now
          [block.nodeId]).2 = (p.next step).state := by
        simp only [State.reconcileFirewalls,
          State.reconcileFirewall_of_requested again.fresh again.now requested]
      rw [next_of_accepted second]
      refine (Store.state_apply _ _ _).imp fun revision state => state.trans ?_
      exact congrArg (fun s : State => { s with revision := revision }) silent

/-!
# Blocks over a run
-/

/-- What a run does to blocks: whatever the order of its steps, each row ages, only active
blocks are bound, and what is done to a block a second time changes no table. -/
structure KeepsBlocks (p : Plane) (steps : List Step) : Prop where
  ages : ∀ first second rest, first ++ second ++ rest = steps →
    (p.after first).state.ports.Age (p.after (first ++ second)).state.ports
  active : ∀ first rest, first ++ rest = steps → ∀ id block,
    (p.after first).state.ports.blocks.get? id = some block →
      block.instanceId.isSome = true → block.isActive = true
  again : ∀ first step other rest, first ++ step :: other :: rest = steps →
    SameOnBlock step.operation other.operation →
      ∃ revision, (p.after (first ++ [step, other])).state =
        { (p.after (first ++ [step])).state with revision := revision }

theorem keepsBlocks_of_empty (ports : p.state.ports = .empty)
    (empty : p.state.jobStore.IsEmpty) (fresh : p.RunsFresh steps)
    (names : p.NamesNewBlocks steps)
    (room : p.state.lastSeq.toNat + (p.after steps).state.jobs.size < UInt64.size) :
    p.KeepsBlocks steps where
  ages := by
    rintro first second rest rfl
    rw [after_append]
    exact age_after (namesNewBlocks_append.mp (namesNewBlocks_append.mp names).1).2
  active := by
    rintro first rest rfl id block found
    have tidy : p.state.ports.Tidy := ports ▸ Tables.tidy_empty
    exact (tidy_after tidy (namesNewBlocks_append.mp names).1 id block found).active
  again := by
    rintro first step other rest rfl same
    rcases runsFresh_append.mp fresh with ⟨before, now, later⟩
    have numbered := numbered_after empty before
    have staged := staged_next (staged_after empty.staged before) now
    have le := size_le_after staged later
    rw [after_append] at room
    simp only [after_append, after_cons, after_nil] at room ⊢
    exact state_next_again same now numbered (Nat.lt_of_le_of_lt (Nat.add_le_add_left le _) room)

def leaseRun : List Step :=
  [{ fresh := .strokes 'a', now := .epoch, observers := []
     operation := .addPool ⟨"pool", "node", "game", 5000, 5004, [.tcp], "", true⟩ },
   { fresh := .strokes 'b', now := .epoch, observers := []
     operation := .allocateBlocks "pool" ⟨"customer", 5, none, none⟩ "admin" },
   { fresh := .strokes 'c', now := .epoch, observers := []
     operation := .releaseBlock "b" "admin" },
   { fresh := .strokes 'd', now := .epoch, observers := []
     operation := .releaseBlock "b" "operator" }]

def leasedBlock : Block :=
  ⟨"b", "pool", "node", "customer", none, 5000, 5004, .epoch, none⟩

theorem runsFresh_leaseRun : (idle (.standard "")).RunsFresh leaseRun :=
  runsFresh_of_letters ⟨rfl, rfl, rfl⟩ ['a', 'b', 'c', 'd'] (by decide) rfl

theorem namesNewBlocks_leaseRun : (idle (.standard "")).NamesNewBlocks leaseRun := by
  have leased : ((idle (.standard "")).after (leaseRun.take 2)).state.ports.blocks =
      Table.empty.insert "b" leasedBlock := by
    decide +kernel
  have released : ((idle (.standard "")).after (leaseRun.take 3)).state.ports.blocks =
      Table.empty.insert "b" (leasedBlock.release .epoch) := by
    decide +kernel
  have other : ∀ {s : State} {block : Block}, s.ports.blocks = Table.empty.insert "b" block →
      ∀ letter, letter ≠ 'b' → (Fresh.strokes letter).NamesNewBlocks s := by
    intro s block blocks letter ne n
    have apart : (Fresh.strokes letter).block n ≠ "b" := by
      intro same
      have begins := (List.cons.inj (String.ofList_inj.mp same :
        letter :: List.replicate n '|' = ['b'])).1
      exact ne begins
    rw [blocks, Table.get?_insert, if_neg apart]
    rfl
  exact ⟨fun _ => rfl, fun _ => rfl, other leased 'c' (by decide), other released 'd' (by decide),
    trivial⟩

theorem keepsBlocks_leaseRun :
    (idle (.standard "")).state.ports = .empty ∧
      (idle (.standard "")).state.jobStore.IsEmpty ∧
      (idle (.standard "")).RunsFresh leaseRun ∧
      (idle (.standard "")).NamesNewBlocks leaseRun ∧
      (idle (.standard "")).state.lastSeq.toNat +
        ((idle (.standard "")).after leaseRun).state.jobs.size < UInt64.size ∧
      ((idle (.standard "")).after leaseRun).state.ports.blocks =
        Table.empty.insert "b" (leasedBlock.release .epoch) ∧
      (idle (.standard "")).KeepsBlocks leaseRun := by
  have empty : (idle (.standard "")).state.jobStore.IsEmpty := ⟨rfl, rfl, rfl⟩
  have room : (idle (.standard "")).state.lastSeq.toNat +
      ((idle (.standard "")).after leaseRun).state.jobs.size < UInt64.size := by
    decide +kernel
  exact ⟨rfl, empty, runsFresh_leaseRun, namesNewBlocks_leaseRun, room, by decide +kernel,
    keepsBlocks_of_empty rfl empty runsFresh_leaseRun namesNewBlocks_leaseRun room⟩

end Plane
end FleetControl
