import FleetControl.Proofs.JobStore.Writes
import FleetControl.State.Dispatch

/-!
# Operations on many jobs

The sweep, the dispatch and the creation of jobs take the job store along in steps on
one account each.
-/

namespace FleetControl

open Refusal
open Time

namespace State

variable {s s' : State} {fresh : Fresh} {now : Instant}

/-!
# The sweep

The names to reclaim are those of different jobs, so that reclaiming one leaves the
others to be reclaimed.
-/

theorem nodup_lapsedIds (named : s.jobStore.Named) : (s.lapsedIds now).Nodup := by
  have ascending : (s.jobs.values.map Job.id).Pairwise (· < ·) :=
    Table.names_of_values_ascending named
  have sub : (s.lapsedIds now).Sublist (s.jobs.values.map Job.id) :=
    List.Sublist.map Job.id List.filter_sublist
  refine (ascending.sublist sub).imp ?_
  intro a b hlt heq
  rw [heq] at hlt
  exact String.lt_irrefl b hlt

theorem mem_lapsedIds (named : s.jobStore.Named) {id : String}
    (h : id ∈ s.lapsedIds now) :
    ∃ job, s.jobs.get? id = some job ∧ job.hasLapsed now = true := by
  rcases List.mem_map.mp h with ⟨job, hjob, rfl⟩
  rcases List.mem_filter.mp hjob with ⟨hmem, lapsed⟩
  rcases Table.mem_values_iff.mp hmem with ⟨key, hget⟩
  rw [named key job hget]
  exact ⟨job, hget, lapsed⟩

theorem steps_of_reclaimAll {ids : List String} (staged : s.jobStore.Staged)
    (nodup : ids.Nodup)
    (lapsed : ∀ id ∈ ids, ∃ job, s.jobs.get? id = some job ∧ job.hasLapsed now = true) :
    JobStore.Steps fresh (.lapse now) s.jobStore (s.reclaimAll now ids).2.jobStore := by
  induction ids generalizing s with
  | nil =>
      exact .refl
  | cons id rest ih =>
      rcases lapsed id List.mem_cons_self with ⟨job, hget, hlapsed⟩
      rcases List.nodup_cons.mp nodup with ⟨hid, hrest⟩
      rcases puts_reclaim staged hget hlapsed with ⟨r, puts, reclaimed⟩
      have step : JobStore.Step fresh (.lapse now) s.jobStore (s.reclaim id now).2.jobStore :=
        puts.step fresh rfl reclaimed.move
      refine .trans (.single step) (ih (step.staged (by simp) staged) hrest ?_)
      intro k hk
      rcases lapsed k (List.mem_cons_of_mem _ hk) with ⟨other, hother, hlapsedOther⟩
      refine ⟨other, ?_, hlapsedOther⟩
      have hne : k ≠ id := fun heq => hid (heq ▸ hk)
      exact (congrArg Dossier.job (puts.rewrites.others k hne)).trans hother

theorem steps_of_expireStale (staged : s.jobStore.Staged) :
    JobStore.Steps fresh (.lapse now) s.jobStore (s.expireStale now).2.jobStore :=
  steps_of_reclaimAll staged (nodup_lapsedIds staged.named)
    (fun _ h => mem_lapsedIds staged.named h)

/-!
# Dispatch
-/

section Dispatch

variable {policy : DispatchPolicy} {observers : List Observer} {agentId : String}
  {agent : Agent}

theorem steps_of_leaseCandidates {slots updates : Nat} {ids : List String}
    (staged : s.jobStore.Staged) :
    JobStore.Steps fresh (.lease agentId) s.jobStore
      (s.leaseCandidates fresh policy observers agentId agent now slots updates
        ids).2.jobStore := by
  induction ids generalizing s slots updates with
  | nil =>
      exact .refl
  | cons id rest ih =>
      unfold leaseCandidates
      split
      · exact .refl
      · split
        · exact ih staged
        · split
          · split
            · exact ih staged
            · rename_i leased s1 hlease
              have step := step_of_leaseJob fresh staged hlease
              exact .trans (.single step) (ih (step.staged (by simp) staged))
          · exact ih staged

structure HandsOut (s s' : State) (leased : List Job) : Prop where
  nodup : (leased.map Job.id).Nodup
  queued : ∀ job ∈ leased, ∃ before, s.jobs.get? job.id = some before ∧
    before.status = .queued
  running : ∀ job ∈ leased, s'.jobs.get? job.id = some job ∧ job.status = .running

theorem handsOut_nil (s s' : State) : HandsOut s s' [] where
  nodup := List.nodup_nil
  queued := by simp
  running := by simp

theorem handsOut_cons {s1 : State} {ttl : Int} {id token : String} {job : Job}
    {more : List Job} (staged : s.jobStore.Staged)
    (h : s.leaseJob id agentId token ttl now = .ok (job, s1))
    (steps : JobStore.Steps fresh (.lease agentId) s1.jobStore s'.jobStore)
    (rest : HandsOut s1 s' more) : HandsOut s s' (job :: more) := by
  rcases leaseJob_eq_ok staged h with ⟨before, line, queued, own, hbefore, hjob, puts⟩
  have hget : s.jobs.get? id = some before := congrArg Dossier.job hbefore
  have hget1 : s1.jobs.get? id = some job := congrArg Dossier.job puts.dossier
  have name : job.id = id := by
    rw [hjob]
    show before.id = id
    exact (staged id).name hget
  have running : job.status = .running := by
    rw [hjob]
    rfl
  have others : ∀ other ∈ more, other.id ≠ id := by
    intro other hother heq
    rcases rest.queued other hother with ⟨waiting, hwaiting, hqueued⟩
    rw [heq, hget1] at hwaiting
    cases hwaiting
    rw [running] at hqueued
    cases hqueued
  constructor
  · refine List.nodup_cons.mpr ⟨?_, rest.nodup⟩
    intro hmem
    rcases List.mem_map.mp hmem with ⟨other, hother, heq⟩
    exact others other hother (heq.trans name)
  · intro other hother
    rcases List.mem_cons.mp hother with rfl | hother
    · rw [name]
      exact ⟨before, hget, queued⟩
    · rcases rest.queued other hother with ⟨waiting, hwaiting, hqueued⟩
      refine ⟨waiting, ?_, hqueued⟩
      rw [← hwaiting]
      exact (congrArg Dossier.job
        (puts.rewrites.others other.id (others other hother))).symm
  · intro other hother
    rcases List.mem_cons.mp hother with rfl | hother
    · constructor
      · rw [name]
        rcases steps.dossier (by simp) JobStore.not_lease_of_lease id with same | moved
        · exact (congrArg Dossier.job same).trans hget1
        · have hdossier : s1.jobStore.dossier id = ⟨some other, none, some [line]⟩ := puts.dossier
          rw [hdossier] at moved
          cases moved
      · exact running
    · exact rest.running other hother

theorem handsOut_leaseCandidates {slots updates : Nat} {ids : List String}
    (staged : s.jobStore.Staged) :
    HandsOut s (s.leaseCandidates fresh policy observers agentId agent now slots updates
      ids).2 (s.leaseCandidates fresh policy observers agentId agent now slots updates
      ids).1 := by
  induction ids generalizing s slots updates with
  | nil =>
      exact handsOut_nil s s
  | cons id rest ih =>
      unfold leaseCandidates
      split
      · exact handsOut_nil s s
      · split
        · exact ih staged
        · split
          · split
            · exact ih staged
            · rename_i leased s1 hlease
              have staged1 := (step_of_leaseJob fresh staged hlease).staged (by simp) staged
              exact handsOut_cons staged hlease
                (steps_of_leaseCandidates staged1) (ih staged1)
          · exact ih staged

theorem pollForWork_eq_ok {limit : Nat} {outcome : PollOutcome}
    (staged : s.jobStore.Staged)
    (h : s.pollForWork fresh agentId limit policy observers now = .ok (outcome, s')) :
    ∃ m : State, JobStore.Steps fresh (.lapse now) s.jobStore m.jobStore ∧
      JobStore.Steps fresh (.lease agentId) m.jobStore s'.jobStore ∧
      HandsOut m s' outcome.leased := by
  unfold pollForWork at h
  split at h
  · cases h
  · split at h
    · cases h
    · cases h
      have lapse : JobStore.Steps fresh (.lapse now) s.jobStore (s.expireStale now).2.jobStore :=
        steps_of_expireStale staged
      have staged1 := lapse.staged (by simp) staged
      exact ⟨(s.expireStale now).2, lapse, steps_of_leaseCandidates staged1,
        handsOut_leaseCandidates staged1⟩

end Dispatch

/-!
# Creating jobs
-/

theorem created_insertJob (s : State) (fresh : Fresh) (type : String) (payload : Payload)
    (createdBy : Option String) (now : Instant) :
    JobStore.Created fresh s.jobStore [(s.insertJob fresh type payload createdBy now).1]
      (s.insertJob fresh type payload createdBy now).2.jobStore :=
  .cons rfl rfl rfl ⟨rfl, rfl, rfl⟩ .nil

theorem created_createJob {order : Job.Order} {job : Job}
    (h : s.createJob fresh order now = .ok (job, s')) :
    JobStore.Created fresh s.jobStore [job] s'.jobStore := by
  unfold createJob at h
  split at h
  · cases h
  · rename_i type htype
    split at h
    · cases h
    · have created := s.created_insertJob fresh type order.payload order.createdBy now
      rw [Except.ok.inj h] at created
      exact created

theorem created_requestFirewallJob (s : State) (fresh : Fresh) (type nodeId : String)
    (rules : List Port.Rule) (now : Instant) :
    JobStore.Created fresh s.jobStore (s.requestFirewallJob fresh type nodeId rules now).1
      (s.requestFirewallJob fresh type nodeId rules now).2.jobStore := by
  unfold requestFirewallJob
  split
  · exact .nil
  · simp only
    split
    · exact .nil
    · exact created_insertJob s fresh type _ _ now

theorem created_reconcileFirewall (s : State) (fresh : Fresh) (nodeId : String)
    (now : Instant) :
    JobStore.Created fresh s.jobStore (s.reconcileFirewall fresh nodeId now).1
      (s.reconcileFirewall fresh nodeId now).2.jobStore :=
  (created_requestFirewallJob s fresh openPortsType nodeId _ now).trans
    (created_requestFirewallJob _ fresh closePortsType nodeId _ now)

theorem created_reconcileFirewalls (s : State) (fresh : Fresh) (now : Instant)
    (nodes : List String) :
    JobStore.Created fresh s.jobStore (s.reconcileFirewalls fresh now nodes).1
      (s.reconcileFirewalls fresh now nodes).2.jobStore := by
  induction nodes generalizing s with
  | nil =>
      exact .nil
  | cons nodeId rest ih =>
      exact (s.created_reconcileFirewall fresh nodeId now).trans
        (ih (s.reconcileFirewall fresh nodeId now).2)

end State
end FleetControl
