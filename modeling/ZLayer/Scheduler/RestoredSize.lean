import Mathlib.Data.Option.Basic
import ZLayer.Scheduler.Scaling

/-!
# RestoredSize — the replica count a node death restores

`handle_node_death` asks placement for as many replicas as the replicated state wants.  That count
is written when the service is registered.  A scaling records its target as the current count, and
the wanted one stays what it was, so a node death takes the service back to the size it was
registered with.
-/

namespace ZLayer.Scheduler

open Lib SchedulerState HashMap List

variable {F : Type} [F64 F]

/-! ## What a service has been scaled to -/

inductive ServiceEvent (F : Type)
  | register (env : Readings) (service : String) (scale : ScaleSpec) (initialReplicas : UInt32)
      (spec : Option (ServiceSpec F))
  | scale (env : Readings) (service : String) (decision : ScalingDecision)

/-- The count a service was registered with and the target of the last scaling since. -/
structure Sizing where
  initial : UInt32
  target : Option UInt32
  deriving DecidableEq

/-- The size the service should have. -/
def Sizing.size (z : Sizing) : UInt32 :=
  z.target.getD z.initial

/-- A scheduler together with the sizes its services should have. -/
structure Tracked (F : Type) where
  scheduler : SchedulerState F
  sizings : HashMap String Sizing

namespace Tracked

def start (nodeId : NodeId) (nodes : HashMap NodeId NodeInfo) : Tracked F :=
  { scheduler :=
      { initial nodeId with
        raft := some { ClusterState.default with nodes := nodes } }
    sizings := ∅ }

/-- A registration or scaling counts if the call succeeds; on a follower a scaling does nothing. -/
def step (lowercase : String → String) (t : Tracked F) : ServiceEvent F → Tracked F
  | .register env service scale initialReplicas spec =>
    let (scheduler, outcome) :=
      t.scheduler.registerService env service scale initialReplicas spec
    { scheduler := scheduler
      sizings :=
        if outcome.isOk then
          t.sizings.insert service
            { initial := initialReplicas
              target := none }
        else
          t.sizings }
  | .scale env service decision =>
    let (scheduler, outcome) := t.scheduler.applyScaling lowercase env service decision
    { scheduler := scheduler
      sizings :=
        if env.isLeader ∧ outcome.isOk then
          match decision.targetReplicas with
          | some target => t.sizings.modify service fun z => { z with target := some target }
          | none => t.sizings
        else
          t.sizings }

/-- When a node of the service dies, placement is asked for the size the service should have. -/
def RestoresSize (t : Tracked F) (service : String) : Prop :=
  ∀ cluster ∈ t.scheduler.raft, ∀ (order : IterOrder String ServiceState) (dead : NodeId)
    (count : UInt32), (service, count) ∈ affectedServices order cluster dead →
      t.sizings[service]?.map Sizing.size = some count

/-- The last scaling since the registration, if there was one, went to the registered count. -/
def AtRegisteredSize (t : Tracked F) (service : String) : Prop :=
  ∀ z, t.sizings[service]? = some z → ∀ target, z.target = some target → target = z.initial

/-! ## The wanted count is the registered one -/

/-- The replicated record of a service that was registered with `z.initial` replicas. -/
def RegisteredAs (svc : ServiceState) (z : Sizing) : Prop :=
  svc.desiredReplicas = z.initial ∧ svc.assignedNodes ≠ []

/-- The replicated services are the registered ones, with their registered counts. -/
def Agrees (sizings : HashMap String Sizing) (cluster : ClusterState) : Prop :=
  ∀ service : String, Option.Rel RegisteredAs cluster.services[service]? sizings[service]?

variable {sizings : HashMap String Sizing} {cluster : ClusterState}

/-- A record may change in what it does not have to agree on. -/
lemma agrees_modify_services (h : Agrees sizings cluster) (service : String)
    {f : ServiceState → ServiceState} (hf : ∀ svc z, RegisteredAs svc z → RegisteredAs (f svc) z)
    (name : String) :
    Option.Rel RegisteredAs (cluster.services.modify service f)[name]? sizings[name]? := by
  rw [lookup_modify]
  by_cases hname : service = name
  · rw [if_pos hname]
    simpa using optionRel_map (g := id) hf (h name)
  · rw [if_neg hname]
    exact h name

/-- Neither the assignment nor the scale event of a scaling changes a wanted count. -/
lemma agrees_proposed (now : Nat) {service : String} {req : Request}
    (hreq : ProposedFor service req) (h : Agrees sizings cluster) :
    Agrees sizings (cluster.apply now req).1 := by
  cases hreq with
  | assignment nodeIds hne =>
    simp only [ClusterState.apply]
    split
    -- an assignment is never empty, so the record keeps a node that can die
    · exact agrees_modify_services h service fun svc z hsvc => ⟨hsvc.1, hne⟩
    · exact h
  | event fromReplicas toReplicas reason timestamp =>
    exact agrees_modify_services h service fun svc z hsvc => hsvc

lemma agrees_retarget (h : Agrees sizings cluster) (service : String) (target : UInt32) :
    Agrees (sizings.modify service fun z => { z with target := some target }) cluster := by
  intro name
  rw [lookup_modify]
  by_cases hname : service = name
  · rw [if_pos hname]
    have hrel := optionRel_map (S := RegisteredAs) (f := id)
      (g := fun z : Sizing => { z with target := some target }) (fun _ _ hsvc => hsvc) (h name)
    simpa using hrel
  · rw [if_neg hname]
    exact h name

/-- The invariant of a run: there is a replicated state and it agrees with the sizings. -/
structure Valid (t : Tracked F) : Prop where
  distributed : t.scheduler.raft.isSome = true
  agrees : ∀ cluster ∈ t.scheduler.raft, Agrees t.sizings cluster

omit [F64 F] in
lemma valid_start (nodeId : NodeId) (nodes : HashMap NodeId NodeInfo) :
    Valid (start nodeId nodes : Tracked F) := by
  refine ⟨rfl, ?_⟩
  intro cluster hcluster service
  rw [← Option.some.inj hcluster]
  simp [ClusterState.default, start]

variable {t : Tracked F}

lemma valid_register (env : Readings) (service : String) (scale : ScaleSpec)
    (initialReplicas : UInt32) (spec : Option (ServiceSpec F)) (lowercase : String → String)
    (h : Valid t) :
    Valid (step lowercase t (.register env service scale initialReplicas spec)) := by
  obtain ⟨cluster, hcluster⟩ := Option.isSome_iff_exists.mp h.distributed
  simp only [step, registerService, if_pos h.distributed]
  cases hrefused : env.eventRefused with
  | some e =>
    -- A refused registration leaves the replicated state as it is.
    exact ⟨h.distributed, h.agrees⟩
  | none =>
    refine ⟨?_, ?_⟩
    · simp [propose, hcluster]
    · intro after hafter name
      obtain ⟨old, hold, rfl⟩ := Option.map_eq_some_iff.mp hafter
      simp only [ClusterState.apply, propose, Except.isOk, Except.toBool, if_true]
      rw [lookup_insert, lookup_insert]
      by_cases hname : service = name
      -- the registered service starts on the registering node alone
      · rw [if_pos hname, if_pos hname]
        exact .some ⟨rfl, cons_ne_nil _ _⟩
      · rw [if_neg hname, if_neg hname]
        exact h.agrees old hold name

lemma valid_scale (env : Readings) (service : String) (decision : ScalingDecision)
    (lowercase : String → String) (h : Valid t) :
    Valid (step lowercase t (.scale env service decision)) := by
  have hraft := raft_applyScaling
    (Q := fun raft => raft.isSome = true ∧ ∀ cluster ∈ raft, Agrees t.sizings cluster)
    (fun now raft req (hreq : ProposedFor service req) hr => ⟨by simpa using hr.1,
      Option.forall_mem_map.mpr fun cluster hc => agrees_proposed now hreq (hr.2 cluster hc)⟩)
    lowercase env decision ⟨h.distributed, h.agrees⟩
  refine ⟨hraft.1, fun cluster hcluster => ?_⟩
  have hagrees := hraft.2 cluster hcluster
  simp only [step]
  split
  -- the target is only written down; the record is that of before
  · cases decision.targetReplicas with
    | some target => exact agrees_retarget hagrees service target
    | none => exact hagrees
  · exact hagrees

lemma valid_run (lowercase : String → String) (nodeId : NodeId)
    (nodes : HashMap NodeId NodeInfo) (events : List (ServiceEvent F)) :
    Valid (events.foldl (step lowercase) (start nodeId nodes)) := by
  have hstep : ∀ t e, Valid t → Valid (step lowercase t e : Tracked F) := by
    intro t e ht
    cases e with
    | register env service scale initialReplicas spec =>
      exact valid_register env service scale initialReplicas spec lowercase ht
    | scale env service decision => exact valid_scale env service decision lowercase ht
  exact foldlRecOn events _ (valid_start nodeId nodes) fun t ht e _ => hstep t e ht

/-! ## The restored size -/

omit [F64 F] in
lemma mem_affectedServices (order : IterOrder String ServiceState)
    (cluster : ClusterState) (dead : NodeId) (service : String) (count : UInt32) :
    (service, count) ∈ affectedServices order cluster dead ↔
      ∃ svc, cluster.services[service]? = some svc ∧ dead ∈ svc.assignedNodes ∧
        svc.desiredReplicas = count := by
  simp only [affectedServices, mem_map, mem_filter,
    contains_iff_mem, Prod.mk.injEq]
  constructor
  · rintro ⟨⟨name, svc⟩, ⟨hentry, hdead⟩, rfl, rfl⟩
    exact ⟨svc, (order.mem_list _).mp hentry, hdead, rfl⟩
  · rintro ⟨svc, hsvc, hdead, rfl⟩
    exact ⟨(service, svc), ⟨(order.mem_list _).mpr hsvc, hdead⟩, rfl, rfl⟩

/-- After any registrations and scalings, the death of a node of a service restores the size the
service was scaled to exactly when that is the size it was registered with. -/
theorem restoresSize_iff (lowercase : String → String) (nodeId : NodeId)
    (nodes : HashMap NodeId NodeInfo) (events : List (ServiceEvent F)) (service : String) :
    RestoresSize (events.foldl (step lowercase) (start nodeId nodes)) service ↔
      AtRegisteredSize (events.foldl (step lowercase) (start nodeId nodes)) service := by
  have hvalid := valid_run lowercase nodeId nodes events
  generalize events.foldl (step lowercase) (start nodeId nodes) = t at hvalid
  obtain ⟨cluster, hcluster⟩ := Option.isSome_iff_exists.mp hvalid.distributed
  have hagrees := hvalid.agrees cluster hcluster service
  constructor
  · intro hrestores z hz target htarget
    rw [hz] at hagrees
    -- The service has a node, and its death asks for the registered count.
    cases hsvc : cluster.services[service]? with
    | none =>
      rw [hsvc] at hagrees
      cases hagrees
    | some svc =>
      rw [hsvc] at hagrees
      cases hagrees with
      | some hreg =>
        obtain ⟨dead, hdead⟩ := exists_mem_of_ne_nil _ hreg.2
        have hcount := hrestores cluster hcluster .byKey dead svc.desiredReplicas
          ((mem_affectedServices _ _ _ _ _).mpr ⟨svc, hsvc, hdead, rfl⟩)
        calc target = z.size := by rw [Sizing.size, htarget]; rfl
          _ = svc.desiredReplicas := by
              rw [hz] at hcount
              exact Option.some.inj hcount
          _ = z.initial := hreg.1
  · intro hsize cluster' hcluster' order dead count hmem
    obtain rfl : cluster = cluster' := Option.some.inj (hcluster.symm.trans hcluster')
    obtain ⟨svc, hsvc, -, rfl⟩ := (mem_affectedServices _ _ _ _ _).mp hmem
    rw [hsvc] at hagrees
    -- an affected service was registered, and its last target is the registered count
    cases hz : t.sizings[service]? with
    | none =>
      rw [hz] at hagrees
      cases hagrees
    | some z =>
      rw [hz] at hagrees
      cases hagrees with
      | some hreg =>
        have hz' : z.size = z.initial := by
          unfold Sizing.size
          cases htarget : z.target with
          | none => rfl
          | some target => exact hsize z hz target htarget
        rw [Option.map_some, hz', hreg.1]

def scaledUp : List (ServiceEvent Float) :=
  [.register calmReadings "web" (.adaptive 1 5) 1 none,
   .scale calmReadings "web" (.scaleUp 1 3 "CPU")]

/-- The death of its node brings back one replica. -/
theorem scaled_size_lost_on_node_death :
    ¬RestoresSize (scaledUp.foldl (step id) (start 1 ∅)) "web" := by
  intro h
  have hcount := h _ rfl .byKey 1 1 (by decide +kernel)
  exact absurd hcount (by decide +kernel)

end Tracked

end ZLayer.Scheduler
