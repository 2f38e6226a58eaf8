import ZLayer.Scheduler.Scaling

/-!
# ScalingConservation — what the agents have been told adds up to the target

A node runs as many replicas of a service as the last request sent to it says.  A scaling step
addresses the nodes of the new assignment, or only the local agent when the assignment is empty.  A
node that was told to run replicas and is not addressed again goes on running them, so the sum over
all nodes equals the target exactly when every such node is addressed.
-/

namespace ZLayer.Scheduler

open Lib List HashMap

variable {F : Type} [F64 F]

/-! ## What the agents have been told -/

def lastDispatched (service : String) (sent : List (ScaleDispatch F)) : HashMap NodeId UInt32 :=
  sent.foldl (fun m d => if d.service = service then m.insert d.node d.replicas else m) ∅

def replicasTold (service : String) (sent : List (ScaleDispatch F)) : ℕ :=
  total UInt32.toNat (lastDispatched service sent)

omit [F64 F] in
lemma lastDispatched_append {service : String} (old : List (ScaleDispatch F))
    {sent : List (ScaleDispatch F)} (h : ∀ d ∈ sent, d.service = service) :
    lastDispatched service (old ++ sent) =
      overwrite (lastDispatched service old) (sent.map fun d => (d.node, d.replicas)) := by
  unfold lastDispatched overwrite
  rw [foldl_append, foldl_map]
  refine foldl_ext _ _ _ ?_
  intro m d hd
  rw [if_pos (h d hd)]

/-! ## The requests of a step -/

namespace SchedulerState

/-- The leader distributes `target` replicas of a registered service over several nodes. -/
structure Distributes (env : Readings) (service : String) (decision : ScalingDecision)
    (target : UInt32) (s : SchedulerState F) : Prop where
  leader : env.isLeader = true
  target_eq : decision.targetReplicas = some target
  registered : service ∈ s.autoscaler
  multiNode : MultiNode env s

/-- Placement finds a node for every replica. -/
def AllPlaced (pass : Pass F) : Prop :=
  ∀ d ∈ pass.decisions, d.isSuccess = true

/-- The nodes a scaling to `target` sends a request to: those placement chooses for a replica, or
the local node when there is no replica to place. -/
def Addressed (lowercase : String → String) (env : Readings) (service : String) (target : UInt32)
    (s : SchedulerState F) (node : NodeId) : Prop :=
  if target = 0 then node = s.nodeId
  else ∃ d ∈ (scalingPass lowercase env service target s).decisions, d.nodeId = some node

variable {lowercase : String → String} {env : Readings} {service : String} {target : UInt32}
  {s : SchedulerState F}

lemma length_scalingPass (lowercase : String → String) (env : Readings) (service : String)
    (target : UInt32) (s : SchedulerState F) :
    (scalingPass lowercase env service target s).decisions.length = target.toNat :=
  length_decisions_placeServiceReplicas _ _ _ _ _ _

omit [F64 F] in
lemma length_placedPairs {decisions : List (PlacementDecision F)}
    (h : ∀ d ∈ decisions, d.isSuccess = true) :
    (placedPairs decisions).length = decisions.length := by
  induction decisions with
  | nil => rfl
  | cons d decisions ih =>
    obtain ⟨id, hid⟩ := Option.isSome_iff_exists.mp (h d mem_cons_self)
    have hrest := ih fun d' hd' => h d' (mem_cons_of_mem d hd')
    unfold placedPairs at hrest ⊢
    rw [filterMap_cons, hid]
    simpa using hrest

omit [F64 F] in
lemma mem_placedPairs {decisions : List (PlacementDecision F)} {node : NodeId} :
    (∃ c, (node, c) ∈ placedPairs decisions) ↔ ∃ d ∈ decisions, d.nodeId = some node := by
  simp only [placedPairs, mem_filterMap, Option.map_eq_some_iff, Prod.mk.injEq]
  constructor
  · rintro ⟨c, d, hd, id, hid, rfl, rfl⟩
    exact ⟨d, hd, hid⟩
  · rintro ⟨d, hd, hid⟩
    exact ⟨d.containerId, d, hd, node, hid, rfl, rfl⟩

lemma mem_nodes_of_placed {cluster : ClusterState} (hraft : s.raft = some cluster)
    (hkeyed : NodesKeyed cluster) {d : PlacementDecision F}
    (hd : d ∈ (scalingPass lowercase env service target s).decisions) {node : NodeId}
    (hnode : d.nodeId = some node) : node ∈ cluster.nodes := by
  have hid : node ∈ (s.buildNodeStates env : List (NodeState F)).map (·.id) :=
    nodeId_mem_of_mem_decisions hd hnode
  rcases mem_map.mp hid with ⟨state, hstate, rfl⟩
  simp only [buildNodeStates, hraft, clusterNodesToNodeStates] at hstate
  rcases mem_map.mp hstate with ⟨info, hinfo, rfl⟩
  rcases mem_map.mp (mem_filter.mp hinfo).1 with ⟨⟨key, info'⟩, hentry, rfl⟩
  have hlookup := (env.nodeOrder.mem_list cluster.nodes).mp hentry
  have hkey : info'.nodeId = key := hkeyed key info' hlookup
  change info'.nodeId ∈ cluster.nodes
  rw [hkey, Std.ExtTreeMap.mem_iff_isSome_getElem?, hlookup]
  rfl

/-- What a scaling step sends: one request for the service to each addressed node, with counts
that add up to the target. -/
structure SendsShares (lowercase : String → String) (env : Readings) (service : String)
    (target : UInt32) (s : SchedulerState F) (sent : List (ScaleDispatch F)) : Prop where
  service_eq : ∀ d ∈ sent, d.service = service
  nodes_nodup : (sent.map (·.node)).Nodup
  nodes_eq : ∀ node, node ∈ sent.map (·.node) ↔ Addressed lowercase env service target s node
  sum_eq : (sent.map fun d => d.replicas.toNat).sum = target.toNat

lemma sendsShares_assignment {cluster : ClusterState} (hraft : s.raft = some cluster)
    (hkeyed : NodesKeyed cluster) (hne : target ≠ 0)
    (hall : AllPlaced (scalingPass lowercase env service target s)) :
    SendsShares lowercase env service target s
      (assignmentRequests cluster service s.serviceSpecs[service]? (env.dispatchOrder.list
        (group
          (placedPairs (scalingPass lowercase env service target s).decisions)))) := by
  generalize hassign : group
    (placedPairs (scalingPass lowercase env service target s).decisions) = assignments
  have hentries := env.dispatchOrder.perm assignments
  -- Every node of the assignment is registered, so no entry is skipped.
  have hchosen : ∀ node : NodeId, node ∈ assignments ↔
      ∃ d ∈ (scalingPass lowercase env service target s).decisions, d.nodeId = some node := by
    intro node
    rw [← hassign, mem_group_iff, mem_placedPairs]
  have hknown : ∀ entry ∈ env.dispatchOrder.list assignments, entry.1 ∈ cluster.nodes := by
    rintro ⟨node, containers⟩ hentry
    have hmem : node ∈ assignments := by
      rw [Std.ExtTreeMap.mem_iff_isSome_getElem?,
        (env.dispatchOrder.mem_list assignments).mp hentry]
      rfl
    obtain ⟨d, hd, hnode⟩ := (hchosen node).mp hmem
    exact mem_nodes_of_placed hraft hkeyed hd hnode
  have hfilter : (env.dispatchOrder.list assignments).filter
      (fun entry => entry.1 ∈ cluster.nodes) = env.dispatchOrder.list assignments :=
    filter_eq_self.mpr fun entry hentry => decide_eq_true (hknown entry hentry)
  have htotal : total List.length assignments = target.toNat := by
    rw [← hassign, total_group, length_placedPairs hall, length_scalingPass]
  refine ⟨?_, ?_, ?_, ?_⟩
  · intro d hd
    rcases mem_map.mp hd with ⟨entry, -, rfl⟩
    rfl
  · have hkeys := env.dispatchOrder.keys_nodup assignments
    simpa [assignmentRequests, hfilter, Function.comp_def] using hkeys
  · intro node
    rw [Addressed, if_neg hne, ← hchosen]
    simp only [assignmentRequests, hfilter, map_map, mem_map, Function.comp_apply]
    constructor
    · rintro ⟨⟨key, containers⟩, hentry, rfl⟩
      rw [Std.ExtTreeMap.mem_iff_isSome_getElem?,
        (env.dispatchOrder.mem_list assignments).mp hentry]
      rfl
    · intro hnode
      obtain ⟨containers, hlookup⟩ := Option.isSome_iff_exists.mp
        (Std.ExtTreeMap.mem_iff_isSome_getElem?.mp hnode)
      exact ⟨(node, containers), (env.dispatchOrder.mem_list assignments).mpr hlookup, rfl⟩
  · -- No single share exceeds the target, so none is cut off by the conversion to `u32`.
    have hsum : ((env.dispatchOrder.list assignments).map fun entry => entry.2.length).sum =
        target.toNat := by
      rw [← htotal, total]
      exact (hentries.map _).sum_eq
    have hshare : ∀ entry ∈ env.dispatchOrder.list assignments,
        (UInt32.ofNat entry.2.length).toNat = entry.2.length := by
      intro entry hentry
      have hle : entry.2.length ≤ target.toNat := by
        rw [← hsum]
        exact le_sum_of_mem (mem_map.mpr ⟨entry, hentry, rfl⟩)
      exact UInt32.toNat_ofNat_of_lt' (Nat.lt_of_le_of_lt hle target.toNat_lt)
    calc
      ((assignmentRequests cluster service s.serviceSpecs[service]?
            (env.dispatchOrder.list assignments)).map fun d => d.replicas.toNat).sum
          = ((env.dispatchOrder.list assignments).map fun entry =>
              (UInt32.ofNat entry.2.length).toNat).sum := by
            simp [assignmentRequests, hfilter, Function.comp_def]
      _ = ((env.dispatchOrder.list assignments).map fun entry => entry.2.length).sum := by
            rw [map_congr_left hshare]
      _ = target.toNat := hsum

/-- A step for which placement finds a node for every replica sends exactly such requests. -/
lemma dispatched_applyScaling {decision : ScalingDecision}
    (hkeyed : ∀ cluster ∈ s.raft, NodesKeyed cluster)
    (hd : Distributes env service decision target s)
    (hall : AllPlaced (scalingPass lowercase env service target s)) :
    ∃ sent, (applyScaling lowercase env service decision s).1.dispatched = s.dispatched ++ sent ∧
      SendsShares lowercase env service target s sent := by
  obtain ⟨cluster, hraft⟩ := Option.isSome_iff_exists.mp hd.multiNode.1
  have hmulti : MultiNode env (withAction env.now service target s) := hd.multiNode
  rw [applyScaling_of_target lowercase (fun _ => hd.leader) hd.target_eq hd.registered,
    dispatched_recordScaleEvent, scaleTo_of_multiNode lowercase service target hmulti]
  have hpass : scalingPass lowercase env service target (withAction env.now service target s) =
      scalingPass lowercase env service target s := rfl
  simp only [hpass]
  have hlength : (placedPairs (scalingPass lowercase env service target s).decisions).length =
      target.toNat := by
    rw [length_placedPairs hall, length_scalingPass]
  by_cases hzero : target = 0
  · -- Nothing to place: the assignment is empty and the local agent alone is told.
    have hnil : placedPairs (scalingPass lowercase env service target s).decisions = [] := by
      rw [← length_eq_zero_iff, hlength, hzero]
      rfl
    rw [hnil]
    refine ⟨_, rfl, ⟨by simp, by simp, ?_, by simp⟩⟩
    intro node
    simp [Addressed, hzero, withAction]
  · -- A node has been chosen, so the assignment is executed.
    have hnonempty : (group
        (placedPairs (scalingPass lowercase env service target s).decisions)).isEmpty = false := by
      cases hpairs : placedPairs (scalingPass lowercase env service target s).decisions with
      | nil =>
        rw [hpairs] at hlength
        exact absurd (UInt32.toNat_inj.mp hlength.symm) hzero
      | cons pair pairs =>
        rw [Std.ExtTreeMap.isEmpty_eq_false_iff]
        intro hempty
        have hmem : pair.1 ∈ group (pair :: pairs) :=
          (mem_group_iff _ _).mpr ⟨pair.2, mem_cons_self⟩
        rw [hempty] at hmem
        exact Std.ExtTreeMap.not_mem_empty hmem
    rw [hnonempty]
    simp only [Bool.false_eq_true, if_false, executeDistributedScaling, withAction, hraft,
      dispatched_propose]
    exact ⟨_, rfl, sendsShares_assignment hraft (hkeyed cluster hraft) hzero hall⟩

/-! ## Conservation -/

/-- After the step the counts last sent add up to the target. -/
def Conserves (lowercase : String → String) (s : SchedulerState F) : Event F → Prop
  | .scale env service decision =>
    ∀ target, Distributes env service decision target s →
      AllPlaced (scalingPass lowercase env service target s) →
        replicasTold service (step lowercase s (.scale env service decision)).dispatched =
          target.toNat
  | _ => True

/-- No node that runs replicas of the service is left out by the step. -/
def AddressesHolders (lowercase : String → String) (s : SchedulerState F) : Event F → Prop
  | .scale env service decision =>
    ∀ target, Distributes env service decision target s →
      AllPlaced (scalingPass lowercase env service target s) →
        ∀ (node : NodeId) (count : UInt32),
          (lastDispatched service s.dispatched)[node]? = some count → count ≠ 0 →
            Addressed lowercase env service target s node
  | _ => True

lemma conserves_iff_addressesHolders (lowercase : String → String) (s : SchedulerState F)
    (e : Event F) (hkeyed : ∀ cluster ∈ s.raft, NodesKeyed cluster) :
    Conserves lowercase s e ↔ AddressesHolders lowercase s e := by
  cases e with
  | register => exact Iff.rfl
  | command => exact Iff.rfl
  | scale env service decision =>
    refine forall_congr' fun target => forall_congr' fun hd => forall_congr' fun hall => ?_
    obtain ⟨sent, hsent, hshares⟩ := dispatched_applyScaling hkeyed hd hall
    have htold : replicasTold service (step lowercase s (.scale env service decision)).dispatched =
        target.toNat + total UInt32.toNat
          (untouched (lastDispatched service s.dispatched) (sent.map (·.node))) := by
      have hkeys : ((sent.map fun d => (d.node, d.replicas)).map Prod.fst).Nodup := by
        simpa [Function.comp_def] using hshares.nodes_nodup
      simp only [replicasTold, step, hsent]
      rw [lastDispatched_append _ hshares.service_eq, total_overwrite _ _ _ hkeys]
      simp only [map_map, Function.comp_def, hshares.sum_eq]
    -- What exceeds the target is what the nodes that are left out were told before.
    rw [htold, Nat.add_eq_left, total_eq_zero_iff]
    constructor
    · intro hrest node count hcount hne
      by_contra hnot
      rw [← hshares.nodes_eq] at hnot
      have hzero := hrest node count (by rw [lookup_untouched, if_neg hnot, hcount])
      exact hne (UInt32.toNat_inj.mp hzero)
    · intro haddressed node count hcount
      rw [lookup_untouched] at hcount
      by_cases hmem : node ∈ sent.map (·.node)
      · rw [if_pos hmem] at hcount
        cases hcount
      · rw [if_neg hmem] at hcount
        by_contra hne
        refine hmem ((hshares.nodes_eq node).mpr (haddressed node count hcount ?_))
        rintro rfl
        exact hne rfl

/-- In every run, the counts last sent add up to the target after every step for which placement
finds a node for every replica, if and only if no such step leaves out a node that has been told to
run replicas. -/
theorem replicas_conserved_iff (lowercase : String → String) (nodeId : NodeId)
    (events : List (Event F)) :
    Machine.Along (step lowercase) (Conserves lowercase) (initial nodeId) events ↔
      Machine.Along (step lowercase) (AddressesHolders lowercase) (initial nodeId) events := by
  have hinitial : ∀ cluster ∈ (initial nodeId : SchedulerState F).raft, NodesKeyed cluster := by
    intro cluster hcluster
    rw [← Option.some.inj hcluster]
    exact nodesKeyed_default
  refine Machine.along_congr (I := fun s => ∀ cluster ∈ s.raft, NodesKeyed cluster) ?_ ?_ events
    hinitial
  · intro s e hs
    refine raft_step (Q := fun raft => ∀ cluster ∈ raft, NodesKeyed cluster)
      (fun now raft req h => ?_) lowercase e hs
    exact Option.forall_mem_map.mpr fun cluster hc => nodesKeyed_apply now (h cluster hc) req
  · intro s e hs
    exact conserves_iff_addressesHolders lowercase s e hs

/-! ## A scale-down that leaves a replica behind -/

def spreadSpec : ServiceSpec Float :=
  { ServiceSpec.default with
    affinity := some .spread }

def spreadScaleDown : List (Event Float) :=
  [.command 0 (.registerNode (plainNode 1)),
   .command 0 (.registerNode (plainNode 2)),
   .register calmReadings "web" (.adaptive 1 4) 1 (some spreadSpec),
   .scale calmReadings "web" (.scaleUp 1 2 "CPU"),
   .scale calmReadings "web" (.scaleDown 2 1 "idle")]

theorem replica_left_behind_on_scaleDown :
    ¬Machine.Along (step id) (Conserves id) (initial 1) spreadScaleDown := by
  rintro ⟨-, -, -, -, hdown, -⟩
  have htold := hdown 1 ⟨rfl, rfl, by decide +kernel, by decide +kernel⟩ (by
    unfold AllPlaced
    decide +kernel)
  exact absurd htold (by decide +kernel)

end SchedulerState

end ZLayer.Scheduler
