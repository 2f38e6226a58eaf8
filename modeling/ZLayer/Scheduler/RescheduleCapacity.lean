import ZLayer.Scheduler.Reservation
import ZLayer.Scheduler.Scaling

/-!
# RescheduleCapacity — memory asked of a node when another one dies

`handle_node_death` places the services of the dead node one after the other, each on the node
states read at the start of the call.  One service never asks more of a node than it has left, but
no service sees what the ones before it were given.  A node is safe from being overcommitted,
whichever other nodes are live, when the services fit together even if each puts there all the
replicas the node can take.
-/

namespace ZLayer.Scheduler

open Lib List HashMap

variable {F : Type} [F64 F]

namespace SchedulerState

/-! ## Memory asked of a node -/

def memoryAsked (sent : List (ScaleDispatch F)) (node : NodeId) : ℕ :=
  ((sent.filter fun d => d.node = node).map fun d =>
    d.replicas.toNat * (d.spec.getD .default).memRequest.toNat).sum

def deathRequests (lowercase : String → String) (env : Readings) (envs : String → Readings)
    (order : IterOrder String ServiceState) (dead : NodeId) (s : SchedulerState F) :
    List (ScaleDispatch F) :=
  (handleNodeDeath lowercase env envs order dead s).1.dispatched.drop s.dispatched.length

def effectiveSpec (s : SchedulerState F) (service : String) : ServiceSpec F :=
  s.serviceSpecs[service]?.getD .default

/-- The memory the services would ask of a node if each put there all the replicas it can take. -/
def memoryWanted (lowercase : String → String) (s : SchedulerState F) (n : NodeState F)
    (affected : List (String × UInt32)) : ℕ :=
  (affected.map fun entry =>
    room lowercase entry.1 (s.effectiveSpec entry.1) n entry.2.toNat *
      (s.effectiveSpec entry.1).memRequest.toNat).sum

omit [F64 F] in
lemma length_filter_placedPairs (decisions : List (PlacementDecision F)) (node : NodeId) :
    ((placedPairs decisions).filter fun kv => kv.1 = node).length = takenOn decisions node := by
  induction decisions with
  | nil => rfl
  | cons d rest ih =>
    unfold placedPairs takenOn at ih ⊢
    cases hd : d.nodeId with
    | none => simp [hd, ih]
    | some id =>
      by_cases hid : id = node
      · simp [hd, hid, ih]
      · simp [hd, hid, ih]

omit [F64 F] in
/-- The requests for an assignment ask of a node what the replicas placed there need. -/
lemma memoryAsked_assignmentRequests (order : IterOrder NodeId (List ContainerId))
    {cluster : ClusterState} (service : String) (spec : Option (ServiceSpec F))
    {decisions : List (PlacementDecision F)} (hlen : decisions.length < 2 ^ 32) {node : NodeId}
    (hnode : node ∈ cluster.nodes) :
    memoryAsked (assignmentRequests cluster service spec
        (order.list (group (placedPairs decisions)))) node =
      takenOn decisions node * (spec.getD .default).memRequest.toNat := by
  have hcount : ((group (placedPairs decisions))[node]?.getD []).length =
      takenOn decisions node := by
    rw [getD_lookup_group, length_map, length_filter_placedPairs]
  -- The conversion to `u32` does not cut the count off.
  have hbound : takenOn decisions node < 2 ^ 32 := lt_of_le_of_lt countP_le_length hlen
  -- of the requests only the one for the node's own entry goes to the node
  have hsame : ∀ entry ∈ order.list (group (placedPairs decisions)),
      (((fun d : ScaleDispatch F => decide (d.node = node)) ∘ fun entry =>
        { node := entry.1
          service := service
          replicas := UInt32.ofNat entry.2.length
          spec := spec }) entry && decide (entry.1 ∈ cluster.nodes)) =
        decide (entry.1 = node) := by
    rintro ⟨id, containers⟩ -
    by_cases hid : id = node
    · simp [hid, hnode]
    · simp [hid]
  rw [memoryAsked, assignmentRequests, filter_map, filter_filter, filter_congr hsame,
    order.filter_key, map_map]
  cases hlookup : (group (placedPairs decisions))[node]? with
  | none =>
    rw [hlookup] at hcount
    rw [← hcount]
    simp
  | some containers =>
    rw [hlookup, Option.getD_some] at hcount
    rw [← hcount] at hbound ⊢
    simp [UInt32.toNat_ofNat_of_lt' hbound]

/-! ## One service -/

variable {cluster : ClusterState} {s : SchedulerState F}

/-- What rescheduling one service does to the parts of the state that the next one reads. -/
lemma rescheduleService_spec (lowercase : String → String) (env : Readings) (dead : NodeId)
    (nodes : List (NodeState F)) (hraft : s.raft = some cluster) (service : String)
    (desired : UInt32) {node : NodeId} (hnode : node ∈ cluster.nodes) :
    ∃ sent placements after,
      (rescheduleService lowercase env dead nodes s service desired).dispatched =
        s.dispatched ++ sent ∧
      memoryAsked sent node =
        takenOn (placeServiceReplicas lowercase service (s.effectiveSpec service) desired nodes
          placements).decisions node * (s.effectiveSpec service).memRequest.toNat ∧
      (rescheduleService lowercase env dead nodes s service desired).serviceSpecs =
        s.serviceSpecs ∧
      (rescheduleService lowercase env dead nodes s service desired).raft = some after ∧
      after.nodes = cluster.nodes := by
  let cleared := (s.placementState.removeServiceFromNode dead service).1
  let pass := placeServiceReplicas lowercase service (s.effectiveSpec service) desired nodes cleared
  have hlen : pass.decisions.length < 2 ^ 32 := by
    rw [length_decisions_placeServiceReplicas]
    exact desired.toNat_lt
  have hasked := memoryAsked_assignmentRequests env.dispatchOrder service s.serviceSpecs[service]?
    hlen hnode
  unfold rescheduleService computePlacement
  simp only
  split
  · -- No replica was placed.
    rename_i hempty
    refine ⟨[], cleared, cluster, (append_nil _).symm, ?_, rfl, hraft, rfl⟩
    have hgroup : group (placedPairs pass.decisions) = ∅ :=
      Std.ExtTreeMap.isEmpty_iff.mp hempty
    have hnone : takenOn pass.decisions node = 0 := by
      rw [← length_filter_placedPairs, ← length_map Prod.snd, ← getD_lookup_group,
        hgroup]
      simp
    change memoryAsked [] node = takenOn pass.decisions node * _
    rw [hnone, Nat.zero_mul]
    rfl
  · unfold executeDistributedScaling
    simp only [hraft]
    cases hrefused : env.assignmentRefused with
    | some e =>
      -- The requests go out even if the assignment was not recorded.
      exact ⟨_, cleared, cluster, rfl, hasked, rfl, rfl, rfl⟩
    | none =>
      refine ⟨_, cleared, _, rfl, hasked, rfl, rfl, ?_⟩
      simp only [ClusterState.apply]
      split <;> rfl

variable {lowercase : String → String} {service : String} {spec : ServiceSpec F}

variable {n : NodeState F} {nodes : List (NodeState F)}

/-- A pass asks no more of a node than the node can take alone. -/
lemma takenOn_le_room (hids : (nodes.map (·.id)).Nodup) (hmode : spec.nodeMode = .shared)
    (desired : UInt32) (placements : PlacementState) (hn : n ∈ nodes) :
    takenOn (placeServiceReplicas lowercase service spec desired nodes placements).decisions
        n.id ≤ room lowercase service spec n desired.toNat := by
  rcases placeServiceReplicas_cases lowercase service spec desired nodes placements with
    heq | ⟨-, heq⟩
  · rw [heq]
    exact takenOn_placeLoop_le hids hmode desired placements hn
  · -- A rolled back gang asks for nothing.
    have hzero : takenOn (gangRollback service spec desired
        (placeLoop lowercase service spec desired nodes placements)).decisions n.id = 0 := by
      refine countP_eq_zero.mpr ?_
      intro d hd
      simp [nodeId_of_mem_gangRollback _ _ hd]
    rw [heq, hzero]
    exact Nat.zero_le _

/-- A service that is not a gang asks of a node that is alone all it can take. -/
lemma takenOn_eq_room (hmode : spec.nodeMode = .shared) (hgang : spec.isGang = false)
    (desired : UInt32) (placements : PlacementState) (n : NodeState F) :
    takenOn (placeServiceReplicas lowercase service spec desired [n] placements).decisions n.id =
      room lowercase service spec n desired.toNat := by
  rcases placeServiceReplicas_cases lowercase service spec desired [n] placements with
    heq | ⟨⟨hyes, -⟩, -⟩
  · rw [heq]
    exact takenOn_placeLoop_singleton hmode desired placements n
  · rw [hgang] at hyes
    cases hyes

/-! ## All services of the dead node -/

variable {R : ℕ → ℕ → Prop}

/-- The services are placed one after the other; `R` compares what a service asks of the node with
what it may ask. -/
lemma memoryAsked_foldl (hzero : R 0 0) (hadd : ∀ a b c d, R a b → R c d → R (a + c) (b + d))
    (envs : String → Readings) (dead : NodeId) (spec : String → ServiceSpec F)
    (affected : List (String × UInt32))
    (hone : ∀ entry ∈ affected, ∀ placements, R
      (takenOn (placeServiceReplicas lowercase entry.1 (spec entry.1) entry.2 nodes
      placements).decisions n.id * (spec entry.1).memRequest.toNat)
      (room lowercase entry.1 (spec entry.1) n entry.2.toNat * (spec entry.1).memRequest.toNat))
    (hraft : s.raft = some cluster) (hnode : n.id ∈ cluster.nodes)
    (hspec : s.effectiveSpec = spec) :
    ∃ sent,
      (affected.foldl (fun s entry =>
        rescheduleService lowercase (envs entry.1) dead nodes s entry.1 entry.2) s).dispatched =
          s.dispatched ++ sent ∧
      R (memoryAsked sent n.id) (memoryWanted lowercase s n affected) := by
  -- induction on the services still to be placed; the specifications stay the same throughout
  induction affected generalizing s cluster with
  | nil => exact ⟨[], (append_nil _).symm, hzero⟩
  | cons entry rest ih =>
    obtain ⟨first, placements, after, hfirst, hasked, hspecs, hafter, hnodes⟩ :=
      rescheduleService_spec lowercase (envs entry.1) dead nodes hraft entry.1 entry.2 hnode
    have hspec' : (rescheduleService lowercase (envs entry.1) dead nodes s entry.1
        entry.2).effectiveSpec = spec := by
      rw [← hspec]
      funext name
      rw [effectiveSpec, hspecs]
      rfl
    obtain ⟨others, hothers, hrest⟩ :=
      ih (fun e he => hone e (mem_cons_of_mem entry he)) hafter (hnodes ▸ hnode) hspec'
    refine ⟨first ++ others, ?_, ?_⟩
    · rw [foldl_cons, hothers, hfirst, append_assoc]
    · have hwanted : memoryWanted lowercase s n (entry :: rest) =
          room lowercase entry.1 (spec entry.1) n entry.2.toNat *
              (spec entry.1).memRequest.toNat +
            memoryWanted lowercase (rescheduleService lowercase (envs entry.1) dead nodes s
              entry.1 entry.2) n rest := by
        simp only [memoryWanted, hspec, hspec', map_cons, sum_cons]
      rw [memoryAsked, filter_append, map_append, sum_append, ← memoryAsked,
        ← memoryAsked, hwanted, hasked, hspec]
      exact hadd _ _ _ _ (hone entry mem_cons_self placements) hrest

def inCluster (s : SchedulerState F) (cluster : ClusterState) (nodes : HashMap NodeId NodeInfo) :
    SchedulerState F :=
  { s with raft := some { cluster with nodes := nodes } }

def headroom (info : NodeInfo) : ℕ :=
  (saturatingSub info.memoryTotal info.memoryUsed).toNat

/-- Whichever nodes are live besides this one and in whatever order the services are processed, the
call does not ask more memory of the node than it has left. -/
def NeverOvercommitted (lowercase : String → String) (s : SchedulerState F)
    (cluster : ClusterState) (dead : NodeId) (info : NodeInfo) : Prop :=
  ∀ nodes : HashMap NodeId NodeInfo, NodesKeyed { cluster with nodes := nodes } →
    nodes[info.nodeId]? = some info →
      ∀ (env : Readings) (envs : String → Readings) (order : IterOrder String ServiceState),
        memoryAsked (deathRequests lowercase env envs order dead (s.inCluster cluster nodes))
          info.nodeId ≤ headroom info

/-- The services of the dead node fit on the node together, each with all the replicas the node
could take if it were alone. -/
def FitsTogether (lowercase : String → String) (s : SchedulerState F) (cluster : ClusterState)
    (dead : NodeId) (info : NodeInfo) : Prop :=
  memoryWanted lowercase s (nodeInfoToNodeState info) (affectedServices .byKey cluster dead) ≤
    headroom info

/-- What the call asks of a live node, service by service. -/
lemma memoryAsked_deathRequests (hzero : R 0 0)
    (hadd : ∀ a b c d, R a b → R c d → R (a + c) (b + d)) (hraft : s.raft = some cluster)
    (env : Readings) (envs : String → Readings) (order : IterOrder String ServiceState)
    (dead : NodeId) (hn : n ∈ (s.buildNodeStates env : List (NodeState F)))
    (hnode : n.id ∈ cluster.nodes)
    (hone : ∀ entry ∈ affectedServices order cluster dead, ∀ placements,
      R (takenOn (placeServiceReplicas lowercase entry.1 (s.effectiveSpec entry.1) entry.2
      (s.buildNodeStates env) placements).decisions n.id *
      (s.effectiveSpec entry.1).memRequest.toNat)
      (room lowercase entry.1 (s.effectiveSpec entry.1) n entry.2.toNat *
      (s.effectiveSpec entry.1).memRequest.toNat)) :
    R (memoryAsked (deathRequests lowercase env envs order dead s) n.id)
      (memoryWanted lowercase s n (affectedServices order cluster dead)) := by
  obtain ⟨sent, hsent, hR⟩ := memoryAsked_foldl hzero hadd envs dead s.effectiveSpec
    (affectedServices order cluster dead) hone hraft hnode rfl
  have hlive : (s.buildNodeStates env : List (NodeState F)).isEmpty = false := by
    rw [isEmpty_eq_false_iff]
    exact ne_nil_of_mem hn
  have hrequests : deathRequests lowercase env envs order dead s = sent := by
    unfold deathRequests handleNodeDeath
    simp only [hraft, hlive]
    split
    · -- No service was assigned to the dead node.
      rename_i hnone
      rw [isEmpty_iff.mp hnone] at hsent
      simpa using hsent
    · simp only [Bool.false_eq_true, if_false, hsent, drop_left]
  rw [hrequests]
  exact hR

variable {info : NodeInfo}

lemma mem_buildNodeStates (hraft : s.raft = some cluster) (env : Readings)
    (hinfo : cluster.nodes[info.nodeId]? = some info) (hready : info.status = "ready") :
    nodeInfoToNodeState info ∈ (s.buildNodeStates env : List (NodeState F)) := by
  simp only [buildNodeStates, hraft, clusterNodesToNodeStates]
  refine mem_map_of_mem (mem_filter.mpr ⟨?_, by simpa using hready⟩)
  exact mem_map.mpr ⟨_, (env.nodeOrder.mem_list _).mpr hinfo, rfl⟩

lemma buildNodeStates_singleton (s : SchedulerState F) (cluster : ClusterState) (env : Readings)
    (hready : info.status = "ready") :
    ((s.inCluster cluster ((∅ : HashMap NodeId NodeInfo).insert info.nodeId info)).buildNodeStates
      env : List (NodeState F)) = [nodeInfoToNodeState info] := by
  have hentries : env.nodeOrder.list ((∅ : HashMap NodeId NodeInfo).insert info.nodeId info) =
      [(info.nodeId, info)] := by
    have hinsert := entries_insert_perm (∅ : HashMap NodeId NodeInfo) info.nodeId info
    have hnone : entries ((∅ : HashMap NodeId NodeInfo).erase info.nodeId) = [] := by
      simp [entries]
    rw [hnone] at hinsert
    exact perm_singleton.mp ((env.nodeOrder.perm _).trans hinsert)
  simp [buildNodeStates, inCluster, clusterNodesToNodeStates, hentries, hready]

/-- A live node is never overcommitted if the services fit on it together; and if none of them is a
gang, which a single node may have to refuse as a whole, only then. -/
theorem neverOvercommitted_iff_fitsTogether (lowercase : String → String) (s : SchedulerState F)
    (cluster : ClusterState) (dead : NodeId) (info : NodeInfo) (hready : info.status = "ready")
    (hshared : ∀ entry ∈ affectedServices .byKey cluster dead,
      (s.effectiveSpec entry.1).nodeMode = .shared) :
    (FitsTogether lowercase s cluster dead info →
      NeverOvercommitted lowercase s cluster dead info) ∧
    ((∀ entry ∈ affectedServices .byKey cluster dead, (s.effectiveSpec entry.1).isGang = false) →
      NeverOvercommitted lowercase s cluster dead info →
        FitsTogether lowercase s cluster dead info) := by
  refine ⟨?_, ?_⟩
  · intro hfits nodes hkeyed hinfo env envs order
    have hperm : (affectedServices order cluster dead).Perm
        (affectedServices .byKey cluster dead) :=
      ((order.perm cluster.services).filter _).map _
    have hlive : nodeInfoToNodeState info ∈
        ((s.inCluster cluster nodes).buildNodeStates env : List (NodeState F)) :=
      mem_buildNodeStates rfl env hinfo hready
    have hknown : info.nodeId ∈ nodes := by
      rw [Std.ExtTreeMap.mem_iff_isSome_getElem?, hinfo]
      rfl
    have hasked : memoryAsked (deathRequests lowercase env envs order dead
        (s.inCluster cluster nodes)) info.nodeId ≤ memoryWanted lowercase s
          (nodeInfoToNodeState info) (affectedServices order cluster dead) := by
      refine memoryAsked_deathRequests (R := (· ≤ ·)) (Nat.le_refl 0)
        (fun _ _ _ _ hac hbd => Nat.add_le_add hac hbd) (s := s.inCluster cluster nodes) rfl env
        envs order dead hlive hknown ?_
      intro entry hentry placements
      exact Nat.mul_le_mul_right _ (takenOn_le_room
        (ids_clusterNodesToNodeStates_nodup env.nodeOrder hkeyed)
        (hshared entry (hperm.mem_iff.mp hentry)) _ _ hlive)
    calc memoryAsked (deathRequests lowercase env envs order dead (s.inCluster cluster nodes))
          info.nodeId
        ≤ memoryWanted lowercase s (nodeInfoToNodeState info)
            (affectedServices order cluster dead) := hasked
      _ = memoryWanted lowercase s (nodeInfoToNodeState info)
            (affectedServices .byKey cluster dead) := (hperm.map _).sum_eq
      _ ≤ headroom info := hfits
  · intro hgang hnever
    let alone : HashMap NodeId NodeInfo := (∅ : HashMap NodeId NodeInfo).insert info.nodeId info
    have hlookup : alone[info.nodeId]? = some info := by
      rw [lookup_insert, if_pos rfl]
    have hkeyed : NodesKeyed { cluster with nodes := alone } := by
      intro id n hn
      rw [lookup_insert] at hn
      by_cases hid : info.nodeId = id
      · rw [if_pos hid] at hn
        rw [← Option.some.inj hn, hid]
      · rw [if_neg hid] at hn
        simp at hn
    -- With no other node to go to, every service fills the node.
    have hknown : info.nodeId ∈ alone := by
      rw [Std.ExtTreeMap.mem_iff_isSome_getElem?, hlookup]
      rfl
    have hasked : memoryAsked (deathRequests lowercase calmReadings (fun _ => calmReadings) .byKey
        dead (s.inCluster cluster alone)) info.nodeId = memoryWanted lowercase s
          (nodeInfoToNodeState info) (affectedServices .byKey cluster dead) := by
      refine memoryAsked_deathRequests (R := Eq) rfl (fun _ _ _ _ hac hbd => by rw [hac, hbd])
        (s := s.inCluster cluster alone) rfl calmReadings (fun _ => calmReadings) .byKey dead
        (mem_buildNodeStates rfl calmReadings hlookup hready) hknown ?_
      intro entry hentry placements
      rw [buildNodeStates_singleton s cluster calmReadings hready]
      exact congrArg (· * _) (takenOn_eq_room (hshared entry hentry) (hgang entry hentry) _ _ _)
    calc memoryWanted lowercase s (nodeInfoToNodeState info)
          (affectedServices .byKey cluster dead)
        = memoryAsked (deathRequests lowercase calmReadings (fun _ => calmReadings) .byKey dead
            (s.inCluster cluster alone)) info.nodeId := hasked.symm
      _ ≤ headroom info := hnever alone hkeyed hlookup calmReadings _ .byKey

def memoryNode (id : NodeId) : NodeRegistration :=
  { plainNode id with
    memoryTotal := 1048576000 }

def onNodeTwo : ServiceState :=
  { currentReplicas := 1
    desiredReplicas := 1
    minReplicas := 1
    maxReplicas := 1
    healthStatus := .healthy
    lastScaleTime := none
    assignedNodes := [2] }

def deadNodeCluster : ClusterState :=
  (ClusterState.default.run (fun _ => 0)
    [.registerNode (memoryNode 1),
     .registerNode (memoryNode 2),
     .updateServiceState "api" onNodeTwo,
     .updateServiceState "web" onNodeTwo,
     .updateNodeStatus 2 "dead"]).1

def memorySpec (memory : String) : ServiceSpec Float :=
  { (ServiceSpec.default : ServiceSpec Float) with
    resources :=
      { cpu := none
        memory := some memory
        gpu := none } }

def knowing (api web : String) : SchedulerState Float :=
  { initial 1 with
    raft := some deadNodeCluster
    serviceSpecs := (∅ : HashMap String (ServiceSpec Float)).insert "api" (memorySpec api)
      |>.insert "web" (memorySpec web) }

theorem neverOvercommitted_of_small_requests :
    NeverOvercommitted id (knowing "400Mi" "500Mi") deadNodeCluster 2
      (ClusterState.registeredNode 0 (memoryNode 1)) := by
  refine (neverOvercommitted_iff_fitsTogether id _ deadNodeCluster 2 _ rfl ?_).1 ?_
  · decide +kernel
  · unfold FitsTogether
    decide +kernel

/-- Each service fits on node 1, both together do not, and both are placed there. -/
theorem overcommitted_on_node_death :
    ¬NeverOvercommitted id (knowing "600Mi" "700Mi") deadNodeCluster 2
      (ClusterState.registeredNode 0 (memoryNode 1)) := by
  intro h
  have hkeyed : NodesKeyed deadNodeCluster :=
    Machine.run_invariant _ _ _ (fun _ _ _ _ hc => nodesKeyed_apply _ hc _) nodesKeyed_default
  have hasked := h deadNodeCluster.nodes hkeyed (by decide +kernel) calmReadings
    (fun _ => calmReadings) .byKey
  exact absurd hasked (by decide +kernel)

end SchedulerState

end ZLayer.Scheduler
