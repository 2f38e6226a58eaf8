import ZLayer.Lib.Tally
import ZLayer.Scheduler.Placement

/-!
# Scaling — the scheduler's scaling, registration and node-death handling

The leader turns a scaling decision into scale requests: it places the replicas on the ready nodes
and tells every node of the assignment how many it shall run.  The requests sent so far are kept in
order, which is what the agents have been told.

A request that fails is only logged, so the answers do not matter; an agent that refuses a workload
and asks for another node (`reroute_to_os`) is outside this model.  What the environment decides is
a `Readings` value: leadership, the clock, the order in which hash maps are iterated and whether a
Raft proposal is refused.
-/

namespace ZLayer.Scheduler

open Lib List

variable {F : Type} [F64 F]

/-! ## State -/

inductive ScalingDecision
  | scaleUp (fromReplicas toReplicas : UInt32) (reason : String)
  | scaleDown (fromReplicas toReplicas : UInt32) (reason : String)
  | noChange (reason : String)
  | blocked (reason : String)
  deriving DecidableEq

def ScalingDecision.targetReplicas : ScalingDecision → Option UInt32
  | .scaleUp _ target _ => some target
  | .scaleDown _ target _ => some target
  | _ => none

structure ServiceScaleState where
  currentReplicas : UInt32
  lastScaleTime : Option Nat
  deriving DecidableEq

inductive SchedulerError
  | serviceNotFound (name : String)
  | raft (message : String)
  | notLeader
  deriving DecidableEq, Repr

structure ScaleDispatch (F : Type) where
  node : NodeId
  service : String
  replicas : UInt32
  spec : Option (ServiceSpec F)

structure SchedulerState (F : Type) where
  /-- The node this scheduler runs on; the local agent is its agent. -/
  nodeId : NodeId
  /-- The replicated state, absent in standalone mode. -/
  raft : Option ClusterState
  autoscaler : HashMap String ServiceScaleState
  placementState : PlacementState
  serviceSpecs : HashMap String (ServiceSpec F)
  /-- The requests sent so far, oldest first. -/
  dispatched : List (ScaleDispatch F)

/-- What one call learns from its environment. -/
structure Readings where
  now : Nat
  isLeader : Bool
  nodeOrder : HashMap.IterOrder NodeId NodeInfo
  dispatchOrder : HashMap.IterOrder NodeId (List ContainerId)
  /-- The error of the proposal that records the assignment, if it is refused. -/
  assignmentRefused : Option String
  /-- The error of the last proposal of the call, if it is refused. -/
  eventRefused : Option String

/-! ## Nodes and placement -/

/-- The placement view of a registered node; all its GPUs count as free. -/
def nodeInfoToNodeState (n : NodeInfo) : NodeState F :=
  { id := n.nodeId
    address := n.advertiseAddr
    labels := n.labels
    resources :=
      { NodeResources.new (F64.ofBits n.cpuTotal) n.memoryTotal with
        cpuUsed := F64.ofBits n.cpuUsed
        memoryUsed := n.memoryUsed
        gpuTotal := UInt32.ofNat n.gpus.length
        gpuAllocated := replicate (UInt32.ofNat n.gpus.length).toNat .free
        gpuModels := n.gpus.map (·.model)
        gpuVendor := (n.gpus.head?.map (·.vendor)).getD "" }
    healthy := true
    os := n.os
    arch := n.arch }

def clusterNodesToNodeStates (order : HashMap.IterOrder NodeId NodeInfo)
    (nodes : HashMap NodeId NodeInfo) : List (NodeState F) :=
  (((order.list nodes).map Prod.snd).filter fun n => n.status = "ready").map nodeInfoToNodeState

lemma ids_clusterNodesToNodeStates_nodup (order : HashMap.IterOrder NodeId NodeInfo)
    {cluster : ClusterState} (hkeyed : NodesKeyed cluster) :
    ((clusterNodesToNodeStates order cluster.nodes : List (NodeState F)).map (·.id)).Nodup := by
  have hids : (clusterNodesToNodeStates order cluster.nodes : List (NodeState F)).map (·.id) =
      (((order.list cluster.nodes).map Prod.snd).filter fun n => n.status = "ready").map
        (·.nodeId) := by
    rw [clusterNodesToNodeStates, map_map]
    rfl
  have hkeys : ((order.list cluster.nodes).map Prod.snd).map (·.nodeId) =
      (order.list cluster.nodes).map Prod.fst := by
    rw [map_map]
    refine map_congr_left ?_
    rintro ⟨id, n⟩ hentry
    exact hkeyed id n ((order.mem_list _).mp hentry)
  rw [hids]
  refine Nodup.sublist (filter_sublist.map _) ?_
  rw [hkeys]
  exact order.keys_nodup _

/-- The pass `compute_placement` makes; a service without a specification gets the default one. -/
def placementPass (lowercase : String → String) (service : String) (desired : UInt32)
    (nodes : List (NodeState F)) (placements : PlacementState) (spec : Option (ServiceSpec F)) :
    Pass F :=
  placeServiceReplicas lowercase service (spec.getD .default) desired nodes placements

def placedPairs (decisions : List (PlacementDecision F)) : List (NodeId × ContainerId) :=
  decisions.filterMap fun d => d.nodeId.map fun id => (id, d.containerId)

def computePlacement (lowercase : String → String) (service : String) (desired : UInt32)
    (nodes : List (NodeState F)) (placements : PlacementState) (spec : Option (ServiceSpec F)) :
    HashMap NodeId (List ContainerId) × PlacementState :=
  let pass := placementPass lowercase service desired nodes placements spec
  (HashMap.group (placedPairs pass.decisions), pass.placements)

namespace SchedulerState

/-! ## Dispatching -/

/-- Propose a command; a refused one changes nothing. -/
def propose (now : Nat) (refused : Option String) (req : Request) (s : SchedulerState F) :
    SchedulerState F × Except SchedulerError Unit :=
  match refused with
  | some e => (s, .error (.raft ("Failed to propose: " ++ e)))
  | none => ({ s with raft := s.raft.map fun cluster => (cluster.apply now req).1 }, .ok ())

def executeScalingOnAgent (service : String) (replicas : UInt32) (s : SchedulerState F) :
    SchedulerState F :=
  { s with
    dispatched := s.dispatched ++
      [{ node := s.nodeId
         service := service
         replicas := replicas
         spec := s.serviceSpecs[service]? }] }

/-- The requests for an assignment: one for each of its nodes that the cluster knows. -/
def assignmentRequests (cluster : ClusterState) (service : String) (spec : Option (ServiceSpec F))
    (assignments : List (NodeId × List ContainerId)) : List (ScaleDispatch F) :=
  (assignments.filter fun entry => entry.1 ∈ cluster.nodes).map fun entry =>
    { node := entry.1
      service := service
      replicas := UInt32.ofNat entry.2.length
      spec := spec }

def executeDistributedScaling (env : Readings) (service : String)
    (assignments : HashMap NodeId (List ContainerId)) (s : SchedulerState F) :
    SchedulerState F × Except SchedulerError Unit :=
  match s.raft with
  | none => (s, .error .notLeader)
  | some cluster =>
    let entries := env.dispatchOrder.list assignments
    let sent : SchedulerState F :=
      { s with
        dispatched := s.dispatched ++
          assignmentRequests cluster service s.serviceSpecs[service]? entries }
    -- The outcome of this proposal is ignored.
    ((propose env.now env.assignmentRefused
      (.updateServiceAssignment service (entries.map Prod.fst)) sent).1, .ok ())

/-! ## The scheduler's operations -/

/-- `None` if the service is not registered with the autoscaler. -/
def recordScaleAction (now : Nat) (service : String) (replicas : UInt32) (s : SchedulerState F) :
    Option (SchedulerState F) :=
  if service ∈ s.autoscaler then
    some
      { s with
        autoscaler := s.autoscaler.insert service
          { currentReplicas := replicas
            lastScaleTime := some now } }
  else
    none

def buildNodeStates (env : Readings) (s : SchedulerState F) : List (NodeState F) :=
  match s.raft with
  | none => []
  | some cluster => clusterNodesToNodeStates env.nodeOrder cluster.nodes

def scaleTo (lowercase : String → String) (env : Readings) (service : String) (target : UInt32)
    (s : SchedulerState F) : SchedulerState F × Except SchedulerError Unit :=
  let nodes : List (NodeState F) := s.buildNodeStates env
  if s.raft.isSome ∧ 1 < nodes.length then
    let (assignments, placements) :=
      computePlacement lowercase service target nodes s.placementState s.serviceSpecs[service]?
    let placed := { s with placementState := placements }
    if assignments.isEmpty then
      (executeScalingOnAgent service target placed, .ok ())
    else
      executeDistributedScaling env service assignments placed
  else
    (executeScalingOnAgent service target s, .ok ())

/-- The scale event recorded in the Raft log after a scaling. -/
def recordScaleEvent (env : Readings) (service : String) (decision : ScalingDecision)
    (s : SchedulerState F) : SchedulerState F × Except SchedulerError Unit :=
  let record (fromReplicas toReplicas : UInt32) (reason : String) :=
    if s.raft.isSome then
      propose env.now env.eventRefused (.recordScaleEvent service fromReplicas toReplicas reason
        (ClusterState.nowMillis env.now)) s
    else
      (s, .ok ())
  match decision with
  | .scaleUp fromReplicas toReplicas reason => record fromReplicas toReplicas reason
  | .scaleDown fromReplicas toReplicas reason => record fromReplicas toReplicas reason
  | _ => (s, .ok ())

def applyScaling (lowercase : String → String) (env : Readings) (service : String)
    (decision : ScalingDecision) (s : SchedulerState F) :
    SchedulerState F × Except SchedulerError Unit :=
  if s.raft.isSome ∧ ¬env.isLeader then (s, .ok ())
  else
    match decision.targetReplicas with
    | none => (s, .ok ())
    | some target =>
      match recordScaleAction env.now service target s with
      | none => (s, .error (.serviceNotFound service))
      | some recorded =>
        match scaleTo lowercase env service target recorded with
        | (scaled, .error e) => (scaled, .error e)
        | (scaled, .ok ()) => recordScaleEvent env service decision scaled

def scaleBounds : ScaleSpec → UInt32 × UInt32
  | .adaptive min max => (min, max)
  | .fixed replicas => (replicas, replicas)
  | .manual => (0, 0xffffffff)

def registerService (env : Readings) (service : String) (scale : ScaleSpec)
    (initialReplicas : UInt32) (spec : Option (ServiceSpec F)) (s : SchedulerState F) :
    SchedulerState F × Except SchedulerError Unit :=
  let registered : SchedulerState F :=
    { s with
      autoscaler := s.autoscaler.insert service
        { currentReplicas := initialReplicas
          lastScaleTime := none }
      serviceSpecs :=
        match spec with
        | some spec => s.serviceSpecs.insert service spec
        | none => s.serviceSpecs }
  if s.raft.isSome then
    propose env.now env.eventRefused
      (.updateServiceState service
        { currentReplicas := initialReplicas
          desiredReplicas := initialReplicas
          minReplicas := (scaleBounds scale).1
          maxReplicas := (scaleBounds scale).2
          healthStatus := .unknown
          lastScaleTime := none
          assignedNodes := [s.nodeId] }) registered
  else
    (registered, .ok ())

/-! ## Node death -/

/-- The services assigned to a node, each with the replica count the cluster wants. -/
def affectedServices (order : HashMap.IterOrder String ServiceState) (cluster : ClusterState)
    (dead : NodeId) : List (String × UInt32) :=
  ((order.list cluster.services).filter fun entry => entry.2.assignedNodes.contains dead).map
    fun entry => (entry.1, entry.2.desiredReplicas)

/-- Place the replicas of one service anew.  Every service is placed on the node states as they
were when the call started. -/
def rescheduleService (lowercase : String → String) (env : Readings) (dead : NodeId)
    (nodes : List (NodeState F)) (s : SchedulerState F) (service : String) (desired : UInt32) :
    SchedulerState F :=
  let cleared := (s.placementState.removeServiceFromNode dead service).1
  let (assignments, placements) :=
    computePlacement lowercase service desired nodes cleared s.serviceSpecs[service]?
  let placed := { s with placementState := placements }
  if assignments.isEmpty then placed
  -- A failed dispatch is only logged.
  else (executeDistributedScaling env service assignments placed).1

/-- Reschedule the services of a dead node; `envs` are the readings of each service's dispatch. -/
def handleNodeDeath (lowercase : String → String) (env : Readings) (envs : String → Readings)
    (order : HashMap.IterOrder String ServiceState) (dead : NodeId) (s : SchedulerState F) :
    SchedulerState F × Except SchedulerError Unit :=
  match s.raft with
  | none => (s, .error .notLeader)
  | some cluster =>
    let affected := affectedServices order cluster dead
    if affected.isEmpty then (s, .ok ())
    else
      let nodes : List (NodeState F) := s.buildNodeStates env
      if nodes.isEmpty then (s, .ok ())
      else
        (affected.foldl (fun s entry =>
          rescheduleService lowercase (envs entry.1) dead nodes s entry.1 entry.2) s, .ok ())

/-! ## What the operations do -/

omit [F64 F] in
@[simp] lemma dispatched_propose (now : Nat) (refused : Option String) (req : Request)
    (s : SchedulerState F) : (propose now refused req s).1.dispatched = s.dispatched := by
  cases refused <;> rfl

omit [F64 F] in
@[simp] lemma dispatched_recordScaleEvent (env : Readings) (service : String)
    (decision : ScalingDecision) (s : SchedulerState F) :
    (recordScaleEvent env service decision s).1.dispatched = s.dispatched := by
  cases decision with
  | scaleUp | scaleDown =>
    simp only [recordScaleEvent]
    split
    · exact dispatched_propose _ _ _ s
    · rfl
  | noChange | blocked => rfl

def scalingPass (lowercase : String → String) (env : Readings) (service : String)
    (target : UInt32) (s : SchedulerState F) : Pass F :=
  placementPass lowercase service target (s.buildNodeStates env) s.placementState
    s.serviceSpecs[service]?

/-- Replicas are distributed over the cluster and not just given to the local agent. -/
def MultiNode (env : Readings) (s : SchedulerState F) : Prop :=
  s.raft.isSome ∧ 1 < (s.buildNodeStates env : List (NodeState F)).length

instance (env : Readings) (s : SchedulerState F) : Decidable (MultiNode env s) :=
  inferInstanceAs (Decidable (_ ∧ _))

variable {s : SchedulerState F} {env : Readings}

lemma scaleTo_of_multiNode (lowercase : String → String) (service : String) (target : UInt32)
    (h : MultiNode env s) :
    scaleTo lowercase env service target s =
      let pass := scalingPass lowercase env service target s
      let assignments := HashMap.group (placedPairs pass.decisions)
      if assignments.isEmpty then
        (executeScalingOnAgent service target { s with placementState := pass.placements }, .ok ())
      else
        executeDistributedScaling env service assignments
          { s with placementState := pass.placements } :=
  if_pos h

lemma scaleTo_of_not_multiNode (lowercase : String → String) (service : String)
    (target : UInt32) (h : ¬MultiNode env s) :
    scaleTo lowercase env service target s = (executeScalingOnAgent service target s, .ok ()) :=
  if_neg h

/-- Scaling a registered service does not fail: only a scheduler without Raft could. -/
lemma scaleTo_ok (lowercase : String → String) (env : Readings) (service : String)
    (target : UInt32) (s : SchedulerState F) :
    (scaleTo lowercase env service target s).2 = .ok () := by
  by_cases hmulti : MultiNode env s
  · obtain ⟨cluster, hraft⟩ := Option.isSome_iff_exists.mp hmulti.1
    rw [scaleTo_of_multiNode lowercase service target hmulti]
    simp only
    split
    · rfl
    · simp only [executeDistributedScaling, hraft]
  · rw [scaleTo_of_not_multiNode lowercase service target hmulti]

def withAction (now : Nat) (service : String) (target : UInt32) (s : SchedulerState F) :
    SchedulerState F :=
  { s with
    autoscaler := s.autoscaler.insert service
      { currentReplicas := target
        lastScaleTime := some now } }

variable {decision : ScalingDecision} {service : String}

/-- A call with a target for a registered service on the leader goes all the way. -/
lemma applyScaling_of_target (lowercase : String → String) {target : UInt32}
    (hleader : s.raft.isSome → env.isLeader = true)
    (htarget : decision.targetReplicas = some target) (hreg : service ∈ s.autoscaler) :
    applyScaling lowercase env service decision s =
      recordScaleEvent env service decision
        (scaleTo lowercase env service target (withAction env.now service target s)).1 := by
  have hlead : ¬(s.raft.isSome ∧ ¬env.isLeader) := fun h => h.2 (hleader h.1)
  have haction : recordScaleAction env.now service target s =
      some (withAction env.now service target s) := by
    simp only [recordScaleAction, if_pos hreg, withAction]
  have hok := scaleTo_ok lowercase env service target (withAction env.now service target s)
  unfold applyScaling
  simp only [if_neg hlead, htarget, haction]
  cases hscale : scaleTo lowercase env service target (withAction env.now service target s) with
  | mk scaled outcome =>
    rw [hscale] at hok
    simp only [show outcome = .ok () from hok]

/-- Every other call leaves the scheduler as it is. -/
lemma applyScaling_of_not {lowercase : String → String}
    (h : ¬((s.raft.isSome → env.isLeader = true) ∧ decision.targetReplicas ≠ none ∧
      service ∈ s.autoscaler)) :
    (applyScaling lowercase env service decision s).1 = s := by
  unfold applyScaling
  by_cases hlead : s.raft.isSome ∧ ¬env.isLeader
  · simp only [if_pos hlead]
  · simp only [if_neg hlead]
    cases htarget : decision.targetReplicas with
    | none => rfl
    | some target =>
      have hreg : service ∉ s.autoscaler := by
        intro hreg
        refine h ⟨?_, by simp [htarget], hreg⟩
        intro hraft
        by_contra hnot
        exact hlead ⟨hraft, by simpa using hnot⟩
      simp only [recordScaleAction, if_neg hreg]

/-! ### The replicated state -/

/-- The commands a scaling of `service` proposes. -/
inductive ProposedFor (service : String) : Request → Prop
  | assignment (nodeIds : List NodeId) (h : nodeIds ≠ []) :
      ProposedFor service (.updateServiceAssignment service nodeIds)
  | event (fromReplicas toReplicas : UInt32) (reason : String) (timestamp : UInt64) :
      ProposedFor service (.recordScaleEvent service fromReplicas toReplicas reason timestamp)

section Raft

variable {Q : Option ClusterState → Prop}

omit [F64 F] in
lemma raft_propose (now : Nat) (refused : Option String) {req : Request}
    (hreq : ∀ now raft, Q raft → Q (raft.map fun cluster => (cluster.apply now req).1))
    {s : SchedulerState F} (h : Q s.raft) : Q (propose now refused req s).1.raft := by
  cases refused with
  | some e => exact h
  | none => exact hreq now s.raft h

variable {service : String} (hQ : ∀ now raft req, ProposedFor service req → Q raft →
  Q (raft.map fun cluster => (cluster.apply now req).1))

include hQ

omit [F64 F] in
lemma raft_executeDistributedScaling (env : Readings)
    {assignments : HashMap NodeId (List ContainerId)} (hne : assignments.isEmpty = false)
    {s : SchedulerState F} (h : Q s.raft) :
    Q (executeDistributedScaling env service assignments s).1.raft := by
  -- A non-empty assignment names at least one node.
  have hids : (env.dispatchOrder.list assignments).map Prod.fst ≠ [] := by
    intro hnil
    refine Std.ExtTreeMap.isEmpty_eq_false_iff.mp hne (Std.ExtTreeMap.ext_getElem? fun k => ?_)
    rw [Std.ExtTreeMap.getElem?_empty]
    by_contra hsome
    obtain ⟨v, hv⟩ := Option.ne_none_iff_exists'.mp hsome
    have hmem := (env.dispatchOrder.mem_list assignments).mpr hv
    rw [map_eq_nil_iff.mp hnil] at hmem
    cases hmem
  unfold executeDistributedScaling
  split
  · exact h
  · exact raft_propose _ _ (fun now raft hr => hQ now raft _ (.assignment _ hids) hr) h

variable {s : SchedulerState F}

lemma raft_scaleTo (lowercase : String → String) (env : Readings) (target : UInt32)
    (h : Q s.raft) : Q (scaleTo lowercase env service target s).1.raft := by
  by_cases hmulti : MultiNode env s
  · rw [scaleTo_of_multiNode lowercase service target hmulti]
    simp only
    split
    · exact h
    · rename_i hne
      exact raft_executeDistributedScaling hQ env (Bool.not_eq_true _ ▸ hne) h
  · rw [scaleTo_of_not_multiNode lowercase service target hmulti]
    exact h

omit [F64 F] in
lemma raft_recordScaleEvent (env : Readings) (decision : ScalingDecision)
    {s : SchedulerState F} (h : Q s.raft) :
    Q (recordScaleEvent env service decision s).1.raft := by
  cases decision with
  | scaleUp | scaleDown =>
    simp only [recordScaleEvent]
    split
    · exact raft_propose _ _ (fun now raft hr => hQ now raft _ (.event _ _ _ _) hr) h
    · exact h
  | noChange | blocked => exact h

lemma raft_applyScaling (lowercase : String → String) (env : Readings)
    (decision : ScalingDecision) (h : Q s.raft) :
    Q (applyScaling lowercase env service decision s).1.raft := by
  by_cases hcall : (s.raft.isSome → env.isLeader = true) ∧ decision.targetReplicas ≠ none ∧
      service ∈ s.autoscaler
  · obtain ⟨target, htarget⟩ := Option.ne_none_iff_exists'.mp hcall.2.1
    rw [applyScaling_of_target lowercase hcall.1 htarget hcall.2.2]
    exact raft_recordScaleEvent hQ env decision (raft_scaleTo hQ lowercase env target h)
  · rw [applyScaling_of_not hcall]
    exact h

end Raft

/-! ## Runs -/

def initial (nodeId : NodeId) : SchedulerState F :=
  { nodeId := nodeId
    raft := some .default
    autoscaler := ∅
    placementState := .empty
    serviceSpecs := ∅
    dispatched := [] }

/-- What happens to a scheduler: its own operations, and commands other parties commit to the
replicated state. -/
inductive Event (F : Type)
  | register (env : Readings) (service : String) (scale : ScaleSpec) (initialReplicas : UInt32)
      (spec : Option (ServiceSpec F))
  | scale (env : Readings) (service : String) (decision : ScalingDecision)
  | command (now : Nat) (req : Request)

def step (lowercase : String → String) (s : SchedulerState F) : Event F → SchedulerState F
  | .register env service scale initialReplicas spec =>
    (registerService env service scale initialReplicas spec s).1
  | .scale env service decision => (applyScaling lowercase env service decision s).1
  | .command now req => { s with raft := s.raft.map fun cluster => (cluster.apply now req).1 }

/-- What every command of the replicated state preserves, every step of the scheduler preserves. -/
lemma raft_step {Q : Option ClusterState → Prop}
    (hQ : ∀ now raft req, Q raft → Q (raft.map fun cluster => (cluster.apply now req).1))
    (lowercase : String → String) (e : Event F) (h : Q s.raft) :
    Q (step lowercase s e).raft := by
  cases e with
  | register env service scale initialReplicas spec =>
    simp only [step, registerService]
    split
    · exact raft_propose _ _ (fun now raft hr => hQ now raft _ hr) h
    · exact h
  | scale env service decision =>
    exact raft_applyScaling (fun now raft req _ hr => hQ now raft req hr) lowercase env decision h
  | command now req => exact hQ now s.raft req h

/-! ## A calm environment -/

def calmReadings : Readings :=
  { now := 0
    isLeader := true
    nodeOrder := .byKey
    dispatchOrder := .byKey
    assignmentRefused := none
    eventRefused := none }

def plainNode (id : NodeId) : NodeRegistration :=
  { nodeId := id
    address := "10.0.0.1:9000"
    wgPublicKey := ""
    overlayIp := ""
    overlayPort := 0
    advertiseAddr := "10.0.0.1"
    apiPort := 3669
    cpuTotal := 0
    memoryTotal := 0
    diskTotal := 0
    gpus := []
    mode := "full"
    os := none
    arch := none
    sliceCidr := ""
    labels := ∅ }

end SchedulerState

end ZLayer.Scheduler
