import ZLayer.Scheduler.NodeState

/-!
# Placement — assigning the replicas of a service to nodes

`place_service_replicas` and what it calls: the filter a node must pass, the ranking of the nodes
that pass it, the reservation of resources on the chosen node, and the all-or-nothing rule of gang
scheduling.  One call is a pass over the replica indices that threads the node states, the registry
of placements and the decisions made so far.

Unicode lower-casing, which the GPU model filter applies to both sides, is the parameter
`lowercase`.
-/

namespace ZLayer.Scheduler

open Lib List

/-! ## Decisions -/

inductive PlacementReason (F : Type)
  | binPacked (nodeUtilization : F)
  | dedicatedNode
  | exclusiveNode
  | labelMatch (matchedLabels : List String)
  | noSuitableNode (reason : String)

structure PlacementDecision (F : Type) where
  containerId : ContainerId
  /-- `none` when no suitable node was found. -/
  nodeId : Option NodeId
  reason : PlacementReason F
  gpuIndices : List UInt32
  role : String

def PlacementDecision.isSuccess {F : Type} (d : PlacementDecision F) : Bool :=
  d.nodeId.isSome

/-- What one placement pass threads through its loop and leaves behind. -/
structure Pass (F : Type) where
  nodes : List (NodeState F)
  placements : PlacementState
  decisions : List (PlacementDecision F)

variable {F : Type} [F64 F]

/-! ## The node filter -/

/-- The node has room for the CPU and memory requests.  A node that reports a zero total never
advertised its specs and always has. -/
def nodeHasCapacity (node : NodeState F) (spec : ServiceSpec F) : Bool :=
  let r := node.resources
  if 0.0 < spec.cpuRequest ∧ 0.0 < r.cpuTotal ∧ r.cpuAvailable < spec.cpuRequest then false
  else if 0 < spec.memRequest ∧ 0 < r.memoryTotal ∧ r.memoryAvailable < spec.memRequest then false
  else true

/-- A node that reports no operating system or no architecture matches every platform. -/
def platformMatches (node : NodeState F) (spec : ServiceSpec F) : Bool :=
  match spec.platform, node.os, node.arch with
  | some target, some os, some arch => os = target.os && arch = target.arch
  | _, _, _ => true

def gpuMatches (lowercase : String → String) (node : NodeState F) (gpu : GpuSpec) : Bool :=
  let r := node.resources
  if r.gpuAvailable < gpu.count then false
  else if gpu.vendor ≠ "" ∧ r.gpuVendor ≠ "" ∧ r.gpuVendor ≠ gpu.vendor then false
  else
    match gpu.model with
    | none => true
    | some model => r.gpuModels.any fun m => Str.containsStr (lowercase m) (lowercase model)

def canPlaceOnNode (lowercase : String → String) (node : NodeState F) (service : String)
    (mode : NodeMode) (selector : Option NodeSelector) (placements : PlacementState)
    (spec : Option (ServiceSpec F)) : Bool :=
  node.healthy &&
  spec.all (platformMatches node) &&
  selector.all node.matchesRequiredLabels &&
  (spec.bind (·.resources.gpu)).all (gpuMatches lowercase node) &&
  match mode with
  | .shared => spec.all (nodeHasCapacity node)
  | .dedicated => !placements.hasServiceOnNode node.id service
  | .exclusive => !placements.hasAnyContainers node.id

/-- A selector without `=` matches nothing. -/
def nodeMatchesPin (node : NodeState F) (selector : String) : Bool :=
  match Str.splitOnce '=' selector with
  | none => false
  | some (k, v) =>
    let key := Str.trim k
    let value := Str.trim v
    if key = "id" then Str.parseU64 value = some node.id
    else node.labels[key]? = some value

def affinityAdmits (affinity : GroupAffinity) (node : NodeState F) : Bool :=
  match affinity with
  | .pin selector => nodeMatchesPin node selector
  | .spread => true
  | .pack => true

/-! ## Ranking -/

/-- `Iterator::max_by` on a non-empty list: of several maximal elements the last one. -/
def maxBy {α : Type} (cmp : α → α → Ordering) (first : α) (rest : List α) : α :=
  rest.foldl (fun best x =>
    match cmp best x with
    | .gt => best
    | _ => x) first

/-- Compare by preferred labels first and by `tie` among equals. -/
def byPreferredLabels (selector : Option NodeSelector)
    (tie : NodeState F → NodeState F → Ordering) (a b : NodeState F) : Ordering :=
  let score (n : NodeState F) := (selector.map n.preferredLabelScore).getD 0
  match compare (score a) (score b) with
  | .eq => tie a b
  | other => other

/-- Free share of the node's GPUs, or of the taken ones for a spreading workload, in percent. -/
def gpuScore (wantsSpread : Bool) (r : NodeResources F) : F :=
  if 0 < r.gpuTotal then
    let ratio : F := F64.ofU64 r.gpuAvailable.toUInt64 / F64.ofU64 r.gpuTotal.toUInt64
    if wantsSpread then (1.0 - ratio) * 100.0 else ratio * 100.0
  else
    0.0

/-- 70% low utilization and 30% GPU availability. -/
def combinedScore (wantsSpread : Bool) (r : NodeResources F) : F :=
  (100.0 - r.utilization) * 0.7 + gpuScore wantsSpread r * 0.3

def cmpUtilization (a b : NodeState F) : Ordering :=
  (F64.partialCmp a.resources.utilization b.resources.utilization).getD .eq

def wantsSpread (spec : Option (ServiceSpec F)) : Bool :=
  (spec.bind (·.resources.gpu)).bind (·.scheduling) = some .spread

/-- How two nodes with equally many preferred labels are ranked in shared mode. -/
def binPackingTie (service : String) (placements : PlacementState)
    (spec : Option (ServiceSpec F)) (affinity : GroupAffinity) (a b : NodeState F) : Ordering :=
  if (spec.bind (·.resources.gpu)).isSome then
    (F64.partialCmp (combinedScore (wantsSpread spec) a.resources)
      (combinedScore (wantsSpread spec) b.resources)).getD .eq
  else
    match affinity with
    | .spread =>
      -- Fewer replicas of this service win, then the emptier node.
      match compare (placements.serviceCountOnNode b.id service)
          (placements.serviceCountOnNode a.id service) with
      | .eq => cmpUtilization b a
      | other => other
    | _ =>
      -- The fuller node wins, then the one with more containers.
      match cmpUtilization a b with
      | .eq => compare (placements.containerCount a.id) (placements.containerCount b.id)
      | other => other

def selectForBinPacking (service : String) (first : NodeState F) (rest : List (NodeState F))
    (placements : PlacementState) (selector : Option NodeSelector)
    (spec : Option (ServiceSpec F)) (affinity : GroupAffinity) : NodeState F :=
  maxBy (byPreferredLabels selector (binPackingTie service placements spec affinity)) first rest

def selectForIsolation (first : NodeState F) (rest : List (NodeState F))
    (placements : PlacementState) (selector : Option NodeSelector) : NodeState F :=
  maxBy (byPreferredLabels selector fun a b =>
    compare (placements.containerCount b.id) (placements.containerCount a.id)) first rest

/-! ## The pass -/

def noSuitableNodeReason (service : String) (spec : ServiceSpec F) (nodes : List (NodeState F)) :
    String :=
  let unmatched : Option TargetPlatform := spec.platform.filter fun target =>
    !nodes.any fun n => n.os = some target.os && n.arch = some target.arch
  match unmatched with
  | some target => "no agent matches required platform " ++ target.display
  | none =>
    let cpu := spec.cpuRequest
    let mem := spec.memRequest
    let anyCapacity := nodes.any fun n =>
      let r := n.resources
      (cpu ≤ 0.0 || r.cpuTotal ≤ 0.0 || cpu ≤ r.cpuAvailable) &&
        (mem = 0 || r.memoryTotal = 0 || mem ≤ r.memoryAvailable)
    if (0.0 < cpu ∨ 0 < mem) ∧ ¬anyCapacity then
      "no agent has sufficient capacity (requested cpu " ++ F64.display cpu ++ ", memory " ++
        toString mem ++ " bytes)"
    else
      "No node available for service '" ++ service ++ "' with mode " ++ spec.nodeMode.debug

def updateNode (id : NodeId) (f : NodeState F → NodeState F) :
    List (NodeState F) → List (NodeState F)
  | [] => []
  | n :: rest => if n.id = id then f n :: rest else n :: updateNode id f rest

def reserveCpuMem (cpu : F) (mem : UInt64) (r : NodeResources F) : NodeResources F :=
  { r with
    cpuUsed := if 0.0 < cpu then r.cpuUsed + cpu else r.cpuUsed
    memoryUsed := if 0 < mem then saturatingAdd r.memoryUsed mem else r.memoryUsed }

def reserveGpus (count : UInt32) (sharing : Option GpuSharingMode) (r : NodeResources F) :
    List UInt32 × NodeResources F :=
  if 0 < count then (r.allocateGpus count sharing).map (·.getD []) id else ([], r)

def reserveNodeResources (nodes : List (NodeState F)) (id : NodeId) (cpu : F) (mem : UInt64)
    (gpuCount : UInt32) (sharing : Option GpuSharingMode) :
    List UInt32 × List (NodeState F) :=
  match nodes.find? fun n => n.id = id with
  | none => ([], nodes)
  | some node =>
    let (gpuIndices, resources) :=
      reserveGpus gpuCount sharing (reserveCpuMem cpu mem node.resources)
    (gpuIndices, updateNode id (fun n => { n with resources := resources }) nodes)

namespace ServiceSpec

/-- No affinity means concentrating. -/
def effectiveAffinity (spec : ServiceSpec F) : GroupAffinity :=
  spec.affinity.getD .pack

def cpuReserved (spec : ServiceSpec F) : F :=
  F64.max (spec.resources.cpu.getD 0.0) 0.0

def gpuCount (spec : ServiceSpec F) : UInt32 :=
  (spec.resources.gpu.map (·.count)).getD 0

def gpuSharing (spec : ServiceSpec F) : Option GpuSharingMode :=
  spec.resources.gpu.bind (·.sharing)

def isGang (spec : ServiceSpec F) : Bool :=
  spec.resources.gpu.bind (·.scheduling) = some .gang

end ServiceSpec

variable (lowercase : String → String) (service : String) (spec : ServiceSpec F)

def suitableNodes (nodes : List (NodeState F)) (placements : PlacementState) : List (NodeState F) :=
  (nodes.filter fun n =>
    canPlaceOnNode lowercase n service spec.nodeMode spec.nodeSelector placements
      (some spec)).filter
      (affinityAdmits spec.effectiveAffinity)

def selectNode (placements : PlacementState) (first : NodeState F) (rest : List (NodeState F)) :
    NodeState F :=
  match spec.nodeMode with
  | .shared =>
    selectForBinPacking service first rest placements spec.nodeSelector (some spec)
      spec.effectiveAffinity
  | _ => selectForIsolation first rest placements spec.nodeSelector

def successReason (selected : NodeState F) : PlacementReason F :=
  match spec.nodeMode with
  | .shared => .binPacked selected.resources.utilization
  | .dedicated => .dedicatedNode
  | .exclusive => .exclusiveNode

def unplacedDecision (nodes : List (NodeState F)) (replica : UInt32) : PlacementDecision F :=
  { containerId :=
      { service := service
        replica := replica }
    nodeId := none
    reason := .noSuitableNode (noSuitableNodeReason service spec nodes)
    gpuIndices := []
    role := "default" }

/-- Put a replica on the selected node: record it and reserve its resources, so that the next
replica of the pass sees the reduced headroom. -/
def placeOn (pass : Pass F) (replica : UInt32) (selected : NodeState F) : Pass F :=
  let container : ContainerId :=
    { service := service
      replica := replica }
  let (gpuIndices, nodes) :=
    reserveNodeResources pass.nodes selected.id spec.cpuReserved spec.memRequest spec.gpuCount
      spec.gpuSharing
  { nodes := nodes
    placements := pass.placements.place container selected.id
    decisions := pass.decisions ++
      [{ containerId := container
         nodeId := some selected.id
         reason := successReason spec selected
         gpuIndices := gpuIndices
         role := "default" }] }

def placeReplica (pass : Pass F) (replica : UInt32) : Pass F :=
  match suitableNodes lowercase service spec pass.nodes pass.placements with
  | [] =>
    { pass with
      decisions := pass.decisions ++ [unplacedDecision service spec pass.nodes replica] }
  | first :: rest =>
    placeOn service spec pass replica (selectNode service spec pass.placements first rest)

def placeLoop (replicas : UInt32) (nodes : List (NodeState F)) (placements : PlacementState) :
    Pass F :=
  (List.range replicas.toNat).foldl
    (fun pass i => placeReplica lowercase service spec pass (UInt32.ofNat i))
    { nodes := nodes
      placements := placements
      decisions := [] }

/-- Take one placed replica of a failed gang off its node.  All containers of the service on that
node leave the registry. -/
def rollbackDecision (state : List (NodeState F) × PlacementState) (d : PlacementDecision F) :
    List (NodeState F) × PlacementState :=
  match d.nodeId with
  | none => state
  | some id =>
    let freeCpuMem (n : NodeState F) : NodeState F :=
      if 0.0 < spec.cpuReserved ∨ 0 < spec.memRequest then
        { n with
          resources :=
            { n.resources with
              cpuUsed := F64.max (n.resources.cpuUsed - spec.cpuReserved) 0.0
              memoryUsed := saturatingSub n.resources.memoryUsed spec.memRequest } }
      else
        n
    let freeGpus (n : NodeState F) : NodeState F :=
      if d.gpuIndices.isEmpty then n
      else
        let slots := NodeResources.updateGpus GpuAllocation.giveBack d.gpuIndices
          n.resources.gpuAllocated
        { n with
          resources :=
            { n.resources with
              gpuAllocated := slots
              gpuUsed := NodeResources.countUsed slots } }
    (updateNode id (fun n => freeGpus (freeCpuMem n)) state.1,
      (state.2.removeServiceFromNode id service).1)

def gangRollback (replicas : UInt32) (pass : Pass F) : Pass F :=
  let (nodes, placements) :=
    pass.decisions.foldl (rollbackDecision service spec) (pass.nodes, pass.placements)
  { nodes := nodes
    placements := placements
    decisions := (List.range replicas.toNat).map fun i =>
      { containerId := { service := service, replica := UInt32.ofNat i }
        nodeId := none
        reason := .noSuitableNode ("Gang scheduling: could not place all " ++ toString replicas ++
          " replicas of '" ++ service ++ "'")
        gpuIndices := []
        role := "default" } }

def finalizeGang (replicas : UInt32) (pass : Pass F) : Pass F :=
  if spec.isGang && pass.decisions.any fun d => !d.isSuccess then
    gangRollback service spec replicas pass
  else
    pass

def placeServiceReplicas (replicas : UInt32) (nodes : List (NodeState F))
    (placements : PlacementState) : Pass F :=
  finalizeGang service spec replicas (placeLoop lowercase service spec replicas nodes placements)

/-! ## Replica groups -/

def effectiveSpecForGroup (base : ServiceSpec F) (group : ReplicaGroup F) : ServiceSpec F :=
  { base with
    resources := group.resources.getD base.resources
    affinity := some group.affinity }

def placeGroup (pass : Pass F) (group : ReplicaGroup F) : Pass F :=
  let placed := placeServiceReplicas lowercase service (effectiveSpecForGroup spec group)
    group.count pass.nodes pass.placements
  { placed with
    decisions := pass.decisions ++ placed.decisions.map fun d => { d with role := group.role } }

def placeServiceWithGroups (groups : List (ReplicaGroup F)) (nodes : List (NodeState F))
    (placements : PlacementState) : Pass F :=
  groups.foldl (placeGroup lowercase service spec)
    { nodes := nodes
      placements := placements
      decisions := [] }

/-! ## What a pass does -/

lemma maxBy_mem {α : Type} (cmp : α → α → Ordering) (first : α) (rest : List α) :
    maxBy cmp first rest ∈ first :: rest := by
  induction rest generalizing first with
  | nil => exact mem_singleton.mpr rfl
  | cons x rest ih =>
    -- The running best is one of the two front elements.
    have hbest := ih (match cmp first x with
      | .gt => first
      | _ => x)
    rcases mem_cons.mp hbest with heq | hrest
    · rw [maxBy, foldl_cons]
      rw [maxBy] at heq
      rw [heq]
      cases cmp first x <;> simp
    · exact mem_cons_of_mem _ (mem_cons_of_mem _ hrest)

lemma selectNode_mem (placements : PlacementState) (first : NodeState F)
    (rest : List (NodeState F)) :
    selectNode service spec placements first rest ∈ first :: rest := by
  unfold selectNode
  cases spec.nodeMode with
  | shared | dedicated | exclusive => exact maxBy_mem _ first rest

/-- The node is the best of the suitable ones. -/
def Selected (pass : Pass F) (node : NodeState F) : Prop :=
  ∃ first rest, suitableNodes lowercase service spec pass.nodes pass.placements = first :: rest ∧
    node = selectNode service spec pass.placements first rest

variable {lowercase service spec} in
lemma Selected.mem {pass : Pass F} {node : NodeState F}
    (h : Selected lowercase service spec pass node) :
    node ∈ suitableNodes lowercase service spec pass.nodes pass.placements := by
  rcases h with ⟨first, rest, hsuitable, rfl⟩
  rw [hsuitable]
  exact selectNode_mem service spec pass.placements first rest

/-- A replica is put on the selected node, and only if no node is suitable it stays unplaced. -/
lemma placeReplica_cases (pass : Pass F) (replica : UInt32) :
    (suitableNodes lowercase service spec pass.nodes pass.placements = [] ∧
      placeReplica lowercase service spec pass replica =
        { pass with
          decisions := pass.decisions ++ [unplacedDecision service spec pass.nodes replica] }) ∨
    ∃ node, Selected lowercase service spec pass node ∧
      placeReplica lowercase service spec pass replica =
        placeOn service spec pass replica node := by
  unfold placeReplica Selected
  cases suitableNodes lowercase service spec pass.nodes pass.placements with
  | nil => exact .inl ⟨rfl, rfl⟩
  | cons first rest => exact .inr ⟨_, ⟨first, rest, rfl, rfl⟩, rfl⟩

/-- Induction along the loop of a pass. -/
lemma placeLoop_induction {P : ℕ → Pass F → Prop} (replicas : UInt32)
    (nodes : List (NodeState F)) (placements : PlacementState)
    (hstart : P 0 { nodes := nodes, placements := placements, decisions := [] })
    (hstep : ∀ i < replicas.toNat, ∀ pass, P i pass →
      P (i + 1) (placeReplica lowercase service spec pass (UInt32.ofNat i))) :
    P replicas.toNat (placeLoop lowercase service spec replicas nodes placements) := by
  have hstart : ∀ n ≤ replicas.toNat, P n ((List.range n).foldl
      (fun pass i => placeReplica lowercase service spec pass (UInt32.ofNat i))
      { nodes := nodes, placements := placements, decisions := [] }) := by
    intro n
    induction n with
    | zero => exact fun _ => hstart
    | succ n ih =>
      intro hn
      rw [range_succ, foldl_append]
      exact hstep n hn _ (ih (Nat.le_of_succ_le hn))
  exact hstart _ (Nat.le_refl _)

/-- Induction along the loop of a pass, by what becomes of the next replica. -/
lemma placeLoop_rec {P : ℕ → Pass F → Prop} {replicas : UInt32}
    {nodes : List (NodeState F)} {placements : PlacementState}
    (hstart : P 0 { nodes := nodes, placements := placements, decisions := [] })
    (hnone : ∀ i pass, P i pass →
      suitableNodes lowercase service spec pass.nodes pass.placements = [] →
      P (i + 1) { pass with
        decisions := pass.decisions ++
          [unplacedDecision service spec pass.nodes (UInt32.ofNat i)] })
    (hplace : ∀ i < replicas.toNat, ∀ pass, P i pass →
      ∀ m, Selected lowercase service spec pass m →
        P (i + 1) (placeOn service spec pass (UInt32.ofNat i) m)) :
    P replicas.toNat (placeLoop lowercase service spec replicas nodes placements) := by
  refine placeLoop_induction lowercase service spec replicas nodes placements hstart ?_
  intro i hi pass hpass
  rcases placeReplica_cases lowercase service spec pass (UInt32.ofNat i) with
    ⟨hempty, heq⟩ | ⟨m, hm, heq⟩
  · rw [heq]
    exact hnone i pass hpass hempty
  · rw [heq]
    exact hplace i hi pass hpass m hm

/-- A pass is its loop, or the rollback of a loop that left a replica of a gang unplaced. -/
lemma placeServiceReplicas_cases (replicas : UInt32) (nodes : List (NodeState F))
    (placements : PlacementState) :
    placeServiceReplicas lowercase service spec replicas nodes placements =
        placeLoop lowercase service spec replicas nodes placements ∨
      (spec.isGang = true ∧
        ∃ d ∈ (placeLoop lowercase service spec replicas nodes placements).decisions,
          d.nodeId = none) ∧
      placeServiceReplicas lowercase service spec replicas nodes placements =
        gangRollback service spec replicas
          (placeLoop lowercase service spec replicas nodes placements) := by
  unfold placeServiceReplicas finalizeGang
  split
  next hfails =>
    obtain ⟨hgang, hany⟩ := Bool.and_eq_true _ _ ▸ hfails
    obtain ⟨d, hd, hnone⟩ := any_eq_true.mp hany
    refine .inr ⟨⟨hgang, d, hd, ?_⟩, rfl⟩
    simpa [PlacementDecision.isSuccess] using hnone
  · exact .inl rfl

/-- A rollback changes the registry by removing the service from nodes only. -/
lemma gangRollback_induction {I : PlacementState → Prop} (replicas : UInt32) (pass : Pass F)
    (hremove : ∀ (p : PlacementState) (id : NodeId), I p → I (p.removeServiceFromNode id service).1)
    (h : I pass.placements) : I (gangRollback service spec replicas pass).placements := by
  have hstep : ∀ (state : List (NodeState F) × PlacementState) (d : PlacementDecision F),
      I state.2 → I (rollbackDecision service spec state d).2 := by
    intro state d hstate
    unfold rollbackDecision
    cases d.nodeId with
    | none => exact hstate
    | some id => exact hremove state.2 id hstate
  have hfold : I (pass.decisions.foldl (rollbackDecision service spec)
      (pass.nodes, pass.placements)).2 :=
    List.foldlRecOn (motive := fun state => I state.2) pass.decisions _ h
      fun state hstate d _ => hstep state d hstate
  exact hfold

/-! ## The decisions of a pass -/

variable {replicas : UInt32} {d : PlacementDecision F}

lemma nodeId_of_mem_gangRollback {pass : Pass F}
    (hd : d ∈ (gangRollback service spec replicas pass).decisions) : d.nodeId = none := by
  rcases mem_map.mp hd with ⟨i, -, rfl⟩
  rfl

lemma length_decisions_placeServiceReplicas (replicas : UInt32) (nodes : List (NodeState F))
    (placements : PlacementState) :
    (placeServiceReplicas lowercase service spec replicas nodes placements).decisions.length =
      replicas.toNat := by
  rcases placeServiceReplicas_cases lowercase service spec replicas nodes placements with
    heq | ⟨-, heq⟩
  · rw [heq]
    refine placeLoop_rec lowercase service spec
      (P := fun i pass => pass.decisions.length = i) rfl ?_ ?_
    · intro i pass hlen _
      simp [hlen]
    · intro i _ pass hlen m _
      simp [placeOn, hlen]
  · simp [heq, gangRollback]

omit [F64 F] in
lemma ids_updateNode (id : NodeId) {f : NodeState F → NodeState F} (hf : ∀ n, (f n).id = n.id)
    (nodes : List (NodeState F)) :
    (updateNode id f nodes).map (·.id) = nodes.map (·.id) := by
  induction nodes with
  | nil => rfl
  | cons n rest ih =>
    by_cases hn : n.id = id
    · simp [updateNode, hn, hf]
    · simp [updateNode, hn, ih]

lemma ids_reserveNodeResources (nodes : List (NodeState F)) (id : NodeId) (cpu : F)
    (mem : UInt64) (gpuCount : UInt32) (sharing : Option GpuSharingMode) :
    (reserveNodeResources nodes id cpu mem gpuCount sharing).2.map (·.id) = nodes.map (·.id) := by
  unfold reserveNodeResources
  cases nodes.find? fun n => n.id = id with
  | none => rfl
  | some node =>
    refine ids_updateNode id ?_ nodes
    intro n
    rfl

variable {lowercase service spec}

variable {placements : PlacementState} {nodes : List (NodeState F)} {node : NodeState F}

lemma mem_of_mem_suitableNodes
    (h : node ∈ suitableNodes lowercase service spec nodes placements) : node ∈ nodes :=
  (mem_filter.mp (mem_filter.mp h).1).1

/-- Vendor and model of the node's GPUs are what the service asks for. -/
def gpuKindMatches (lowercase : String → String) (node : NodeState F) (gpu : GpuSpec) : Bool :=
  (gpu.vendor = "" || node.resources.gpuVendor = "" || node.resources.gpuVendor = gpu.vendor) &&
    gpu.model.all fun model =>
      node.resources.gpuModels.any fun m => Str.containsStr (lowercase m) (lowercase model)

/-- The part of the node filter that no placement changes. -/
def admits (lowercase : String → String) (spec : ServiceSpec F) (node : NodeState F) : Bool :=
  node.healthy &&
  platformMatches node spec &&
  spec.nodeSelector.all node.matchesRequiredLabels &&
  spec.resources.gpu.all (gpuKindMatches lowercase node) &&
  affinityAdmits spec.effectiveAffinity node

/-- The part of the node filter that depends on the node mode. -/
def ModeAdmits (service : String) (spec : ServiceSpec F) (placements : PlacementState)
    (node : NodeState F) : Prop :=
  match spec.nodeMode with
  | .shared => nodeHasCapacity node spec = true
  | .dedicated => placements.hasServiceOnNode node.id service = false
  | .exclusive => placements.hasAnyContainers node.id = false

omit [F64 F] in
lemma gpuMatches_iff {node : NodeState F} {gpu : GpuSpec} : gpuMatches lowercase node gpu = true ↔
      gpu.count ≤ node.resources.gpuAvailable ∧ gpuKindMatches lowercase node gpu = true := by
  unfold gpuMatches gpuKindMatches
  by_cases hcount : node.resources.gpuAvailable < gpu.count
  · simp [hcount]
  · have hle : gpu.count ≤ node.resources.gpuAvailable := UInt32.not_lt.mp hcount
    simp only [if_neg hcount, hle, true_and]
    split
    · rename_i hvendor
      simp [hvendor]
    · rename_i hvendor
      have hkind : (gpu.vendor = "" || node.resources.gpuVendor = "" ||
          node.resources.gpuVendor = gpu.vendor) = true := by
        simp only [Bool.or_eq_true, decide_eq_true_eq]
        tauto
      rw [hkind, Bool.true_and]
      cases gpu.model <;> rfl

/-- What is known of a node that may take the next replica. -/
structure Suitable (lowercase : String → String) (service : String) (spec : ServiceSpec F)
    (placements : PlacementState) (node : NodeState F) : Prop where
  admits : admits lowercase spec node = true
  gpus : ∀ gpu, spec.resources.gpu = some gpu → gpu.count ≤ node.resources.gpuAvailable
  mode : ModeAdmits service spec placements node

lemma mem_suitableNodes_iff : node ∈ suitableNodes lowercase service spec nodes placements ↔
      node ∈ nodes ∧ Suitable lowercase service spec placements node := by
  have hmode : ModeAdmits service spec placements node ↔ (match spec.nodeMode with
      | .shared => nodeHasCapacity node spec
      | .dedicated => !placements.hasServiceOnNode node.id service
      | .exclusive => !placements.hasAnyContainers node.id) = true := by
    unfold ModeAdmits
    cases spec.nodeMode <;> simp
  have hgpu : spec.resources.gpu.all (gpuMatches lowercase node) = true ↔
      (∀ gpu, spec.resources.gpu = some gpu → gpu.count ≤ node.resources.gpuAvailable) ∧
        spec.resources.gpu.all (gpuKindMatches lowercase node) = true := by
    cases spec.resources.gpu with
    | none => simp
    | some gpu => simp [gpuMatches_iff]
  have hsplit : Suitable lowercase service spec placements node ↔
      admits lowercase spec node = true ∧
      (∀ gpu, spec.resources.gpu = some gpu → gpu.count ≤ node.resources.gpuAvailable) ∧
        ModeAdmits service spec placements node :=
    ⟨fun h => ⟨h.admits, h.gpus, h.mode⟩, fun h => ⟨h.1, h.2.1, h.2.2⟩⟩
  simp only [suitableNodes, mem_filter, canPlaceOnNode, Bool.and_eq_true, Option.all_some,
    Option.bind_some, hsplit, hmode, hgpu, admits]
  tauto

lemma suitable_of_mem (h : node ∈ suitableNodes lowercase service spec nodes placements) :
    Suitable lowercase service spec placements node :=
  (mem_suitableNodes_iff.mp h).2

/-- Dedicated and exclusive mode both avoid the nodes that hold the service. -/
lemma hasServiceOnNode_of_modeAdmits (hmode : spec.nodeMode ≠ .shared)
    (h : ModeAdmits service spec placements node) :
    placements.hasServiceOnNode node.id service = false := by
  unfold ModeAdmits at h
  cases hm : spec.nodeMode with
  | shared => exact absurd hm hmode
  | dedicated => simpa [hm] using h
  | exclusive =>
    have hnone : placements.containersOnNode node.id = [] := by
      simpa [hm, PlacementState.hasAnyContainers] using h
    simp [PlacementState.hasServiceOnNode, hnone]

/-- What holds of every node selected under an invariant of the loop holds of every node a pass
decides for. -/
lemma placed_induction {I : List (NodeState F) → PlacementState → Prop} {Q : NodeId → Prop}
    (hstart : I nodes placements)
    (hstep : ∀ (pass : Pass F) (i : UInt32),
      ∀ node ∈ suitableNodes lowercase service spec pass.nodes pass.placements,
        I pass.nodes pass.placements → Q node.id ∧
          I (placeOn service spec pass i node).nodes
            (placeOn service spec pass i node).placements) :
    ∀ d ∈ (placeServiceReplicas lowercase service spec replicas nodes placements).decisions,
      ∀ id, d.nodeId = some id → Q id := by
  have hloop : ∀ d ∈ (placeLoop lowercase service spec replicas nodes placements).decisions,
      ∀ id, d.nodeId = some id → Q id := by
    refine (placeLoop_rec lowercase service spec
      (P := fun _ pass => I pass.nodes pass.placements ∧
        ∀ d ∈ pass.decisions, ∀ id, d.nodeId = some id → Q id)
      ⟨hstart, fun d hd => absurd hd not_mem_nil⟩ ?_ ?_).2
    · rintro i pass ⟨hI, hdec⟩ -
      refine ⟨hI, fun d hd id hid => ?_⟩
      rcases mem_append.mp hd with hold | hnew
      · exact hdec d hold id hid
      -- the decision for an unplaced replica names no node
      · rw [mem_singleton.mp hnew] at hid
        cases hid
    · rintro i - pass ⟨hI, hdec⟩ node hnode
      obtain ⟨hQ, hI'⟩ := hstep pass (UInt32.ofNat i) node hnode.mem hI
      refine ⟨hI', fun d hd id hid => ?_⟩
      rcases mem_append.mp hd with hold | hnew
      · exact hdec d hold id hid
      · rw [mem_singleton.mp hnew] at hid
        rwa [← Option.some.inj hid]
  intro d hd id hid
  rcases placeServiceReplicas_cases lowercase service spec replicas nodes placements with
    heq | ⟨-, heq⟩
  · exact hloop d (heq ▸ hd) id hid
  · rw [heq] at hd
    rw [nodeId_of_mem_gangRollback service spec hd] at hid
    cases hid

lemma nodeId_mem_of_mem_decisions {id : NodeId}
    (hd : d ∈ (placeServiceReplicas lowercase service spec replicas nodes placements).decisions)
    (hid : d.nodeId = some id) : id ∈ nodes.map (·.id) := by
  refine placed_induction (I := fun current _ => current.map (·.id) = nodes.map (·.id)) rfl ?_
    d hd id hid
  intro pass i node hnode hids
  refine ⟨?_, (ids_reserveNodeResources _ _ _ _ _ _).trans hids⟩
  rw [← hids]
  exact mem_map.mpr ⟨node, mem_of_mem_suitableNodes hnode, rfl⟩

end ZLayer.Scheduler
