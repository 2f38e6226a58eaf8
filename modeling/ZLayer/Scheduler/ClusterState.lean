import ZLayer.Lib.Machine
import ZLayer.Overlay.SubnetRegistry
import ZLayer.Secrets.RaftSm

/-!
# ClusterState — the scheduler's Raft state machine

The commands of the Raft log, the replicated state and `ClusterState::apply`.  The only ambient
input is the local clock, read by `RegisterNode` and by the secrets operations; it is the argument
`now` (nanoseconds since the Unix epoch).

Floating-point fields (`cpu_total`, GPU utilisation, …) are only stored and copied here, so they
are their IEEE bit patterns.
-/

namespace ZLayer.Scheduler

open Lib Overlay Secrets HashMap

abbrev NodeId := UInt64

abbrev F64Bits := UInt64

abbrev F32Bits := UInt32

/-! ## Records -/

inductive HealthStatus
  | unknown
  | healthy
  | degraded
  | unhealthy
  deriving DecidableEq, Repr

structure ServiceState where
  currentReplicas : UInt32
  desiredReplicas : UInt32
  minReplicas : UInt32
  maxReplicas : UInt32
  healthStatus : HealthStatus
  lastScaleTime : Option UInt64
  assignedNodes : List NodeId
  deriving DecidableEq

structure ScaleEvent where
  serviceName : String
  fromReplicas : UInt32
  toReplicas : UInt32
  reason : String
  timestamp : UInt64
  deriving DecidableEq

structure GpuInfoSummary where
  vendor : String
  model : String
  memoryMb : UInt64
  deriving DecidableEq

structure GpuUtilizationReport where
  index : UInt32
  utilizationPercent : F32Bits
  memoryUsedMb : UInt64
  memoryTotalMb : UInt64
  temperatureC : Option UInt32
  powerDrawW : Option F32Bits
  deriving DecidableEq

inductive OsKind
  | linux
  | windows
  | macos
  deriving DecidableEq, Repr

inductive ArchKind
  | amd64
  | arm64
  deriving DecidableEq, Repr

structure NodeInfo where
  nodeId : NodeId
  address : String
  registeredAt : UInt64
  lastHeartbeat : UInt64
  gpus : List GpuInfoSummary
  wgPublicKey : String
  overlayIp : String
  overlayPort : UInt16
  advertiseAddr : String
  apiPort : UInt16
  cpuTotal : F64Bits
  memoryTotal : UInt64
  diskTotal : UInt64
  cpuUsed : F64Bits
  memoryUsed : UInt64
  diskUsed : UInt64
  gpuUtilization : List GpuUtilizationReport
  status : String
  mode : String
  os : Option OsKind
  arch : Option ArchKind
  sliceCidr : String
  labels : HashMap String String
  deriving DecidableEq

structure WorkerLeaseRecord where
  nodeId : NodeId
  holder : String
  acquiredNs : UInt64
  renewedNs : UInt64
  ttlSecs : UInt32
  /-- Restarts at 1 on every grant, incremented on every effective renewal. -/
  revision : UInt64
  deriving DecidableEq

structure ServiceOverlayEndpoint where
  nodeId : NodeId
  service : String
  wgPublicKey : String
  endpoint : String
  overlayIp : String
  subnet : String
  deriving DecidableEq

def ServiceOverlayEndpoint.mapKey (nodeId : NodeId) (service : String) : String :=
  toString nodeId ++ "/" ++ service

/-! ## Commands -/

structure NodeRegistration where
  nodeId : NodeId
  address : String
  wgPublicKey : String
  overlayIp : String
  overlayPort : UInt16
  advertiseAddr : String
  apiPort : UInt16
  cpuTotal : F64Bits
  memoryTotal : UInt64
  diskTotal : UInt64
  gpus : List GpuInfoSummary
  mode : String
  os : Option OsKind
  arch : Option ArchKind
  sliceCidr : String
  labels : HashMap String String
  deriving DecidableEq

/-- Commands of the Raft log, in the order of the source's enumeration. -/
inductive Request
  | updateServiceState (serviceName : String) (state : ServiceState)
  | recordScaleEvent (serviceName : String) (fromReplicas toReplicas : UInt32) (reason : String)
      (timestamp : UInt64)
  | registerNode (node : NodeRegistration)
  | updateNodeHeartbeat (nodeId : NodeId) (timestamp : UInt64) (cpuUsed : F64Bits)
      (memoryUsed diskUsed : UInt64) (gpuUtilization : List GpuUtilizationReport)
  | updateNodeStatus (nodeId : NodeId) (status : String)
  | deregisterNode (nodeId : NodeId)
  | updateServiceAssignment (serviceName : String) (nodeIds : List NodeId)
  | secrets (op : SecretsRaftOp)
  | updateNodeMode (nodeId : NodeId) (mode : String)
  | grantWorkerLease (nodeId : NodeId) (holder : String) (acquiredNs renewedNs : UInt64)
      (ttlSecs : UInt32)
  | renewWorkerLease (nodeId : NodeId) (renewedNs : UInt64) (ttlSecs : UInt32)
  | expireWorkerLease (nodeId : NodeId)
  | revokeWorkerLease (nodeId : NodeId)
  | assignServiceSubnet (serviceName : String) (nodeId : NodeId)
  | releaseServiceSubnet (serviceName : String) (nodeId : NodeId)
  | setNodeLabels (nodeId : NodeId) (set : HashMap String String) (remove : List String)
  | setServiceOverlayEndpoint (endpoint : ServiceOverlayEndpoint)
  | removeServiceOverlayEndpoint (nodeId : NodeId) (service : String)
  deriving DecidableEq

inductive Response
  | success (data : Option String)
  | error (message : String)
  deriving DecidableEq, Repr

/-! ## The state machine -/

structure ClusterState where
  services : HashMap String ServiceState
  nodes : HashMap NodeId NodeInfo
  /-- The last hundred events, oldest first. -/
  scaleEvents : List ScaleEvent
  secrets : SecretsState
  workerLeases : HashMap NodeId WorkerLeaseRecord
  serviceSubnets : ServiceSubnetRegistry
  /-- Keyed by `ServiceOverlayEndpoint.mapKey`. -/
  serviceOverlayEndpoints : HashMap String ServiceOverlayEndpoint
  deriving DecidableEq

def defaultServiceSubnetRegistry : ServiceSubnetRegistry :=
  { clusterCidr := .v4 { addr := 0x0ac80000, prefixLen := 16, le_max := by decide }
    slicePrefix := 28
    assignments := ∅
    cluster_lt_slice := by decide
    slice_le_max := by decide }

variable (now : Nat)

namespace ClusterState

def default : ClusterState :=
  { services := ∅
    nodes := ∅
    scaleEvents := []
    secrets := .default
    workerLeases := ∅
    serviceSubnets := defaultServiceSubnetRegistry
    serviceOverlayEndpoints := ∅ }

def nowMillis : UInt64 :=
  let millis := now / 1000000
  if millis < 2 ^ 64 then UInt64.ofNat millis else u64Max

variable (s : ClusterState)

def applyRecordScaleEvent (serviceName : String) (fromReplicas toReplicas : UInt32)
    (reason : String) (timestamp : UInt64) :
    ClusterState × Response :=
  let event : ScaleEvent :=
    { serviceName := serviceName
      fromReplicas := fromReplicas
      toReplicas := toReplicas
      reason := reason
      timestamp := timestamp }
  let pushed := s.scaleEvents ++ [event]
  ({ s with
      scaleEvents := if 100 < pushed.length then pushed.drop 1 else pushed
      services := s.services.modify serviceName fun svc =>
        { svc with
          lastScaleTime := some timestamp
          currentReplicas := toReplicas } }, .success none)

def registeredNode (node : NodeRegistration) : NodeInfo :=
  { nodeId := node.nodeId
    address := node.address
    registeredAt := nowMillis now
    lastHeartbeat := nowMillis now
    gpus := node.gpus
    wgPublicKey := node.wgPublicKey
    overlayIp := node.overlayIp
    overlayPort := node.overlayPort
    advertiseAddr := node.advertiseAddr
    apiPort := node.apiPort
    cpuTotal := node.cpuTotal
    memoryTotal := node.memoryTotal
    diskTotal := node.diskTotal
    cpuUsed := 0
    memoryUsed := 0
    diskUsed := 0
    gpuUtilization := []
    status := "ready"
    mode := node.mode
    os := node.os
    arch := node.arch
    sliceCidr := node.sliceCidr
    labels := node.labels }

def applyRegisterNode (node : NodeRegistration) :
    ClusterState × Response :=
  ({ s with nodes := s.nodes.insert node.nodeId (registeredNode now node) }, .success none)

def secretsResponse : Except SecretsError Unit → Response
  | .ok () => .success none
  | .error e => .error ("Secrets apply failed: " ++ e.display)

def applySecrets (op : SecretsRaftOp) : ClusterState × Response :=
  let (secrets, outcome) := s.secrets.apply now op
  ({ s with secrets := secrets }, secretsResponse outcome)

/-- A renewal takes effect only when it moves `renewedNs` forward. -/
def renewLease (renewedNs : UInt64) (ttlSecs : UInt32) (lease : WorkerLeaseRecord) :
    WorkerLeaseRecord :=
  if lease.renewedNs < renewedNs then
    { lease with
      renewedNs := renewedNs
      ttlSecs := ttlSecs
      revision := saturatingSucc lease.revision }
  else
    lease

/-- Insert every entry of `set`, then delete every key of `remove`. -/
def updateLabels (labels set : HashMap String String) (remove : List String) :
    HashMap String String :=
  remove.foldl (fun m k => m.erase k)
    ((entries set).foldl (fun m kv => m.insert kv.1 kv.2) labels)

def apply : Request → ClusterState × Response
  | .updateServiceState serviceName state =>
    ({ s with services := s.services.insert serviceName state }, .success none)
  | .recordScaleEvent serviceName fromReplicas toReplicas reason timestamp =>
    s.applyRecordScaleEvent serviceName fromReplicas toReplicas reason timestamp
  | .registerNode node => s.applyRegisterNode now node
  | .updateNodeHeartbeat nodeId timestamp cpuUsed memoryUsed diskUsed gpuUtilization =>
    ({ s with
        nodes := s.nodes.modify nodeId fun node =>
          { node with
            lastHeartbeat := timestamp
            cpuUsed := cpuUsed
            memoryUsed := memoryUsed
            diskUsed := diskUsed
            gpuUtilization := gpuUtilization } }, .success none)
  | .updateNodeStatus nodeId status =>
    ({ s with nodes := s.nodes.modify nodeId fun node => { node with status := status } },
      .success none)
  | .updateNodeMode nodeId mode =>
    if mode ≠ "full" ∧ mode ≠ "replicate" then
      (s, .error ("Invalid node mode: " ++ mode ++ " (expected \"full\" or \"replicate\")"))
    else if nodeId ∈ s.nodes then
      ({ s with nodes := s.nodes.modify nodeId fun node => { node with mode := mode } },
        .success (some ("node " ++ toString nodeId ++ " mode = " ++ mode)))
    else
      (s, .error ("Node not found: " ++ toString nodeId))
  | .setNodeLabels nodeId set remove =>
    if nodeId ∈ s.nodes then
      ({ s with
          nodes := s.nodes.modify nodeId fun node =>
            { node with labels := updateLabels node.labels set remove } },
        .success (some ("node " ++ toString nodeId ++ " labels updated")))
    else
      (s, .error ("Node not found: " ++ toString nodeId))
  | .deregisterNode nodeId =>
    ({ s with
        nodes := s.nodes.erase nodeId
        services := s.services.map fun _ svc =>
          { svc with assignedNodes := svc.assignedNodes.filter (· != nodeId) } }, .success none)
  | .updateServiceAssignment serviceName nodeIds =>
    if serviceName ∈ s.services then
      ({ s with
          services := s.services.modify serviceName fun svc =>
            { svc with assignedNodes := nodeIds } }, .success none)
    else
      (s, .error ("Service not found: " ++ serviceName))
  | .secrets op => s.applySecrets now op
  | .grantWorkerLease nodeId holder acquiredNs renewedNs ttlSecs =>
    ({ s with
        workerLeases := s.workerLeases.insert nodeId
          { nodeId := nodeId
            holder := holder
            acquiredNs := acquiredNs
            renewedNs := renewedNs
            ttlSecs := ttlSecs
            revision := 1 } }, .success none)
  | .renewWorkerLease nodeId renewedNs ttlSecs =>
    if nodeId ∈ s.workerLeases then
      ({ s with workerLeases := s.workerLeases.modify nodeId (renewLease renewedNs ttlSecs) },
        .success none)
    else
      (s, .error ("RenewWorkerLease: no lease for node " ++ toString nodeId))
  | .expireWorkerLease nodeId =>
    ({ s with workerLeases := s.workerLeases.erase nodeId }, .success none)
  | .revokeWorkerLease nodeId =>
    ({ s with workerLeases := s.workerLeases.erase nodeId }, .success none)
  | .assignServiceSubnet serviceName nodeId =>
    match s.serviceSubnets.assign serviceName (toString nodeId) with
    | (subnets, .ok subnet) =>
      ({ s with serviceSubnets := subnets }, .success (some subnet.toString))
    | (subnets, .error e) =>
      ({ s with serviceSubnets := subnets },
        .error ("AssignServiceSubnet failed for service=" ++ serviceName ++ " node=" ++
          toString nodeId ++ ": " ++ e.display))
  | .releaseServiceSubnet serviceName nodeId =>
    ({ s with serviceSubnets := (s.serviceSubnets.release serviceName (toString nodeId)).1 },
      .success none)
  | .setServiceOverlayEndpoint endpoint =>
    ({ s with
        serviceOverlayEndpoints := s.serviceOverlayEndpoints.insert
          (ServiceOverlayEndpoint.mapKey endpoint.nodeId endpoint.service) endpoint },
      .success none)
  | .removeServiceOverlayEndpoint nodeId service =>
    ({ s with
        serviceOverlayEndpoints := s.serviceOverlayEndpoints.erase
          (ServiceOverlayEndpoint.mapKey nodeId service) }, .success none)

/-- What a command does to the nodes: it registers one, deregisters one, or changes what a node has
reported since its registration. -/
lemma apply_nodes_cases (r : Request) :
    (∃ node, r = .registerNode node) ∨ (∃ id, r = .deregisterNode id) ∨
      ∃ id f, (s.apply now r).1.nodes = s.nodes.modify id f ∧ ∀ node : NodeInfo,
        (f node).nodeId = node.nodeId ∧ (f node).registeredAt = node.registeredAt ∧
          (f node).os = node.os ∧ (f node).arch = node.arch := by
  -- a command that leaves the nodes alone changes nothing of any node
  have hsame : ∃ id f, s.nodes = s.nodes.modify id f ∧ ∀ node : NodeInfo,
      (f node).nodeId = node.nodeId ∧ (f node).registeredAt = node.registeredAt ∧
        (f node).os = node.os ∧ (f node).arch = node.arch := by
    refine ⟨0, id, Std.ExtTreeMap.ext_getElem? fun k => ?_, fun _ => ⟨rfl, rfl, rfl, rfl⟩⟩
    simp [lookup_modify]
  cases r with
  | registerNode node => exact .inl ⟨node, rfl⟩
  | deregisterNode id => exact .inr (.inl ⟨id, rfl⟩)
  | updateNodeHeartbeat id | updateNodeStatus id =>
    exact .inr (.inr ⟨id, _, rfl, fun _ => ⟨rfl, rfl, rfl, rfl⟩⟩)
  | updateNodeMode id | setNodeLabels id =>
    refine .inr (.inr ?_)
    simp only [apply]
    repeat' split
    all_goals first
      | exact hsame
      | exact ⟨id, _, rfl, fun _ => ⟨rfl, rfl, rfl, rfl⟩⟩
  | updateServiceAssignment | renewWorkerLease | assignServiceSubnet =>
    refine .inr (.inr ?_)
    simp only [apply]
    split <;> exact hsame
  | _ => exact .inr (.inr hsame)

/-- The secrets after one command: only a secrets operation touches them. -/
def secretsAfter (now : Nat) (s : SecretsState) : Request → SecretsState
  | .secrets op => (s.apply now op).1
  | _ => s

lemma apply_fst_secrets (r : Request) :
    (s.apply now r).1.secrets = secretsAfter now s.secrets r := by
  cases r with
  | secrets op => rfl
  | assignServiceSubnet serviceName nodeId =>
    simp only [apply, secretsAfter]
    split <;> rfl
  | _ =>
    simp only [apply, applyRecordScaleEvent, applyRegisterNode, secretsAfter]
    try (repeat' split) <;> rfl

/-- Apply a log, the `k`-th command of which sees the clock reading `clock k`. -/
def run (clock : ℕ → Nat) (s : ClusterState) (log : List Request) : ClusterState × List Response :=
  Machine.run apply clock s log

end ClusterState

/-! ## Nodes are registered under their own id -/

def NodesKeyed (cluster : ClusterState) : Prop :=
  ∀ (id : NodeId) (n : NodeInfo), cluster.nodes[id]? = some n → n.nodeId = id

lemma nodesKeyed_default : NodesKeyed .default := by
  intro id n hn
  simp [ClusterState.default] at hn

lemma nodesKeyed_modify {nodes : HashMap NodeId NodeInfo}
    (h : ∀ (id : NodeId) (n : NodeInfo), nodes[id]? = some n → n.nodeId = id) (k : NodeId)
    {f : NodeInfo → NodeInfo} (hf : ∀ n, (f n).nodeId = n.nodeId) :
    ∀ (id : NodeId) (n : NodeInfo), (nodes.modify k f)[id]? = some n → n.nodeId = id := by
  intro id n hn
  rcases of_lookup_modify hn with ⟨-, old, hold, rfl⟩ | ⟨-, hold⟩
  · rw [hf, h id old hold]
  · exact h id n hold

lemma nodesKeyed_apply {cluster : ClusterState} (h : NodesKeyed cluster) (req : Request) :
    NodesKeyed (cluster.apply now req).1 := by
  rcases cluster.apply_nodes_cases now req with ⟨node, rfl⟩ | ⟨_, rfl⟩ | ⟨nodeId, f, hnodes, hf⟩
  · intro id n hn
    rcases of_lookup_insert hn with ⟨rfl, rfl⟩ | ⟨-, hold⟩
    · rfl
    · exact h id n hold
  · exact fun id n hn => h id n (of_lookup_erase hn).2
  · rw [NodesKeyed, hnodes]
    exact nodesKeyed_modify h nodeId fun n => (hf n).1

/-! ## The history of scale events -/

def Request.scaleEvent : Request → Option ScaleEvent
  | .recordScaleEvent serviceName fromReplicas toReplicas reason timestamp =>
    some ⟨serviceName, fromReplicas, toReplicas, reason, timestamp⟩
  | _ => none

lemma scaleEvents_apply {s : ClusterState} (hs : s.scaleEvents.length ≤ 100)
    (r : Request) : (s.apply now r).1.scaleEvents =
      (s.scaleEvents ++ r.scaleEvent.toList).drop
        (s.scaleEvents.length + r.scaleEvent.toList.length - 100) := by
  cases r with
  | recordScaleEvent =>
    simp only [ClusterState.apply, ClusterState.applyRecordScaleEvent, Request.scaleEvent,
      Option.toList_some, List.length_append, List.length_singleton]
    split
    next hfull => rw [show s.scaleEvents.length + 1 - 100 = 1 by omega]
    next hroom => rw [Nat.sub_eq_zero_of_le (not_lt.mp hroom), List.drop_zero]
  | _ =>
    simp only [ClusterState.apply, ClusterState.applyRegisterNode, ClusterState.applySecrets]
    try (repeat' split) <;> simp [Request.scaleEvent, Nat.sub_eq_zero_of_le hs]

/-- Whatever else a log does, the history holds its last hundred scale events, oldest first. -/
theorem scaleEvents_run (clock : ℕ → Nat) (log : List Request) :
    (ClusterState.run clock .default log).1.scaleEvents =
      (log.filterMap Request.scaleEvent).drop
        ((log.filterMap Request.scaleEvent).length - 100) := by
  induction log using List.reverseRecOn with
  | nil => rfl
  | append_singleton log r ih =>
    have hfew : (ClusterState.run clock .default log).1.scaleEvents.length ≤ 100 := by
      rw [ih, List.length_drop]
      omega
    have hlast : [r].filterMap Request.scaleEvent = r.scaleEvent.toList := by
      cases h : r.scaleEvent <;> simp [h]
    rw [List.filterMap_append, hlast, ClusterState.run, Machine.run_append_fst]
    refine (scaleEvents_apply _ hfew r).trans ?_
    -- what an earlier command dropped is dropped here, too
    rw [ih, ← List.drop_append_of_le_length (Nat.sub_le _ _), List.drop_drop, List.length_drop,
      List.length_append]
    congr 1
    omega

end ZLayer.Scheduler
