import ZLayer.Lib.Wire
import ZLayer.Scheduler.ClusterState

/-!
# RaftCodec — commands and states as bytes

Log entries, snapshots and Raft messages carry commands and cluster states in the format postcard2
derives from their `Serialize` and `Deserialize` implementations.  The format is positional: a
record is its fields one after the other, an enumeration the index of its variant followed by the
payload, an option a tag byte and the value, a sequence or a map its length and its elements.
Nothing in the bytes says which field comes next.

Two attributes of the records were written for self-describing formats.  A field with
`skip_serializing_if = "Option::is_none"` is not written when it is empty, but the reader expects
its tag all the same.  An enumeration with `tag = "kind"` writes the name of the variant as a
field, and its reader asks the format what comes next, which this format cannot answer.
-/

namespace ZLayer.Scheduler

open Lib Overlay Secrets Reader Codec HashMap

/-- The primitives of the format.  Numbers, texts and lengths are read back as they were written,
and so are the types of other libraries (`DateTime`, `IpNet`).  A map is written in the order in
which it happens to be iterated. -/
structure Postcard where
  u8 : Codec UInt8
  u16 : Codec UInt16
  u32 : Codec UInt32
  u64 : Codec UInt64
  i64 : Codec Int64
  f32 : Codec F32Bits
  f64 : Codec F64Bits
  string : TightCodec String
  /-- The index of a variant. -/
  variant : TightCodec Nat
  /-- The length of a sequence. -/
  size : SizeCodec
  dateTime : Codec DateTime
  ipNet : Codec IpNet
  order : {α β : Type} → [Ord α] → [Std.TransOrd α] → IterOrder α β

namespace Postcard

variable (p : Postcard)

/-! ## Containers -/

def vec {α : Type} (C : Codec α) : Codec (List α) := C.list p.size

def hashMap {α β : Type} [Ord α] [Std.TransOrd α] [Std.LawfulEqOrd α] [DecidableEq α]
    (K : Codec α) (V : Codec β) : Codec (HashMap α β) :=
  .map p.size p.order K V

def bytes : Codec Bytes := p.vec p.u8

def bytes32 : Codec Bytes32 := p.u8.vector 32

/-! ## Enumerations without payload -/

/-- An enumeration without payload, of the variants in the order of the source. -/
def unitEnum {α : Type} [DecidableEq α] (variants : List α) (hall : ∀ a, a ∈ variants)
    (hnodup : variants.Nodup) : TightCodec α :=
  p.variant.via variants.idxOf (variants[·]?)
    (fun a => List.getElem?_idxOf (hall a))
    (fun h => by
      rcases List.getElem?_eq_some_iff.mp h with ⟨_, rfl⟩
      exact hnodup.idxOf_getElem _ _)

def healthStatus : TightCodec HealthStatus :=
  p.unitEnum [.unknown, .healthy, .degraded, .unhealthy] (fun a => by cases a <;> decide)
    (by decide)

def osKind : TightCodec OsKind :=
  p.unitEnum [.linux, .windows, .macos] (fun a => by cases a <;> decide) (by decide)

def archKind : TightCodec ArchKind :=
  p.unitEnum [.amd64, .arm64] (fun a => by cases a <;> decide) (by decide)

def jwtAlgorithm : TightCodec JwtAlgorithm :=
  p.unitEnum [.hs256, .both, .eddsa] (fun a => by cases a <;> decide) (by decide)

/-! ## Records written in full -/

def serviceState : Codec ServiceState :=
  .record
    (fun s =>
      p.u32.enc s.currentReplicas ++ p.u32.enc s.desiredReplicas ++ p.u32.enc s.minReplicas ++
        p.u32.enc s.maxReplicas ++ p.healthStatus.enc s.healthStatus ++
        p.u64.option.enc s.lastScaleTime ++ (p.vec p.u64).enc s.assignedNodes)
    (return {
      currentReplicas := ← p.u32.dec
      desiredReplicas := ← p.u32.dec
      minReplicas := ← p.u32.dec
      maxReplicas := ← p.u32.dec
      healthStatus := ← p.healthStatus.dec
      lastScaleTime := ← p.u64.option.dec
      assignedNodes := ← (p.vec p.u64).dec })

def scaleEvent : Codec ScaleEvent :=
  .record
    (fun e =>
      p.string.enc e.serviceName ++ p.u32.enc e.fromReplicas ++ p.u32.enc e.toReplicas ++
        p.string.enc e.reason ++ p.u64.enc e.timestamp)
    (return {
      serviceName := ← p.string.dec
      fromReplicas := ← p.u32.dec
      toReplicas := ← p.u32.dec
      reason := ← p.string.dec
      timestamp := ← p.u64.dec })

def gpuInfoSummary : Codec GpuInfoSummary :=
  .record
    (fun g => p.string.enc g.vendor ++ p.string.enc g.model ++ p.u64.enc g.memoryMb)
    (return {
      vendor := ← p.string.dec
      model := ← p.string.dec
      memoryMb := ← p.u64.dec })

def gpuUtilizationReport : Codec GpuUtilizationReport :=
  .record
    (fun g =>
      p.u32.enc g.index ++ p.f32.enc g.utilizationPercent ++ p.u64.enc g.memoryUsedMb ++
        p.u64.enc g.memoryTotalMb ++ p.u32.option.enc g.temperatureC ++
        p.f32.option.enc g.powerDrawW)
    (return {
      index := ← p.u32.dec
      utilizationPercent := ← p.f32.dec
      memoryUsedMb := ← p.u64.dec
      memoryTotalMb := ← p.u64.dec
      temperatureC := ← p.u32.option.dec
      powerDrawW := ← p.f32.option.dec })

def workerLeaseRecord : Codec WorkerLeaseRecord :=
  .record
    (fun l =>
      p.u64.enc l.nodeId ++ p.string.enc l.holder ++ p.u64.enc l.acquiredNs ++
        p.u64.enc l.renewedNs ++ p.u32.enc l.ttlSecs ++ p.u64.enc l.revision)
    (return {
      nodeId := ← p.u64.dec
      holder := ← p.string.dec
      acquiredNs := ← p.u64.dec
      renewedNs := ← p.u64.dec
      ttlSecs := ← p.u32.dec
      revision := ← p.u64.dec })

def serviceOverlayEndpoint : Codec ServiceOverlayEndpoint :=
  .record
    (fun e =>
      p.u64.enc e.nodeId ++ p.string.enc e.service ++ p.string.enc e.wgPublicKey ++
        p.string.enc e.endpoint ++ p.string.enc e.overlayIp ++ p.string.enc e.subnet)
    (return {
      nodeId := ← p.u64.dec
      service := ← p.string.dec
      wgPublicKey := ← p.string.dec
      endpoint := ← p.string.dec
      overlayIp := ← p.string.dec
      subnet := ← p.string.dec })

def nodeIdentity : Codec NodeIdentity :=
  .record
    (fun n =>
      p.string.enc n.nodeId ++ p.bytes32.enc n.secretsPubkey ++ p.string.enc n.wgPubkey ++
        p.dateTime.enc n.joinedAt ++ p.dateTime.option.enc n.revokedAt)
    (return {
      nodeId := ← p.string.dec
      secretsPubkey := ← p.bytes32.dec
      wgPubkey := ← p.string.dec
      joinedAt := ← p.dateTime.dec
      revokedAt := ← p.dateTime.option.dec })

def wrappedDek : Codec WrappedDek :=
  .record
    (fun w =>
      p.u64.enc w.dekGeneration ++ (p.hashMap p.string.toCodec p.bytes).enc w.wraps)
    (return {
      dekGeneration := ← p.u64.dec
      wraps := ← (p.hashMap p.string.toCodec p.bytes).dec })

def secretMetadata : Codec SecretMetadata :=
  .record
    (fun m =>
      p.string.enc m.name ++ p.i64.enc m.createdAt ++ p.i64.enc m.updatedAt ++
        p.u32.enc m.version)
    (return {
      name := ← p.string.dec
      createdAt := ← p.i64.dec
      updatedAt := ← p.i64.dec
      version := ← p.u32.dec })

def trustBundle : Codec TrustBundle :=
  .record
    (fun b =>
      p.u32.enc b.v ++ p.string.enc b.clusterDomain ++ p.string.enc b.caPublicKeyB64 ++
        p.string.enc b.caKid ++ p.string.enc b.generatedAt)
    (return {
      v := ← p.u32.dec
      clusterDomain := ← p.string.dec
      caPublicKeyB64 := ← p.string.dec
      caKid := ← p.string.dec
      generatedAt := ← p.string.dec })

/-! ## Records with fields that may be left out -/

def labels : Codec (HashMap String String) := p.hashMap p.string.toCodec p.string.toCodec

/-- The payload of `RegisterNode`; `os` and `arch` are skipped when empty. -/
def nodeRegistration : Format NodeRegistration :=
  { enc := fun n =>
      p.u64.enc n.nodeId ++ p.string.enc n.address ++ p.string.enc n.wgPublicKey ++
        p.string.enc n.overlayIp ++ p.u16.enc n.overlayPort ++ p.string.enc n.advertiseAddr ++
        p.u16.enc n.apiPort ++ p.f64.enc n.cpuTotal ++ p.u64.enc n.memoryTotal ++
        p.u64.enc n.diskTotal ++ (p.vec p.gpuInfoSummary).enc n.gpus ++ p.string.enc n.mode ++
        p.osKind.skipNone.enc n.os ++ p.archKind.skipNone.enc n.arch ++
        p.string.enc n.sliceCidr ++ p.labels.enc n.labels
    dec := return {
      nodeId := ← p.u64.dec
      address := ← p.string.dec
      wgPublicKey := ← p.string.dec
      overlayIp := ← p.string.dec
      overlayPort := ← p.u16.dec
      advertiseAddr := ← p.string.dec
      apiPort := ← p.u16.dec
      cpuTotal := ← p.f64.dec
      memoryTotal := ← p.u64.dec
      diskTotal := ← p.u64.dec
      gpus := ← (p.vec p.gpuInfoSummary).dec
      mode := ← p.string.dec
      os := ← p.osKind.skipNone.dec
      arch := ← p.archKind.skipNone.dec
      sliceCidr := ← p.string.dec
      labels := ← p.labels.dec } }

/-- As in the registration, `os` and `arch` are skipped when empty. -/
def nodeInfo : Format NodeInfo :=
  { enc := fun n =>
      p.u64.enc n.nodeId ++ p.string.enc n.address ++ p.u64.enc n.registeredAt ++
        p.u64.enc n.lastHeartbeat ++ (p.vec p.gpuInfoSummary).enc n.gpus ++
        p.string.enc n.wgPublicKey ++ p.string.enc n.overlayIp ++ p.u16.enc n.overlayPort ++
        p.string.enc n.advertiseAddr ++ p.u16.enc n.apiPort ++ p.f64.enc n.cpuTotal ++
        p.u64.enc n.memoryTotal ++ p.u64.enc n.diskTotal ++ p.f64.enc n.cpuUsed ++
        p.u64.enc n.memoryUsed ++ p.u64.enc n.diskUsed ++
        (p.vec p.gpuUtilizationReport).enc n.gpuUtilization ++ p.string.enc n.status ++
        p.string.enc n.mode ++ p.osKind.skipNone.enc n.os ++ p.archKind.skipNone.enc n.arch ++
        p.string.enc n.sliceCidr ++ p.labels.enc n.labels
    dec := return {
      nodeId := ← p.u64.dec
      address := ← p.string.dec
      registeredAt := ← p.u64.dec
      lastHeartbeat := ← p.u64.dec
      gpus := ← (p.vec p.gpuInfoSummary).dec
      wgPublicKey := ← p.string.dec
      overlayIp := ← p.string.dec
      overlayPort := ← p.u16.dec
      advertiseAddr := ← p.string.dec
      apiPort := ← p.u16.dec
      cpuTotal := ← p.f64.dec
      memoryTotal := ← p.u64.dec
      diskTotal := ← p.u64.dec
      cpuUsed := ← p.f64.dec
      memoryUsed := ← p.u64.dec
      diskUsed := ← p.u64.dec
      gpuUtilization := ← (p.vec p.gpuUtilizationReport).dec
      status := ← p.string.dec
      mode := ← p.string.dec
      os := ← p.osKind.skipNone.dec
      arch := ← p.archKind.skipNone.dec
      sliceCidr := ← p.string.dec
      labels := ← p.labels.dec } }

/-- The variant is written as the field `kind`; reading it back needs `deserialize_any`. -/
def nodeAffinity : Format NodeAffinity :=
  { enc := fun
      | .nodes nodeIds => p.string.enc "nodes" ++ (p.vec p.string.toCodec).enc nodeIds
      | .labels labels => p.string.enc "labels" ++ p.labels.enc labels
    dec := failure }

/-- `node_affinity` is skipped when empty. -/
def replicatedSecret : Format ReplicatedSecret :=
  { enc := fun s =>
      p.string.enc s.storageKey ++ p.bytes.enc s.ciphertext ++ p.u64.enc s.dekGeneration ++
        p.secretMetadata.enc s.metadata ++ p.nodeAffinity.skipNone.enc s.nodeAffinity
    dec := return {
      storageKey := ← p.string.dec
      ciphertext := ← p.bytes.dec
      dekGeneration := ← p.u64.dec
      metadata := ← p.secretMetadata.dec
      nodeAffinity := ← p.nodeAffinity.skipNone.dec } }

/-! ## Commands -/

def encSecretsRaftOp : SecretsRaftOp → Bytes
  | .registerNode identity => p.variant.enc 0 ++ p.nodeIdentity.enc identity
  | .revokeNode nodeId => p.variant.enc 1 ++ p.string.enc nodeId
  | .rotateDek newWraps => p.variant.enc 2 ++ p.wrappedDek.enc newWraps
  | .putSecret secret => p.variant.enc 3 ++ p.replicatedSecret.enc secret
  | .deleteSecret storageKey => p.variant.enc 4 ++ p.string.enc storageKey
  | .revokeToken tokenHash expiresAt =>
    p.variant.enc 5 ++ p.string.enc tokenHash ++ p.dateTime.enc expiresAt
  | .importTrustBundle bundle => p.variant.enc 6 ++ p.trustBundle.enc bundle
  | .removeTrustBundle clusterDomain => p.variant.enc 7 ++ p.string.enc clusterDomain
  | .setJwtAlgorithm algorithm => p.variant.enc 8 ++ p.jwtAlgorithm.enc algorithm
  | .wipeJoinSecret => p.variant.enc 9

def decSecretsRaftOp : Nat → Reader SecretsRaftOp
  | 0 => return .registerNode (← p.nodeIdentity.dec)
  | 1 => return .revokeNode (← p.string.dec)
  | 2 => return .rotateDek (← p.wrappedDek.dec)
  | 3 => return .putSecret (← p.replicatedSecret.dec)
  | 4 => return .deleteSecret (← p.string.dec)
  | 5 => return .revokeToken (← p.string.dec) (← p.dateTime.dec)
  | 6 => return .importTrustBundle (← p.trustBundle.dec)
  | 7 => return .removeTrustBundle (← p.string.dec)
  | 8 => return .setJwtAlgorithm (← p.jwtAlgorithm.dec)
  | 9 => return .wipeJoinSecret
  | _ => failure

def secretsRaftOp : Format SecretsRaftOp :=
  { enc := p.encSecretsRaftOp
    dec := do p.decSecretsRaftOp (← p.variant.dec) }

def encRequest : Request → Bytes
  | .updateServiceState serviceName state =>
    p.variant.enc 0 ++ p.string.enc serviceName ++ p.serviceState.enc state
  | .recordScaleEvent serviceName fromReplicas toReplicas reason timestamp =>
    p.variant.enc 1 ++ p.string.enc serviceName ++ p.u32.enc fromReplicas ++
      p.u32.enc toReplicas ++ p.string.enc reason ++ p.u64.enc timestamp
  | .registerNode node => p.variant.enc 2 ++ p.nodeRegistration.enc node
  | .updateNodeHeartbeat nodeId timestamp cpuUsed memoryUsed diskUsed gpuUtilization =>
    p.variant.enc 3 ++ p.u64.enc nodeId ++ p.u64.enc timestamp ++ p.f64.enc cpuUsed ++
      p.u64.enc memoryUsed ++ p.u64.enc diskUsed ++
      (p.vec p.gpuUtilizationReport).enc gpuUtilization
  | .updateNodeStatus nodeId status =>
    p.variant.enc 4 ++ p.u64.enc nodeId ++ p.string.enc status
  | .deregisterNode nodeId => p.variant.enc 5 ++ p.u64.enc nodeId
  | .updateServiceAssignment serviceName nodeIds =>
    p.variant.enc 6 ++ p.string.enc serviceName ++ (p.vec p.u64).enc nodeIds
  | .secrets op => p.variant.enc 7 ++ p.secretsRaftOp.enc op
  | .updateNodeMode nodeId mode => p.variant.enc 8 ++ p.u64.enc nodeId ++ p.string.enc mode
  | .grantWorkerLease nodeId holder acquiredNs renewedNs ttlSecs =>
    p.variant.enc 9 ++ p.u64.enc nodeId ++ p.string.enc holder ++ p.u64.enc acquiredNs ++
      p.u64.enc renewedNs ++ p.u32.enc ttlSecs
  | .renewWorkerLease nodeId renewedNs ttlSecs =>
    p.variant.enc 10 ++ p.u64.enc nodeId ++ p.u64.enc renewedNs ++ p.u32.enc ttlSecs
  | .expireWorkerLease nodeId => p.variant.enc 11 ++ p.u64.enc nodeId
  | .revokeWorkerLease nodeId => p.variant.enc 12 ++ p.u64.enc nodeId
  | .assignServiceSubnet serviceName nodeId =>
    p.variant.enc 13 ++ p.string.enc serviceName ++ p.u64.enc nodeId
  | .releaseServiceSubnet serviceName nodeId =>
    p.variant.enc 14 ++ p.string.enc serviceName ++ p.u64.enc nodeId
  | .setNodeLabels nodeId set remove =>
    p.variant.enc 15 ++ p.u64.enc nodeId ++ p.labels.enc set ++
      (p.vec p.string.toCodec).enc remove
  | .setServiceOverlayEndpoint endpoint =>
    p.variant.enc 16 ++ p.serviceOverlayEndpoint.enc endpoint
  | .removeServiceOverlayEndpoint nodeId service =>
    p.variant.enc 17 ++ p.u64.enc nodeId ++ p.string.enc service

def decRequest : Nat → Reader Request
  | 0 => return .updateServiceState (← p.string.dec) (← p.serviceState.dec)
  | 1 =>
    return .recordScaleEvent (← p.string.dec) (← p.u32.dec) (← p.u32.dec) (← p.string.dec)
      (← p.u64.dec)
  | 2 => return .registerNode (← p.nodeRegistration.dec)
  | 3 =>
    return .updateNodeHeartbeat (← p.u64.dec) (← p.u64.dec) (← p.f64.dec) (← p.u64.dec)
      (← p.u64.dec) (← (p.vec p.gpuUtilizationReport).dec)
  | 4 => return .updateNodeStatus (← p.u64.dec) (← p.string.dec)
  | 5 => return .deregisterNode (← p.u64.dec)
  | 6 => return .updateServiceAssignment (← p.string.dec) (← (p.vec p.u64).dec)
  | 7 => return .secrets (← p.secretsRaftOp.dec)
  | 8 => return .updateNodeMode (← p.u64.dec) (← p.string.dec)
  | 9 =>
    return .grantWorkerLease (← p.u64.dec) (← p.string.dec) (← p.u64.dec) (← p.u64.dec)
      (← p.u32.dec)
  | 10 => return .renewWorkerLease (← p.u64.dec) (← p.u64.dec) (← p.u32.dec)
  | 11 => return .expireWorkerLease (← p.u64.dec)
  | 12 => return .revokeWorkerLease (← p.u64.dec)
  | 13 => return .assignServiceSubnet (← p.string.dec) (← p.u64.dec)
  | 14 => return .releaseServiceSubnet (← p.string.dec) (← p.u64.dec)
  | 15 =>
    return .setNodeLabels (← p.u64.dec) (← p.labels.dec) (← (p.vec p.string.toCodec).dec)
  | 16 => return .setServiceOverlayEndpoint (← p.serviceOverlayEndpoint.dec)
  | 17 => return .removeServiceOverlayEndpoint (← p.u64.dec) (← p.string.dec)
  | _ => failure

def request : Format Request :=
  { enc := p.encRequest
    dec := do p.decRequest (← p.variant.dec) }

/-! ## States -/

def secretsState : Format SecretsState :=
  { enc := fun s =>
      (p.hashMap p.string.toCodec p.nodeIdentity).enc s.nodes ++
        p.wrappedDek.option.enc s.wrappedDek ++
        (Format.map p.size p.order p.string.toCodec p.replicatedSecret).enc s.secrets ++
        (p.hashMap p.string.toCodec p.dateTime).enc s.revokedTokens ++
        (p.hashMap p.string.toCodec p.trustBundle).enc s.trustedBundles ++
        p.jwtAlgorithm.enc s.jwtAlgorithm ++ p.dateTime.option.enc s.joinSecretWipedAt
    dec := return {
      nodes := ← (p.hashMap p.string.toCodec p.nodeIdentity).dec
      wrappedDek := ← p.wrappedDek.option.dec
      secrets := ← (Format.map p.size p.order p.string.toCodec p.replicatedSecret).dec
      revokedTokens := ← (p.hashMap p.string.toCodec p.dateTime).dec
      trustedBundles := ← (p.hashMap p.string.toCodec p.trustBundle).dec
      jwtAlgorithm := ← p.jwtAlgorithm.dec
      joinSecretWipedAt := ← p.dateTime.option.dec } }

def subnetSnapshot : Codec ServiceSubnetRegistry.Snapshot :=
  .record
    (fun s =>
      p.ipNet.enc s.clusterCidr ++ p.u8.enc s.slicePrefix ++
        (p.vec ((p.string.toCodec.pair p.string.toCodec).pair p.ipNet)).enc s.assignments)
    (return {
      clusterCidr := ← p.ipNet.dec
      slicePrefix := ← p.u8.dec
      assignments := ← (p.vec ((p.string.toCodec.pair p.string.toCodec).pair p.ipNet)).dec })

/-- A registry is written as its snapshot and restored from it. -/
def serviceSubnets : Format ServiceSubnetRegistry :=
  { enc := fun r => p.subnetSnapshot.enc r.snapshot
    dec := do ofOption (ServiceSubnetRegistry.restore (← p.subnetSnapshot.dec)).toOption }

def clusterState : Format ClusterState :=
  { enc := fun s =>
      (p.hashMap p.string.toCodec p.serviceState).enc s.services ++
        (Format.map p.size p.order p.u64 p.nodeInfo).enc s.nodes ++
        (p.vec p.scaleEvent).enc s.scaleEvents ++ p.secretsState.enc s.secrets ++
        (p.hashMap p.u64 p.workerLeaseRecord).enc s.workerLeases ++
        p.serviceSubnets.enc s.serviceSubnets ++
        (p.hashMap p.string.toCodec p.serviceOverlayEndpoint).enc s.serviceOverlayEndpoints
    dec := return {
      services := ← (p.hashMap p.string.toCodec p.serviceState).dec
      nodes := ← (Format.map p.size p.order p.u64 p.nodeInfo).dec
      scaleEvents := ← (p.vec p.scaleEvent).dec
      secrets := ← p.secretsState.dec
      workerLeases := ← (p.hashMap p.u64 p.workerLeaseRecord).dec
      serviceSubnets := ← p.serviceSubnets.dec
      serviceOverlayEndpoints := ←
        (p.hashMap p.string.toCodec p.serviceOverlayEndpoint).dec } }

/-! ## Which commands are read back -/

lemma nodeRegistration_safe {n : NodeRegistration} (hos : n.os.isSome) (harch : n.arch.isSome) :
    p.nodeRegistration.Safe n := by
  rcases Option.isSome_iff_exists.mp hos with ⟨os, hos⟩
  rcases Option.isSome_iff_exists.mp harch with ⟨arch, harch⟩
  intro rest
  cases n
  subst hos harch
  unfold nodeRegistration
  dsimp only
  repeat rw [List.append_assoc]
  -- field by field; rewriting the whole reader at once is slow for a record of this size
  repeat first
    | refine (bind_dec_enc _ _ _ _).trans ?_
    | refine (bind_dec_skipNone _ _ _ _).trans ?_
  rfl

/-- A registration that is read back has its platform: the reader takes a tag for `os` and one for
`arch` in any case, so without them the bytes would not suffice for the fields that follow. -/
lemma platform_of_roundTrips {n : NodeRegistration} (h : p.nodeRegistration.RoundTrips n) :
    n.os.isSome ∧ n.arch.isSome := by
  rcases Format.exists_rest_of_roundTrips h with ⟨rest, hdec⟩
  cases n with
  | mk nodeId address wgPublicKey overlayIp overlayPort advertiseAddr apiPort cpuTotal memoryTotal
      diskTotal gpus mode os arch sliceCidr labels =>
  -- the fields before the platform are read back as they are
  simp only [nodeRegistration, List.append_assoc, bind_dec_enc] at hdec
  rcases bind_eq_some hdec with ⟨os', bytes₁, hos, hdec⟩
  rcases bind_eq_some hdec with ⟨arch', bytes₂, harch, hdec⟩
  rcases bind_eq_some hdec with ⟨sliceCidr', bytes₃, hslice, hdec⟩
  rcases bind_eq_some hdec with ⟨labels', bytes₄, hlabels, hdec⟩
  have hfields : os' = os ∧ arch' = arch ∧ sliceCidr' = sliceCidr ∧ labels' = labels := by
    simp only [pure_apply, Option.some.injEq, Prod.mk.injEq,
      NodeRegistration.mk.injEq] at hdec
    tauto
  rcases hfields with ⟨rfl, rfl, rfl, rfl⟩
  have htos := p.osKind.option_tight hos
  have htarch := p.archKind.option_tight harch
  have htslice := p.string.tight hslice
  have htlabels := TightCodec.map_tight p.size p.order p.string p.string hlabels
  have hleos := p.osKind.length_skipNone_le os'
  have hlearch := p.archKind.length_skipNone_le arch'
  have hbytes : (p.osKind.toFormat.option.enc os').length +
      (p.archKind.toFormat.option.enc arch').length ≤
        (p.osKind.skipNone.enc os').length + (p.archKind.skipNone.enc arch').length := by
    simp only [List.length_append, labels, hashMap, map] at htos htarch htslice htlabels
    omega
  constructor
  · cases os' with
    | some os => rfl
    | none =>
      have hlt := p.osKind.length_skipNone_lt
      omega
  · cases arch' with
    | some arch => rfl
    | none =>
      have hlt := p.archKind.length_skipNone_lt
      omega

/-- No secret is read back: an absent affinity is missing at the end of the bytes, and a present
one cannot be read. -/
lemma dec_enc_replicatedSecret (s : ReplicatedSecret) :
    p.replicatedSecret.dec (p.replicatedSecret.enc s) = none := by
  cases s with
  | mk storageKey ciphertext dekGeneration metadata affinity =>
  have haffinity : p.nodeAffinity.skipNone.dec (p.nodeAffinity.skipNone.enc affinity) = none := by
    cases affinity <;> rfl
  simp only [replicatedSecret, List.append_assoc, bind_dec_enc]
  rw [bind_apply, haffinity]
  rfl

lemma not_roundTrips_replicatedSecret (s : ReplicatedSecret) :
    ¬ p.replicatedSecret.RoundTrips s := by
  intro h
  rcases Format.exists_rest_of_roundTrips h with ⟨rest, hdec⟩
  rw [dec_enc_replicatedSecret] at hdec
  cases hdec

lemma secretsRaftOp_safe {op : SecretsRaftOp} (h : ∀ secret, op ≠ .putSecret secret) :
    p.secretsRaftOp.Safe op := by
  intro rest
  cases op with
  | putSecret secret => exact absurd rfl (h secret)
  | _ =>
    simp only [secretsRaftOp, encSecretsRaftOp, List.append_assoc, bind_dec_enc,
      decSecretsRaftOp, pure_apply]

lemma secretsRaftOp_putSecret_iff (secret : ReplicatedSecret) :
    p.secretsRaftOp.RoundTrips (.putSecret secret) ↔ p.replicatedSecret.RoundTrips secret := by
  refine Format.roundTrips_wrap_iff (fun _ _ h => SecretsRaftOp.putSecret.inj h) ?_
  simp only [secretsRaftOp, encSecretsRaftOp, bind_dec_enc, decSecretsRaftOp]

end Postcard

/-- Nothing that the reader expects is missing from the bytes of the command. -/
def Request.WrittenInFull : Request → Prop
  | .registerNode node => node.os.isSome ∧ node.arch.isSome
  | .secrets (.putSecret _) => False
  | _ => True

namespace Postcard

variable (p : Postcard)

lemma request_safe {r : Request} (h : r.WrittenInFull) : p.request.Safe r := by
  intro rest
  cases r with
  | registerNode node =>
    have hpayload := Format.bind_of_safe (p.nodeRegistration_safe h.1 h.2)
      (fun node => return Request.registerNode node) rest
    simp only [request, encRequest, List.append_assoc, bind_dec_enc, decRequest, hpayload,
      pure_apply]
  | secrets op =>
    have hop : ∀ secret, op ≠ .putSecret secret := by
      rintro secret rfl
      exact h
    have hpayload := Format.bind_of_safe (p.secretsRaftOp_safe hop)
      (fun op => return Request.secrets op) rest
    simp only [request, encRequest, List.append_assoc, bind_dec_enc, decRequest, hpayload,
      pure_apply]
  | _ =>
    simp only [request, encRequest, List.append_assoc, bind_dec_enc, decRequest,
      pure_apply]

lemma request_registerNode_iff (node : NodeRegistration) :
    p.request.RoundTrips (.registerNode node) ↔ p.nodeRegistration.RoundTrips node := by
  refine Format.roundTrips_wrap_iff (fun _ _ h => Request.registerNode.inj h) ?_
  simp only [request, encRequest, bind_dec_enc, decRequest]

lemma request_secrets_iff (op : SecretsRaftOp) :
    p.request.RoundTrips (.secrets op) ↔ p.secretsRaftOp.RoundTrips op := by
  refine Format.roundTrips_wrap_iff (fun _ _ h => Request.secrets.inj h) ?_
  simp only [request, encRequest, bind_dec_enc, decRequest]

/-- A command that is read back is written in full. -/
lemma writtenInFull_of_roundTrips {r : Request} (h : p.request.RoundTrips r) :
    r.WrittenInFull := by
  cases r with
  | registerNode node => exact p.platform_of_roundTrips ((p.request_registerNode_iff node).mp h)
  | secrets op =>
    cases op with
    | putSecret secret =>
      have hop := (p.request_secrets_iff _).mp h
      exact p.not_roundTrips_replicatedSecret secret
        ((p.secretsRaftOp_putSecret_iff secret).mp hop)
    | _ => trivial
  | _ => trivial

end Postcard

/-! ## Which states are read back -/

/-- The agent of the node has reported its platform. -/
def NodeInfo.HasPlatform (n : NodeInfo) : Prop :=
  n.os.isSome ∧ n.arch.isSome

/-- Nothing that the reader expects is missing from the bytes of the state. -/
structure ClusterState.WrittenInFull (s : ClusterState) : Prop where
  platforms : ∀ (id : NodeId) (node : NodeInfo), s.nodes[id]? = some node → node.HasPlatform
  secrets : s.secrets.secrets = ∅

namespace Postcard

variable (p : Postcard)

lemma nodeInfo_safe {n : NodeInfo} (h : n.HasPlatform) : p.nodeInfo.Safe n := by
  rcases Option.isSome_iff_exists.mp h.1 with ⟨os, hos⟩
  rcases Option.isSome_iff_exists.mp h.2 with ⟨arch, harch⟩
  intro rest
  cases n
  subst hos harch
  unfold nodeInfo
  dsimp only
  repeat rw [List.append_assoc]
  repeat first
    | refine (bind_dec_enc _ _ _ _).trans ?_
    | refine (bind_dec_skipNone _ _ _ _).trans ?_
  rfl

lemma secretsState_safe {s : SecretsState} (h : s.secrets = ∅) : p.secretsState.Safe s := by
  intro rest
  have hrows : (Format.map p.size p.order p.string.toCodec p.replicatedSecret).Safe s.secrets := by
    refine Format.map_safe _ _ _ fun key row hrow => ?_
    rw [h] at hrow
    simp at hrow
  simp only [secretsState, List.append_assoc, bind_dec_enc, Format.bind_of_safe hrows,
    pure_apply]

lemma serviceSubnets_safe {r : ServiceSubnetRegistry} (h : r.WellFormed) :
    p.serviceSubnets.Safe r := by
  intro rest
  simp only [serviceSubnets, bind_dec_enc, ServiceSubnetRegistry.restore_snapshot h,
    Except.toOption, ofOption_some]

lemma clusterState_safe {s : ClusterState} (h : s.WrittenInFull)
    (hsubnets : s.serviceSubnets.WellFormed) : p.clusterState.Safe s := by
  intro rest
  have hnodes : (Format.map p.size p.order p.u64 p.nodeInfo).Safe s.nodes :=
    Format.map_safe _ _ _ fun id node hnode => p.nodeInfo_safe (h.platforms id node hnode)
  have hsecrets := p.secretsState_safe h.secrets
  simp only [clusterState, List.append_assoc, bind_dec_enc, Format.bind_of_safe hnodes,
    Format.bind_of_safe hsecrets, Format.bind_of_safe (p.serviceSubnets_safe hsubnets),
    pure_apply]

end Postcard

/-! ## Runs -/

namespace ClusterState

/-- Every slice handed out by a command lies in the cluster network. -/
lemma wellFormed_apply (now : Nat) {s : ClusterState} (h : s.serviceSubnets.WellFormed)
    (r : Request) : (s.apply now r).1.serviceSubnets.WellFormed := by
  cases r with
  | assignServiceSubnet serviceName nodeId =>
    have hassign := ServiceSubnetRegistry.wellFormed_assign h serviceName (toString nodeId)
    simp only [apply]
    split <;> rename_i heq <;> rw [heq] at hassign <;> exact hassign
  | releaseServiceSubnet serviceName nodeId =>
    exact fun key slice hslice => h key slice (of_lookup_erase hslice).2
  | _ =>
    simp only [apply, applyRecordScaleEvent, applyRegisterNode, applySecrets]
    repeat' split
    all_goals exact h

lemma wellFormed_run (clock : ℕ → Nat) (log : List Request) :
    (run clock default log).1.serviceSubnets.WellFormed :=
  Machine.run_invariant (P := fun s : ClusterState => s.serviceSubnets.WellFormed) clock log default
    (fun k _ r _ hs => wellFormed_apply (clock k) hs r) fun _ _ h => by
      simp [default, defaultServiceSubnetRegistry] at h

/-- A command that is written in full leaves such a state as one. -/
lemma WrittenInFull.apply {s : ClusterState} (h : s.WrittenInFull) (now : Nat) {r : Request}
    (hr : r.WrittenInFull) : (s.apply now r).1.WrittenInFull := by
  refine ⟨fun id node hnode => ?_, ?_⟩
  · rcases s.apply_nodes_cases now r with ⟨reg, rfl⟩ | ⟨nodeId, rfl⟩ | ⟨nodeId, f, hnodes, hf⟩
    · rcases of_lookup_insert hnode with ⟨-, rfl⟩ | ⟨-, hold⟩
      · exact hr
      · exact h.platforms id node hold
    · exact h.platforms id node (of_lookup_erase hnode).2
    · rw [hnodes] at hnode
      rcases of_lookup_modify hnode with ⟨-, before, hbefore, rfl⟩ | ⟨-, hold⟩
      · rw [NodeInfo.HasPlatform, (hf before).2.2.1, (hf before).2.2.2]
        exact h.platforms id before hbefore
      · exact h.platforms id node hold
  · have hrows := h.secrets
    rw [apply_fst_secrets]
    cases r with
    | secrets op =>
      -- only `PutSecret` adds a row, and it is not written in full
      cases op with
      | putSecret secret => exact hr.elim
      | deleteSecret storageKey =>
        simp only [secretsAfter, SecretsState.apply, hrows]
        simp [hrows]
      | revokeNode nodeId =>
        simp only [secretsAfter, SecretsState.apply]
        split <;> exact hrows
      | _ => exact hrows
    | _ => exact hrows

lemma writtenInFull_default : default.WrittenInFull :=
  ⟨fun id node hnode => by simp [default] at hnode, rfl⟩

end ClusterState

namespace Postcard

/-- A command is recovered from its bytes exactly if it is written in full.  A reachable state that
is written in full is recovered from its bytes, and so is every state a log of such commands leads
to. -/
theorem commands_and_states_recovered (p : Postcard) :
    (∀ r : Request, p.request.RoundTrips r ↔ r.WrittenInFull) ∧
      (∀ (clock : ℕ → Nat) (log : List Request),
        (ClusterState.run clock .default log).1.WrittenInFull →
          p.clusterState.RoundTrips (ClusterState.run clock .default log).1) ∧
      (∀ (clock : ℕ → Nat) (log : List Request), (∀ r ∈ log, r.WrittenInFull) →
        p.clusterState.RoundTrips (ClusterState.run clock .default log).1) := by
  have hstates : ∀ (clock : ℕ → Nat) (log : List Request),
      (ClusterState.run clock .default log).1.WrittenInFull →
        p.clusterState.RoundTrips (ClusterState.run clock .default log).1 := by
    intro clock log hfull
    exact (p.clusterState_safe hfull (ClusterState.wellFormed_run clock log)).roundTrips
  refine ⟨fun r => ⟨p.writtenInFull_of_roundTrips, fun h => (p.request_safe h).roundTrips⟩,
    hstates, fun clock log hlog => ?_⟩
  exact hstates clock log (Machine.run_invariant clock log ClusterState.default
    (fun k _ r hr hs => hs.apply (clock k) (hlog r hr)) ClusterState.writtenInFull_default)

/-! ## The format with base-128 numbers -/

def wireIpNet : Codec IpNet :=
  (Wire.varint.toCodec.pair (Wire.varint.toCodec.pair Wire.varint.toCodec)).via
    (fun
      | .v4 n => (0, n.addr.toNat, n.prefixLen)
      | .v6 n => (1, n.addr.toNat, n.prefixLen))
    (fun
      | (0, addr, len) =>
        if h : len ≤ 32 then some (.v4 { addr := .ofNat 32 addr, prefixLen := len, le_max := h })
        else none
      | (1, addr, len) =>
        if h : len ≤ 128 then
          some (.v6 { addr := .ofNat 128 addr, prefixLen := len, le_max := h })
        else none
      | _ => none)
    (by
      rintro (n | n) <;> simp [n.le_max])

/-- Numbers, indices and lengths in base 128, floats as little-endian words, maps by key. -/
def wire : Postcard :=
  { u8 := Wire.byte.toCodec
    u16 := Wire.u16.toCodec
    u32 := Wire.u32.toCodec
    u64 := Wire.u64.toCodec
    i64 := Wire.i64
    f32 := Wire.le 4 UInt32.toNat UInt32.ofNat UInt32.toNat_lt fun _ => UInt32.ofNat_toNat
    f64 := Wire.le 8 UInt64.toNat UInt64.ofNat UInt64.toNat_lt fun _ => UInt64.ofNat_toNat
    string := Wire.text
    variant := Wire.varint.toTightCodec
    size := Wire.varint
    dateTime := Wire.int
    ipNet := wireIpNet
    order := .byKey }

def legacyRegistration : NodeRegistration :=
  { nodeId := 1
    address := "10.0.0.1:9000"
    wgPublicKey := ""
    overlayIp := ""
    overlayPort := 0
    advertiseAddr := ""
    apiPort := 0
    cpuTotal := 0
    memoryTotal := 0
    diskTotal := 0
    gpus := []
    mode := "full"
    os := none
    arch := none
    sliceCidr := ""
    labels := ∅ }

/-- Its bytes are refused: the reader takes the lengths of the slice and of the labels for the tags
of `os` and `arch` and finds nothing left to read. -/
theorem legacyRegistration_refused :
    wire.request.fromBytes (wire.request.enc (.registerNode legacyRegistration)) = none := by
  decide

def platformRegistration : NodeRegistration :=
  { legacyRegistration with
    os := some .linux
    arch := some .amd64 }

theorem platformRegistration_recovered :
    wire.request.RoundTrips (.registerNode platformRegistration) ∧
      wire.clusterState.RoundTrips
        (ClusterState.run (fun _ => 0) .default [.registerNode platformRegistration]).1 := by
  have hall := commands_and_states_recovered wire
  refine ⟨(hall.1 _).mpr ⟨rfl, rfl⟩, hall.2.2 _ _ ?_⟩
  intro r hr
  rw [List.mem_singleton.mp hr]
  exact ⟨rfl, rfl⟩

end Postcard

end ZLayer.Scheduler
