import Mathlib.Logic.Function.Basic
import ZLayer.Scheduler.NodeState

/-!
# WorkerDispatcher — the leader's server for the worker control plane

`register` calls, `report_status` streams and the expiry sweep run concurrently on one dispatcher.
They share the session map, the id counter, the token usage table and the replicated state.

Each of them is a program counter that moves in atomic steps.  A step looks at the shared state and
has one `Effect` on it: an access under one lock, one atomic increment or one applied Raft command.
Between two steps anything else may happen, commands of other nodes included.
-/

namespace ZLayer.Scheduler

open Lib Secrets HashMap

/-! ## Leases and their lifetime -/

def saturatingMul (a b : UInt64) : UInt64 :=
  if a.toNat * b.toNat < 2 ^ 64 then a * b else u64Max

def WorkerLeaseRecord.isExpired (lease : WorkerLeaseRecord) (nowNs : UInt64)
    (graceSecs : UInt32) : Bool :=
  let deadlineNs :=
    saturatingAdd (saturatingAdd lease.renewedNs (saturatingMul lease.ttlSecs.toUInt64 1000000000))
      (saturatingMul graceSecs.toUInt64 1000000000)
  deadlineNs ≤ nowNs

/-- What a command makes of the lease of a node. -/
def Request.onLease (node : NodeId) (lease : Option WorkerLeaseRecord) :
    Request → Option WorkerLeaseRecord
  | .grantWorkerLease nodeId holder acquiredNs renewedNs ttlSecs =>
    -- a lease that is already there is replaced, and its revisions start over
    if nodeId = node then
      some
        { nodeId := nodeId
          holder := holder
          acquiredNs := acquiredNs
          renewedNs := renewedNs
          ttlSecs := ttlSecs
          revision := 1 }
    else lease
  | .renewWorkerLease nodeId renewedNs ttlSecs =>
    if nodeId = node then lease.map (ClusterState.renewLease renewedNs ttlSecs) else lease
  | .expireWorkerLease nodeId => if nodeId = node then none else lease
  | .revokeWorkerLease nodeId => if nodeId = node then none else lease
  | _ => lease

lemma lookup_workerLeases_apply (now : Nat) (s : ClusterState) (req : Request) (node : NodeId) :
    (s.apply now req).1.workerLeases[node]? = req.onLease node s.workerLeases[node]? := by
  cases req with
  | grantWorkerLease => exact lookup_insert _ _ _ _
  | expireWorkerLease | revokeWorkerLease => exact lookup_erase _ _ _
  | renewWorkerLease nodeId renewedNs ttlSecs =>
    simp only [ClusterState.apply, Request.onLease]
    split
    next => exact lookup_modify _ _ _ _
    next habsent =>
      -- a renewal without a lease changes nothing
      split
      next hnode =>
        have hnone : s.workerLeases[node]? = none :=
          Std.ExtTreeMap.getElem?_eq_none (hnode ▸ habsent)
        rw [hnone]
        rfl
      next => rfl
  | updateNodeMode | setNodeLabels | updateServiceAssignment | assignServiceSubnet =>
    simp only [ClusterState.apply]
    (repeat' split) <;> rfl
  | _ => rfl

/-- The clock in nanoseconds since the Unix epoch, capped to a `u64`. -/
def unixNanos (now : Nat) : UInt64 :=
  if now < 2 ^ 64 then UInt64.ofNat now else u64Max

structure AdaptiveTtlConfig where
  minTtlSecs : UInt32
  maxTtlSecs : UInt32
  graceSecs : UInt32
  maxHeartbeatsPerSecond : UInt32

namespace AdaptiveTtlConfig

def default : AdaptiveTtlConfig :=
  { minTtlSecs := 10
    maxTtlSecs := 600
    graceSecs := 10
    maxHeartbeatsPerSecond := 50 }

/-- The TTL for a cluster of `nWorkers`.  `u32::clamp` panics on a minimum above the maximum. -/
def computeTtl (cfg : AdaptiveTtlConfig) (nWorkers : UInt32) : Option UInt32 :=
  if cfg.maxHeartbeatsPerSecond = 0 then
    some cfg.maxTtlSecs
  else
    -- the workers divided by the heartbeats allowed per second, rounded up
    let step := cfg.maxHeartbeatsPerSecond
    let sum := if nWorkers.toNat + (step - 1).toNat < 2 ^ 32 then nWorkers + (step - 1)
      else 0xffffffff
    let raw := sum / step
    if cfg.minTtlSecs ≤ cfg.maxTtlSecs then
      some (if raw < cfg.minTtlSecs then cfg.minTtlSecs
        else if cfg.maxTtlSecs < raw then cfg.maxTtlSecs
        else raw)
    else
      none

end AdaptiveTtlConfig

/-! ## Messages -/

inductive StatusCode
  | unauthenticated
  | resourceExhausted
  | invalidArgument
  | internal
  | failedPrecondition
  deriving DecidableEq, Repr

structure Status where
  code : StatusCode
  message : String
  deriving DecidableEq, Repr

structure WorkerBootstrapClaims where
  clusterId : String
  jti : String
  /-- How often the token may be used; 0 is unlimited. -/
  maxUses : UInt32
  deriving DecidableEq

structure WorkerBootstrapToken where
  claims : WorkerBootstrapClaims
  signerKid : String
  signatureB64 : String
  deriving DecidableEq

structure NodeProfile where
  os : String
  labels : HashMap String String
  deriving DecidableEq

structure RegisterRequest where
  bootstrapToken : String
  /-- 0 asks for a fresh id. -/
  desiredNodeId : NodeId
  profile : Option NodeProfile
  csrDer : Bytes
  deriving DecidableEq

structure RegisterResponse where
  nodeId : NodeId
  signedCertDer : Bytes
  caChainDer : List Bytes
  heartbeatTtlSecs : UInt32
  heartbeatGraceSecs : UInt32
  gossipSeeds : List String
  deriving DecidableEq

structure StatusReport where
  nodeId : NodeId
  /-- How many container statuses the report carries. -/
  containers : Nat
  deriving DecidableEq

structure StatusAck where
  nextTtlSecs : UInt32
  acceptedRevision : UInt64
  deriving DecidableEq

/-! ## The shared state -/

structure WorkerSession where
  nodeId : NodeId
  labels : HashMap String String
  os : String
  lastSeen : Nat
  deriving DecidableEq

/-- What the tasks of one dispatcher share; `cluster` is the replicated state. -/
structure WorkerDispatcherImpl where
  sessions : HashMap NodeId WorkerSession
  cluster : ClusterState
  /-- How often each bootstrap token has been used, by `jti`. -/
  tokenUsage : HashMap String UInt32
  nextNodeId : NodeId

/-- What never changes while the dispatcher runs.  Token decoding, token verification and
certificate signing are given by what they return; the last two consult the clock. -/
structure DispatcherConfig where
  clusterId : String
  ttlCfg : AdaptiveTtlConfig
  caCertDer : Bytes
  fromCliString : String → Except String WorkerBootstrapToken
  verifyWorkerBootstrapToken : Nat → WorkerBootstrapToken → Except String WorkerBootstrapClaims
  signCsrDer : Nat → Bytes → String → Except String Bytes

namespace WorkerDispatcherImpl

def new (cluster : ClusterState) (startingNodeId : NodeId) : WorkerDispatcherImpl :=
  { sessions := ∅
    cluster := cluster
    tokenUsage := ∅
    nextNodeId := startingNodeId }

def currentTtlSecs (cfg : DispatcherConfig) (d : WorkerDispatcherImpl) : Option UInt32 :=
  let n := d.sessions.size
  cfg.ttlCfg.computeTtl (if n < 2 ^ 32 then UInt32.ofNat n else 0xffffffff)

end WorkerDispatcherImpl

inductive Effect
  | none
  | account (jti : String)
  | draw
  | commit (now : Nat) (req : Request)
  | insert (session : WorkerSession)
  | touch (node : NodeId) (seen : Nat)
  | drop (node : NodeId)

namespace Effect

def apply (d : WorkerDispatcherImpl) : Effect → WorkerDispatcherImpl
  | none => d
  | account jti =>
    let used := d.tokenUsage[jti]?.getD 0
    { d with
      tokenUsage := d.tokenUsage.insert jti (if used = 0xffffffff then used else used + 1) }
  | draw => { d with nextNodeId := d.nextNodeId + 1 }
  | commit now req => { d with cluster := (d.cluster.apply now req).1 }
  | insert session => { d with sessions := d.sessions.insert session.nodeId session }
  | touch node seen =>
    { d with sessions := d.sessions.modify node fun session => { session with lastSeen := seen } }
  | drop node => { d with sessions := d.sessions.erase node }

/-- The step does not change which ids have a session. -/
def keepsIds : Effect → Bool
  | insert _ => false
  | drop _ => false
  | _ => true

end Effect

/-- How a proposal ends.  A lost one is applied, but its proposer only sees an error. -/
inductive Proposal
  | committed (now : Nat)
  | lost (now : Nat) (e : String)
  | refused (e : String)

namespace Proposal

def effect (req : Request) : Proposal → Effect
  | committed now => .commit now req
  | lost now _ => .commit now req
  | refused _ => .none

/-- What `RaftCoordinator::propose` returns: a command that the state machine answers with an error
is a successful proposal. -/
def outcome (cluster : ClusterState) (req : Request) : Proposal → Except String Response
  | committed now => .ok (cluster.apply now req).2
  | lost _ e => .error ("Raft consensus error: Failed to propose: " ++ e)
  | refused e => .error ("Raft consensus error: Failed to propose: " ++ e)

end Proposal

/-- What a step reads from outside: the local clock and the fate of its proposal. -/
structure Reading where
  now : Nat
  proposal : Proposal

/-! ## Registration -/

inductive RegisterPc
  | ready
  /-- The token is accepted; the desired id has not been looked up. -/
  | choosing
  /-- About to take an id from the counter. -/
  | drawing
  /-- The candidate has not been looked up. -/
  | probing (candidate : NodeId)
  /-- `assign_node_id` has returned. -/
  | settled (node : NodeId)
  | granting (node : NodeId) (cert : Bytes) (nowNs : UInt64) (ttl : UInt32)
  /-- The lease is granted, the session is not installed. -/
  | installing (node : NodeId) (cert : Bytes) (ttl : UInt32)
  | done (outcome : Except Status RegisterResponse)
  /-- The client went away, or the call panicked. -/
  | aborted

/-- Subject of a worker's certificate and holder of its lease. -/
def workerName (node : NodeId) : String :=
  "worker-" ++ toString node

/-- The claims of a valid token, and the use of it that is to be counted. -/
def verifyAndAccountToken (cfg : DispatcherConfig) (now : Nat) (d : WorkerDispatcherImpl)
    (tokenB64 : String) : Except Status (WorkerBootstrapClaims × Effect) :=
  match cfg.fromCliString tokenB64 with
  | .error e => .error ⟨.unauthenticated, "decode bootstrap token: " ++ e⟩
  | .ok token =>
    match cfg.verifyWorkerBootstrapToken now token with
    | .error e => .error ⟨.unauthenticated, "verify bootstrap token: " ++ e⟩
    | .ok claims =>
      if claims.clusterId ≠ cfg.clusterId then
        .error ⟨.unauthenticated,
          "wrong cluster_id: expected " ++ cfg.clusterId ++ ", got " ++ claims.clusterId⟩
      else if claims.maxUses = 0 then
        .ok (claims, .none)
      else
        -- the use is counted before an id is chosen, whatever becomes of the call
        let used := d.tokenUsage[claims.jti]?.getD 0
        if claims.maxUses ≤ used then
          .error ⟨.resourceExhausted,
            "bootstrap token jti " ++ claims.jti ++ " exhausted (" ++ toString used ++ " of " ++
              toString claims.maxUses ++ " uses)"⟩
        else
          .ok (claims, .account claims.jti)

/-- The session of a newly registered worker; a request without a profile counts as an empty
one. -/
def newSession (req : RegisterRequest) (node : NodeId) (now : Nat) : WorkerSession :=
  let profile := req.profile.getD { os := "", labels := ∅ }
  { nodeId := node
    labels := profile.labels
    os := profile.os
    lastSeen := now }

def grantRequest (node : NodeId) (nowNs : UInt64) (ttl : UInt32) : Request :=
  .grantWorkerLease node (workerName node) nowNs nowNs ttl

namespace RegisterPc

def step (cfg : DispatcherConfig) (req : RegisterRequest) (r : Reading)
    (d : WorkerDispatcherImpl) : RegisterPc → RegisterPc × Effect
  | ready =>
    match verifyAndAccountToken cfg r.now d req.bootstrapToken with
    | .error status => (done (.error status), .none)
    | .ok (_, effect) => (choosing, effect)
  | choosing =>
    if req.desiredNodeId ≠ 0 ∧ req.desiredNodeId ∉ d.sessions then
      (settled req.desiredNodeId, .none)
    else
      -- a desired id that is in use is not refused
      (drawing, .none)
  | drawing => (probing d.nextNodeId, .draw)
  | probing candidate =>
    if candidate ∉ d.sessions then (settled candidate, .none) else (drawing, .none)
  | settled node =>
    match cfg.signCsrDer r.now req.csrDer (workerName node) with
    | .error e => (done (.error ⟨.invalidArgument, "sign CSR: " ++ e⟩), .none)
    | .ok cert =>
      match d.currentTtlSecs cfg with
      | none => (aborted, .none)
      -- the lease will carry this reading, however late it is applied
      | some ttl => (granting node cert (unixNanos r.now) ttl, .none)
  | granting node cert nowNs ttl =>
    let grant := grantRequest node nowNs ttl
    match r.proposal.outcome d.cluster grant with
    | .error e =>
      -- no session is installed, also where the lost proposal has granted a lease
      (done (.error ⟨.internal, "raft propose GrantWorkerLease: " ++ e⟩),
        r.proposal.effect grant)
    | .ok _ => (installing node cert ttl, r.proposal.effect grant)
  | installing node cert ttl =>
    -- `insert` overwrites a session that has come up under the id since it was looked up
    (done (.ok
      { nodeId := node
        signedCertDer := cert
        caChainDer := [cfg.caCertDer]
        heartbeatTtlSecs := ttl
        heartbeatGraceSecs := cfg.ttlCfg.graceSecs
        gossipSeeds := [] }), .insert (newSession req node r.now))
  | done outcome => (done outcome, .none)
  | aborted => (aborted, .none)

/-- The id the next step looks up in the session map. -/
def lookingUp (req : RegisterRequest) : RegisterPc → Option NodeId
  | choosing => if req.desiredNodeId ≠ 0 then some req.desiredNodeId else none
  | probing candidate => some candidate
  | _ => none

/-- The id the call has settled on without having installed its session. -/
def reserved : RegisterPc → Option NodeId
  | settled node => some node
  | granting node _ _ _ => some node
  | installing node _ _ => some node
  | _ => none

def returned : RegisterPc → Option NodeId
  | done (.ok response) => some response.nodeId
  | _ => none

end RegisterPc

/-! ## The expiry sweep -/

inductive SweepPc
  | idle
  /-- The clock is read, the leases are not. -/
  | ticked (nowNs : UInt64)
  /-- The entries of the lease snapshot that are still to be judged. -/
  | working (nowNs : UInt64) (todo : List (NodeId × WorkerLeaseRecord))
  /-- The lease of `node` is expired, its session is not dropped. -/
  | dropping (node : NodeId) (nowNs : UInt64) (todo : List (NodeId × WorkerLeaseRecord))
  deriving DecidableEq

namespace SweepPc

/-- One step of `run_expiry_sweep`; the leases are met in the given order. -/
def step (cfg : DispatcherConfig) (r : Reading) (order : IterOrder NodeId WorkerLeaseRecord)
    (d : WorkerDispatcherImpl) : SweepPc → SweepPc × Effect
  | idle => (ticked (unixNanos r.now), .none)
  | ticked nowNs => (working nowNs (order.list d.cluster.workerLeases), .none)
  | working _ [] => (idle, .none)
  | working nowNs ((node, lease) :: rest) =>
    -- `lease` is the snapshot's; the lease of the node may be another one by now
    if lease.isExpired nowNs cfg.ttlCfg.graceSecs then
      let expire := Request.expireWorkerLease node
      match r.proposal.outcome d.cluster expire with
      | .error _ => (working nowNs rest, r.proposal.effect expire)
      | .ok _ => (dropping node nowNs rest, r.proposal.effect expire)
    else
      (working nowNs rest, .none)
  | dropping node nowNs rest => (working nowNs rest, .drop node)

end SweepPc

/-! ## Status reports -/

/-- What the next poll of a worker's report stream yields. -/
inductive Inbound
  | item (report : StatusReport)
  | failed (status : Status)
  | finished

inductive ReportPc
  | waiting
  /-- The TTL has not been computed. -/
  | received (report : StatusReport) (nowNs : UInt64)
  | renewing (report : StatusReport) (nowNs : UInt64) (ttl : UInt32)
  /-- The renewal is proposed, `last_seen` is not updated. -/
  | touching (report : StatusReport) (nowNs : UInt64) (ttl : UInt32)
  | acking (report : StatusReport) (nowNs : UInt64) (ttl : UInt32)
  | closed
  deriving DecidableEq

namespace ReportPc

def renewRequest (report : StatusReport) (nowNs : UInt64) (ttl : UInt32) : Request :=
  .renewWorkerLease report.nodeId nowNs ttl

/-- One step of a `report_status` stream, and what it sends to the worker. -/
def step (cfg : DispatcherConfig) (r : Reading) (inbound : Inbound) (clientGone : Bool)
    (d : WorkerDispatcherImpl) : ReportPc → ReportPc × Effect × Option (Except Status StatusAck)
  | waiting =>
    match inbound with
    | .item report => (received report (unixNanos r.now), .none, none)
    | .failed status => (closed, .none, some (.error status))
    | .finished => (closed, .none, none)
  | received report nowNs =>
    match d.currentTtlSecs cfg with
    | none => (closed, .none, none)
    | some ttl => (renewing report nowNs ttl, .none, none)
  | renewing report nowNs ttl =>
    let renew := renewRequest report nowNs ttl
    match r.proposal.outcome d.cluster renew with
    | .error e =>
      (closed, r.proposal.effect renew,
        some (.error ⟨.failedPrecondition, "renew lease: " ++ e⟩))
    -- the response is not looked at, so a renewal without a lease passes
    | .ok _ => (touching report nowNs ttl, r.proposal.effect renew, none)
  | touching report nowNs ttl =>
    (acking report nowNs ttl, .touch report.nodeId r.now, none)
  | acking report _ ttl =>
    if clientGone then
      (closed, .none, none)
    else
      (waiting, .none, some (.ok
        { nextTtlSecs := ttl
          acceptedRevision := UInt64.ofNat report.containers }))
  | closed => (closed, .none, none)

end ReportPc

/-! ## All tasks together -/

/-- The dispatcher with its tasks: every `register` call and every report stream has a number. -/
structure DispatcherSystem where
  dispatcher : WorkerDispatcherImpl
  registers : ℕ → RegisterPc
  sweep : SweepPc
  reports : ℕ → ReportPc
  /-- What each report stream has sent, oldest first. -/
  acks : ℕ → List (Except Status StatusAck)

/-- Who takes the next step.  `command` is a Raft command from anywhere else. -/
inductive DispatcherEvent
  | register (call : ℕ) (r : Reading)
  | cancel (call : ℕ)
  | sweep (r : Reading) (order : IterOrder NodeId WorkerLeaseRecord)
  | report (stream : ℕ) (r : Reading) (inbound : Inbound) (clientGone : Bool)
  | command (now : Nat) (req : Request)

namespace DispatcherSystem

def start (cluster : ClusterState) (startingNodeId : NodeId) : DispatcherSystem :=
  { dispatcher := .new cluster startingNodeId
    registers := fun _ => .ready
    sweep := .idle
    reports := fun _ => .waiting
    acks := fun _ => [] }

variable (cfg : DispatcherConfig) (calls : ℕ → RegisterRequest)

def effect (s : DispatcherSystem) : DispatcherEvent → Effect
  | .register call r => ((s.registers call).step cfg (calls call) r s.dispatcher).2
  | .cancel _ => .none
  | .sweep r order => (s.sweep.step cfg r order s.dispatcher).2
  | .report stream r inbound clientGone =>
    ((s.reports stream).step cfg r inbound clientGone s.dispatcher).2.1
  | .command now req => .commit now req

/-- A call that is still running is dropped with its future. -/
def abort : RegisterPc → RegisterPc
  | .done outcome => .done outcome
  | _ => .aborted

def next (s : DispatcherSystem) (e : DispatcherEvent) : DispatcherSystem :=
  let dispatcher := (s.effect cfg calls e).apply s.dispatcher
  match e with
  | .register call r =>
    { s with
      dispatcher := dispatcher
      registers := Function.update s.registers call
        ((s.registers call).step cfg (calls call) r s.dispatcher).1 }
  | .cancel call =>
    { s with
      dispatcher := dispatcher
      registers := Function.update s.registers call (abort (s.registers call)) }
  | .sweep r order =>
    { s with
      dispatcher := dispatcher
      sweep := (s.sweep.step cfg r order s.dispatcher).1 }
  | .report stream r inbound clientGone =>
    let move := (s.reports stream).step cfg r inbound clientGone s.dispatcher
    { s with
      dispatcher := dispatcher
      reports := Function.update s.reports stream move.1
      acks := Function.update s.acks stream (s.acks stream ++ move.2.2.toList) }
  | .command _ _ => { s with dispatcher := dispatcher }

variable {cfg calls}

@[simp] lemma dispatcher_next (s : DispatcherSystem) (e : DispatcherEvent) :
    (s.next cfg calls e).dispatcher = (s.effect cfg calls e).apply s.dispatcher := by
  cases e <;> rfl

end DispatcherSystem

/-! ## Plain inputs -/

def plainConfig : DispatcherConfig :=
  { clusterId := "cluster"
    ttlCfg := .default
    caCertDer := []
    fromCliString := fun s =>
      .ok
        { claims := { clusterId := "cluster", jti := s, maxUses := 0 }
          signerKid := ""
          signatureB64 := "" }
    verifyWorkerBootstrapToken := fun _ token => .ok token.claims
    signCsrDer := fun _ _ _ => .ok [] }

def plainRequest (desired : NodeId) : RegisterRequest :=
  { bootstrapToken := ""
    desiredNodeId := desired
    profile := none
    csrDer := [] }

def readingAt (now : Nat) : Reading :=
  { now := now
    proposal := .committed now }

/-! ## What an effect changes -/

namespace Effect

variable (d : WorkerDispatcherImpl)

lemma mem_sessions_of_keepsIds {effect : Effect} (h : effect.keepsIds = true) (n : NodeId) :
    n ∈ (effect.apply d).sessions ↔ n ∈ d.sessions := by
  cases effect with
  | touch node seen => exact Std.ExtTreeMap.mem_modify
  | insert | drop => cases h
  | _ => exact Iff.rfl

@[simp] lemma keepsIds_of_proposal (proposal : Proposal) (req : Request) :
    (proposal.effect req).keepsIds = true := by
  cases proposal <;> rfl

end Effect

/-! ## What a step does -/

lemma keepsIds_of_verifyAndAccountToken {cfg : DispatcherConfig} {d : WorkerDispatcherImpl}
    {now : Nat} {tokenB64 : String} {claims : WorkerBootstrapClaims} {effect : Effect}
    (h : verifyAndAccountToken cfg now d tokenB64 = .ok (claims, effect)) :
    effect.keepsIds = true := by
  simp only [verifyAndAccountToken] at h
  -- decoding, verification, the cluster id and the number of uses, in the order of the checks
  split at h
  · cases h
  · split at h
    · cases h
    · split at h
      · cases h
      · split at h
        · cases h
          rfl
        · split at h <;> cases h
          rfl

/-- A step of a registration settles on an id, installs the session of the id it had settled on, or
does neither. -/
inductive RegisterPc.Move (req : RegisterRequest) (d : WorkerDispatcherImpl) (pc : RegisterPc)
    (move : RegisterPc × Effect) : Prop
  | settle (n : NodeId) (lookup : pc.lookingUp req = some n) (free : n ∉ d.sessions)
      (effect : move.2 = .none) (reserved : move.1.reserved = some n)
      (returned : move.1.returned = none)
  | install (session : WorkerSession) (reserved : pc.reserved = some session.nodeId)
      (effect : move.2 = .insert session) (released : move.1.reserved = none)
      (returned : move.1.returned = some session.nodeId)
  | other (effect : move.2.keepsIds = true)
      (reserved : move.1.reserved = pc.reserved ∨ move.1.reserved = none)
      (returned : move.1.returned = pc.returned)

/-- A call that is still looking for an id has not settled on one. -/
lemma RegisterPc.reserved_of_lookingUp {req : RegisterRequest} {pc : RegisterPc} {n : NodeId}
    (h : pc.lookingUp req = some n) : pc.reserved = none := by
  cases pc with
  | choosing => rfl
  | probing candidate => rfl
  | _ => cases h

lemma RegisterPc.move_step (cfg : DispatcherConfig) (req : RegisterRequest) (r : Reading)
    (d : WorkerDispatcherImpl) (pc : RegisterPc) : Move req d pc (pc.step cfg req r d) := by
  cases pc with
  | ready =>
    simp only [step]
    split
    · exact .other rfl (.inr rfl) rfl
    next hverify => exact .other (keepsIds_of_verifyAndAccountToken hverify) (.inr rfl) rfl
  | choosing =>
    simp only [step]
    split
    next hfree => exact .settle _ (if_pos hfree.1) hfree.2 rfl rfl rfl
    next => exact .other rfl (.inr rfl) rfl
  | drawing => exact .other rfl (.inr rfl) rfl
  | probing candidate =>
    simp only [step]
    split
    next hfree => exact .settle _ rfl hfree rfl rfl rfl
    next => exact .other rfl (.inr rfl) rfl
  | settled node =>
    simp only [step]
    split
    · exact .other rfl (.inr rfl) rfl
    · split
      · exact .other rfl (.inr rfl) rfl
      · exact .other rfl (.inl rfl) rfl
  | granting node cert nowNs ttl =>
    simp only [step]
    split
    · exact .other (Effect.keepsIds_of_proposal _ _) (.inr rfl) rfl
    · exact .other (Effect.keepsIds_of_proposal _ _) (.inl rfl) rfl
  | installing node cert ttl =>
    -- `newSession` stores the session under its own id
    exact .install (newSession req node r.now) rfl rfl rfl rfl
  | done | aborted => exact .other rfl (.inl rfl) rfl

/-- The sweep installs no session, and drops one only where its program counter says so. -/
lemma SweepPc.keepsIds_step (cfg : DispatcherConfig) (r : Reading)
    (order : IterOrder NodeId WorkerLeaseRecord) (d : WorkerDispatcherImpl)
    (pc : SweepPc) :
    (pc.step cfg r order d).2.keepsIds = true ∨
      ∃ node nowNs todo, pc = .dropping node nowNs todo ∧
        (pc.step cfg r order d).2 = .drop node := by
  cases pc with
  | idle | ticked => exact .inl rfl
  | dropping node nowNs todo => exact .inr ⟨node, nowNs, todo, rfl, rfl⟩
  | working nowNs todo =>
    cases todo with
    | nil => exact .inl rfl
    | cons entry rest =>
      refine .inl ?_
      simp only [step]
      split
      · split <;> exact Effect.keepsIds_of_proposal _ _
      · rfl

/-- The only commands of the sweep are expiries. -/
lemma SweepPc.commit_step {cfg : DispatcherConfig} {r : Reading}
    {order : IterOrder NodeId WorkerLeaseRecord} {d : WorkerDispatcherImpl} {pc : SweepPc}
    {now : Nat} {req : Request} (h : (pc.step cfg r order d).2 = .commit now req) :
    ∃ node, req = .expireWorkerLease node := by
  cases pc with
  | idle | ticked | dropping => cases h
  | working nowNs todo =>
    cases todo with
    | nil => cases h
    | cons entry rest =>
      -- both outcomes of the proposal have its effect; an unexpired lease has none
      have heffect : (r.proposal.effect (.expireWorkerLease entry.1)) = .commit now req := by
        simp only [step] at h
        split at h
        · split at h <;> exact h
        · cases h
      cases hproposal : r.proposal <;> rw [hproposal] at heffect <;> cases heffect <;>
        exact ⟨_, rfl⟩

lemma ReportPc.keepsIds_step (cfg : DispatcherConfig) (r : Reading) (inbound : Inbound)
    (clientGone : Bool) (d : WorkerDispatcherImpl) (pc : ReportPc) :
    (pc.step cfg r inbound clientGone d).2.1.keepsIds = true := by
  cases pc with
  | waiting => cases inbound <;> rfl
  | received | acking =>
    simp only [step]
    split <;> rfl
  | renewing report nowNs ttl =>
    simp only [step]
    split <;> exact Effect.keepsIds_of_proposal _ _
  | touching | closed => rfl

/-! ## Uses of a bootstrap token -/

def WorkerDispatcherImpl.uses (d : WorkerDispatcherImpl) (jti : String) : ℕ :=
  (d.tokenUsage[jti]?.getD 0).toNat

variable (cfg : DispatcherConfig) (calls : ℕ → RegisterRequest) (jti : String)

/-- The step accepts a token with the given id. -/
def DispatcherSystem.accepts (s : DispatcherSystem) : DispatcherEvent → Bool
  | .register call r =>
    match s.registers call,
      verifyAndAccountToken cfg r.now s.dispatcher (calls call).bootstrapToken with
    | .ready, .ok (claims, _) => claims.jti = jti
    | _, _ => false
  | _ => false

def DispatcherSystem.accepted (s : DispatcherSystem) : List DispatcherEvent → ℕ
  | [] => 0
  | e :: events => (s.accepts cfg calls jti e).toNat + (s.next cfg calls e).accepted events

variable {d : WorkerDispatcherImpl} {jti}

lemma uses_account (other : String) : ((Effect.account other).apply d).uses jti =
    if other = jti then min (d.uses jti + 1) (2 ^ 32 - 1) else d.uses jti := by
  simp only [Effect.apply, WorkerDispatcherImpl.uses, lookup_insert]
  split
  next heq =>
    subst heq
    generalize d.tokenUsage[other]?.getD 0 = used
    have hlt := used.toNat_lt
    have hmax : used = 0xffffffff ↔ used.toNat = 2 ^ 32 - 1 := UInt32.toNat_inj.symm
    rw [Option.getD_some]
    split
    · simp_all
    · simp_all
      omega
  next => rfl

lemma uses_le_apply (effect : Effect) : d.uses jti ≤ (effect.apply d).uses jti := by
  cases effect with
  | account other =>
    have hlt : d.uses jti < 2 ^ 32 := UInt32.toNat_lt _
    rw [uses_account]
    split <;> omega
  | _ => exact le_rfl

/-- In every interleaving of registrations, cancellations, sweeps, reports and Raft commands, a
token with limited uses is accepted at most as often as it has uses left. -/
theorem accepted_le_limit (cfg : DispatcherConfig) (calls : ℕ → RegisterRequest)
    (jti : String) (limit : UInt32)
    (hlimit : ∀ now token claims, cfg.verifyWorkerBootstrapToken now token = .ok claims →
      claims.jti = jti → claims.maxUses ≠ 0 ∧ claims.maxUses ≤ limit)
    (events : List DispatcherEvent) (s : DispatcherSystem) :
    s.accepted cfg calls jti events ≤ limit.toNat - s.dispatcher.uses jti := by
  induction events generalizing s with
  | nil => exact Nat.zero_le _
  | cons e events ih =>
    have hrest := ih (s.next cfg calls e)
    have hgrow : s.dispatcher.uses jti ≤ _ := uses_le_apply (s.effect cfg calls e)
    rw [DispatcherSystem.dispatcher_next] at hrest
    rw [DispatcherSystem.accepted]
    cases haccepts : s.accepts cfg calls jti e with
    | false =>
      rw [Bool.toNat_false]
      omega
    | true =>
      unfold DispatcherSystem.accepts at haccepts
      split at haccepts
      next call r =>
        split at haccepts
        next claims effect hready hverify =>
          obtain rfl : claims.jti = jti := by simpa using haccepts
          have heffect : s.effect cfg calls (.register call r) = effect := by
            simp only [DispatcherSystem.effect, hready, RegisterPc.step, hverify]
          rw [heffect] at hrest
          -- the token passed its check, so a use is left and is now counted
          simp only [verifyAndAccountToken] at hverify
          repeat' split at hverify
          all_goals cases hverify
          next hok _ hzero => exact absurd hzero (hlimit _ _ _ hok rfl).1
          next hok _ _ hused =>
            have hleft : s.dispatcher.uses claims.jti < claims.maxUses.toNat :=
              UInt32.not_le.mp hused
            have hle : claims.maxUses.toNat ≤ limit.toNat := (hlimit _ _ _ hok rfl).2
            have hlt := limit.toNat_lt
            rw [uses_account, if_pos rfl] at hrest
            rw [Bool.toNat_true]
            omega
        next => cases haccepts
      next => cases haccepts

/-- Two calls race for a token with one use. -/
theorem accepted_le_one :
    (DispatcherSystem.start .default 1).accepted
      { plainConfig with
        verifyWorkerBootstrapToken := fun _ token => .ok { token.claims with maxUses := 1 } }
      (fun _ => plainRequest 0) "" [.register 0 (readingAt 0), .register 1 (readingAt 0)] ≤ 1 :=
  accepted_le_limit _ _ "" 1 (fun _ token claims h _ => by cases h; simp) _ _

end ZLayer.Scheduler
