import ZLayer.Scheduler.ClusterState
import ZLayer.Secrets.RaftStore

/-!
# DekRotation — the leader's orchestration of joins and DEK rotations

`propose_register_node_and_rotate` and `propose_rotate_dek` as programs over the secrets state: one
snapshot, local cryptography, then a sequence of proposals.  A proposal commits an operation and
answers with its outcome; a node keeps its leadership during one call.

Both programs are scripts: what they propose and what they return is settled by the snapshot.
`joinScript` and `rotationScript` compute that, and `proposeRegisterNodeAndRotate_eq` and
`proposeRotateDek_eq` say the programs do nothing else.
-/

namespace ZLayer.Scheduler

open Lib Secrets List ClusterDek HashMap

/-! ## Proposals -/

/-- What the coordinator of a node knows about itself. -/
structure RaftCoordinator where
  isLeader : Bool
  leaderId : Option NodeId
  nodePriv : Option Bytes32
  nodeUuid : Option String
  deriving DecidableEq

namespace RaftCoordinator

def notLeader (node : RaftCoordinator) : SecretsError :=
  .provider ("not leader; redirect to: " ++
    match node.leaderId with
    | some id => toString id
    | none => "<unknown>")

/-- The outcome a proposer sees for a response of the state machine. -/
def proposalOutcome : Response → Except SecretsError Unit
  | .success _ => .ok ()
  | .error message => .error (.provider message)

def proposeSecretsOp (node : RaftCoordinator) (now : Nat) (op : SecretsRaftOp) :
    Prog SecretsState (Except SecretsError Unit) :=
  if node.isLeader then
    .commit (fun s => (s.apply now op).1) fun s =>
      .ret (proposalOutcome (ClusterState.secretsResponse (s.apply now op).2))
  else
    .ret (.error node.notLeader)

def handle (node : RaftCoordinator) (now : Nat) : RaftSecretsHandle :=
  { proposePutSecret := fun secret => node.proposeSecretsOp now (.putSecret secret)
    proposeDeleteSecret := fun storageKey => node.proposeSecretsOp now (.deleteSecret storageKey) }

/-- The leader's private key and UUID, if the node was built with secrets capability. -/
def secretsCapability (node : RaftCoordinator) (task : String) :
    Except SecretsError (Bytes32 × String) :=
  match node.nodePriv with
  | none =>
    .error (.provider ("RaftCoordinator constructed without secrets capability " ++
      "(missing node_priv); cannot orchestrate " ++ task))
  | some priv =>
    match node.nodeUuid with
    | none =>
      .error (.provider ("RaftCoordinator constructed without secrets capability " ++
        "(missing node_uuid); cannot orchestrate " ++ task))
    | some uuid => .ok (priv, uuid)

def leaderDek (c : Crypto) (priv : Bytes32) (uuid : String) (envelope : WrappedDek)
    (consequence : String) : Except SecretsError Bytes32 :=
  match envelope.wraps[uuid]? with
  | none =>
    .error (.provider ("leader node_uuid " ++ uuid ++ " has no wrap in current DEK (generation " ++
      toString envelope.dekGeneration ++ ") — " ++ consequence))
  | some wrapped => unwrap c priv wrapped

/-- The public keys of the nodes that are not revoked and not `excluded`. -/
def activeRecipients (nodes : HashMap String NodeIdentity) (excluded : Option String) :
    HashMap String Bytes32 :=
  nodes.collect fun nodeId node =>
    if node.revokedAt.isSome then none
    else if some nodeId = excluded then none
    else some node.secretsPubkey

/-! ## Joining -/

structure JoinRandomness where
  freshDek : Bytes32
  seeds : String → Bytes32

/-- The DEK to wrap for the joiner and the generation it builds on: the current one, or a fresh
DEK when there is none yet. -/
def effectiveDek (c : Crypto) (priv : Bytes32) (uuid : String) (fresh : Bytes32)
    (current : SecretsState) : Except SecretsError (Bytes32 × UInt64) :=
  match current.wrappedDek with
  | some envelope =>
    match leaderDek c priv uuid envelope "cluster cannot register a new node" with
    | .error e => .error e
    | .ok dek => .ok (dek, envelope.dekGeneration)
  | none => .ok (fresh, 0)

def joinerWrap (envelope : WrappedDek) (nodeId : String) : Except SecretsError Bytes :=
  match envelope.wraps[nodeId]? with
  | some wrapped => .ok wrapped
  | none =>
    .error (.provider ("internal: rewrap_for_set produced no wrap for joiner " ++ nodeId))

/-- Recipients of the re-wrap: the active nodes of the snapshot and the joiner. -/
def joinRecipients (current : SecretsState) (identity : NodeIdentity) : HashMap String Bytes32 :=
  (activeRecipients current.nodes none).insert identity.nodeId identity.secretsPubkey

def proposeRegisterNodeAndRotate (c : Crypto) (node : RaftCoordinator) (identity : NodeIdentity)
    (rnd : JoinRandomness) (now : Nat) : Prog SecretsState (Except SecretsError (Bytes × UInt64)) :=
  if node.isLeader then
    .lift (node.secretsCapability "RegisterNode + RotateDek") fun (priv, uuid) =>
    .get fun current =>
    .lift (effectiveDek c priv uuid rnd.freshDek current) fun (dek, baseGeneration) =>
    .andThen (node.proposeSecretsOp now (.registerNode identity)) fun () =>
    let newGeneration := saturatingSucc baseGeneration
    .lift (rewrapForSet c rnd.seeds dek (joinRecipients current identity)
      newGeneration) fun envelope =>
    .lift (joinerWrap envelope identity.nodeId) fun wrapped =>
    .andThen (node.proposeSecretsOp now (.rotateDek envelope)) fun () =>
    .ret (.ok (wrapped, newGeneration))
  else
    .ret (.error node.notLeader)

/-! ## Rotation -/

inductive RotateReason
  | nodeRevoked (nodeId : String)
  | scheduled
  | manual
  deriving DecidableEq

def RotateReason.revokedId : RotateReason → Option String
  | .nodeRevoked nodeId => some nodeId
  | _ => none

/-- Random bytes drawn by one rotation, and the order in which it meets the rows. -/
structure RotationRandomness where
  freshDek : Bytes32
  seeds : String → Bytes32
  /-- The nonce of the `i`-th row. -/
  nonces : Nat → Nonce
  order : IterOrder String ReplicatedSecret

/-- What the rotation computes before its first proposal. -/
structure RotationPlan where
  previousDek : Bytes32
  newDek : Bytes32
  newGeneration : UInt64
  envelope : WrappedDek

def planRotation (c : Crypto) (priv : Bytes32) (uuid : String) (reason : RotateReason)
    (rnd : RotationRandomness) (current : SecretsState) : Except SecretsError RotationPlan :=
  match current.wrappedDek with
  | none =>
    .error (.provider ("no current DEK to rotate from; call " ++
      "propose_register_node_and_rotate first"))
  | some previous =>
    match leaderDek c priv uuid previous "cannot rotate" with
    | .error e => .error e
    | .ok previousDek =>
      let recipients := activeRecipients current.nodes reason.revokedId
      let newGeneration := saturatingSucc previous.dekGeneration
      match rewrapForSet c rnd.seeds rnd.freshDek recipients newGeneration with
      | .error e => .error e
      | .ok envelope =>
        .ok
          { previousDek := previousDek
            newDek := rnd.freshDek
            newGeneration := newGeneration
            envelope := envelope }

def reencryptRow (c : Crypto) (plan : RotationPlan) (nonce : Nonce) (row : ReplicatedSecret) :
    Except SecretsError ReplicatedSecret :=
  match decrypt c plan.previousDek row.ciphertext with
  | .error e => .error e
  | .ok plaintext =>
    match encrypt c plan.newDek nonce plaintext with
    | .error e => .error e
    | .ok ciphertext =>
      .ok
        { row with
          ciphertext := ciphertext
          dekGeneration := plan.newGeneration }

/-- The re-encryption loop: rows already on the new generation are skipped. -/
def reencryptRows (c : Crypto) (node : RaftCoordinator) (now : Nat) (plan : RotationPlan)
    (nonces : Nat → Nonce) :
    List ReplicatedSecret → Prog SecretsState (Except SecretsError UInt64)
  | [] => .ret (.ok plan.newGeneration)
  | row :: rows =>
    if row.dekGeneration = plan.newGeneration then
      reencryptRows c node now plan (fun i => nonces (i + 1)) rows
    else
      .lift (reencryptRow c plan (nonces 0) row) fun updated =>
      .andThen (node.proposeSecretsOp now (.putSecret updated)) fun () =>
      reencryptRows c node now plan (fun i => nonces (i + 1)) rows

def proposeRotateDek (c : Crypto) (node : RaftCoordinator) (reason : RotateReason)
    (rnd : RotationRandomness) (now : Nat) : Prog SecretsState (Except SecretsError UInt64) :=
  if node.isLeader then
    .lift (node.secretsCapability "RotateDek") fun (priv, uuid) =>
    .get fun current =>
    .lift (planRotation c priv uuid reason rnd current) fun plan =>
    .andThen (node.proposeSecretsOp now (.rotateDek plan.envelope)) fun () =>
    reencryptRows c node now plan rnd.nonces ((rnd.order.list current.secrets).map Prod.snd)
  else
    .ret (.error node.notLeader)

/-! ## The two programs as scripts -/

def commitOp (now : Nat) (op : SecretsRaftOp) (s : SecretsState) : SecretsState :=
  (s.apply now op).1

/-- What a join proposes and returns, given its snapshot. -/
def joinScript (c : Crypto) (priv : Bytes32) (uuid : String) (identity : NodeIdentity)
    (rnd : JoinRandomness) (current : SecretsState) :
    List SecretsRaftOp × Except SecretsError (Bytes × UInt64) :=
  match effectiveDek c priv uuid rnd.freshDek current with
  | .error e => ([], .error e)
  | .ok (dek, baseGeneration) =>
    let newGeneration := saturatingSucc baseGeneration
    match rewrapForSet c rnd.seeds dek (joinRecipients current identity)
        newGeneration with
    | .error e => ([.registerNode identity], .error e)
    | .ok envelope =>
      match joinerWrap envelope identity.nodeId with
      | .error e => ([.registerNode identity], .error e)
      | .ok wrapped =>
        ([.registerNode identity, .rotateDek envelope], .ok (wrapped, newGeneration))

/-- The rows the re-encryption loop puts, up to the first one it cannot decrypt, and its result. -/
def reencryptScript (c : Crypto) (plan : RotationPlan) (nonces : Nat → Nonce) :
    List ReplicatedSecret → List ReplicatedSecret × Except SecretsError UInt64
  | [] => ([], .ok plan.newGeneration)
  | row :: rows =>
    if row.dekGeneration = plan.newGeneration then
      reencryptScript c plan (fun i => nonces (i + 1)) rows
    else
      match reencryptRow c plan (nonces 0) row with
      | .error e => ([], .error e)
      | .ok updated =>
        let rest := reencryptScript c plan (fun i => nonces (i + 1)) rows
        (updated :: rest.1, rest.2)

/-- What a rotation proposes and returns, given its snapshot. -/
def rotationScript (c : Crypto) (priv : Bytes32) (uuid : String) (reason : RotateReason)
    (rnd : RotationRandomness) (current : SecretsState) :
    List SecretsRaftOp × Except SecretsError UInt64 :=
  match planRotation c priv uuid reason rnd current with
  | .error e => ([], .error e)
  | .ok plan =>
    let rows := (rnd.order.list current.secrets).map Prod.snd
    let loop := reencryptScript c plan rnd.nonces rows
    (.rotateDek plan.envelope :: loop.1.map .putSecret, loop.2)

section Scripts

variable {node : RaftCoordinator} {priv : Bytes32} {uuid : String}

/-- A proposal the state machine always accepts is one commit. -/
lemma andThen_proposeSecretsOp {α : Type} (hleader : node.isLeader = true) (now : Nat)
    {op : SecretsRaftOp} (hop : ∀ s : SecretsState, (s.apply now op).2 = .ok ())
    (k : Unit → Prog SecretsState (Except SecretsError α)) :
    Prog.andThen (node.proposeSecretsOp now op) k =
      .commit (commitOp now op) fun _ => k () := by
  simp only [proposeSecretsOp, hleader, if_true, Prog.andThen, Prog.bind, hop,
    ClusterState.secretsResponse, proposalOutcome]
  rfl

lemma reencryptRows_eq_script (c : Crypto) (hleader : node.isLeader = true) (now : Nat)
    (plan : RotationPlan) (nonces : Nat → Nonce) (rows : List ReplicatedSecret) :
    reencryptRows c node now plan nonces rows =
      Prog.script (commitOp now)
        ((reencryptScript c plan nonces rows).1.map .putSecret)
        (reencryptScript c plan nonces rows).2 := by
  induction rows generalizing nonces with
  | nil => rfl
  | cons row rows ih =>
    by_cases hskip : row.dekGeneration = plan.newGeneration
    · simp only [reencryptRows, reencryptScript, if_pos hskip, ih]
    · simp only [reencryptRows, reencryptScript, if_neg hskip]
      cases hrow : reencryptRow c plan (nonces 0) row with
      | error e => rfl
      | ok updated =>
        simp only [Prog.lift, map_cons, Prog.script]
        rw [andThen_proposeSecretsOp hleader now (fun _ => rfl), ih]

lemma proposeRotateDek_eq (c : Crypto) (hleader : node.isLeader = true)
    (hpriv : node.nodePriv = some priv) (huuid : node.nodeUuid = some uuid)
    (reason : RotateReason) (rnd : RotationRandomness) (now : Nat) :
    proposeRotateDek c node reason rnd now =
      .get fun current =>
        Prog.script (commitOp now) (rotationScript c priv uuid reason rnd current).1
          (rotationScript c priv uuid reason rnd current).2 := by
  simp only [proposeRotateDek, hleader, if_true, secretsCapability, hpriv, huuid, Prog.lift]
  congr 1
  funext current
  unfold rotationScript
  cases hplan : planRotation c priv uuid reason rnd current with
  | error e => rfl
  | ok plan =>
    simp only [Prog.script]
    rw [andThen_proposeSecretsOp hleader now (fun _ => rfl),
      reencryptRows_eq_script c hleader]

lemma proposeRegisterNodeAndRotate_eq (c : Crypto) (hleader : node.isLeader = true)
    (hpriv : node.nodePriv = some priv) (huuid : node.nodeUuid = some uuid)
    (identity : NodeIdentity) (rnd : JoinRandomness) (now : Nat) :
    proposeRegisterNodeAndRotate c node identity rnd now =
      .get fun current =>
        Prog.script (commitOp now) (joinScript c priv uuid identity rnd current).1
          (joinScript c priv uuid identity rnd current).2 := by
  simp only [proposeRegisterNodeAndRotate, hleader, if_true, secretsCapability, hpriv, huuid,
    Prog.lift]
  congr 1
  funext current
  unfold joinScript
  cases hdek : effectiveDek c priv uuid rnd.freshDek current with
  | error e => rfl
  | ok effective =>
    rcases effective with ⟨dek, baseGeneration⟩
    simp only
    rw [andThen_proposeSecretsOp hleader now (fun _ => rfl)]
    cases hwrap : rewrapForSet c rnd.seeds dek (joinRecipients current identity)
        (saturatingSucc baseGeneration) with
    | error e => rfl
    | ok envelope =>
      cases hjoiner : joinerWrap envelope identity.nodeId with
      | error e => simp only [hjoiner, Prog.script]
      | ok wrapped =>
        simp only [hjoiner, Prog.script]
        rw [andThen_proposeSecretsOp hleader now (fun _ => rfl)]

/-- Without leadership, key or UUID neither orchestration proposes anything. -/
lemma capable_or_inert (node : RaftCoordinator) :
    (node.isLeader = true ∧ ∃ priv uuid, node.nodePriv = some priv ∧ node.nodeUuid = some uuid) ∨
      (∀ c identity rnd now, ∃ e,
          proposeRegisterNodeAndRotate c node identity rnd now = .ret (.error e)) ∧
        ∀ c reason rnd now, ∃ e, proposeRotateDek c node reason rnd now = .ret (.error e) := by
  by_cases hcapable : node.isLeader = true ∧
      ∃ priv uuid, node.nodePriv = some priv ∧ node.nodeUuid = some uuid
  · exact .inl hcapable
  · have hfails (task : String) (hleader : node.isLeader = true) :
        ∃ e, node.secretsCapability task = .error e := by
      unfold secretsCapability
      cases hpriv : node.nodePriv with
      | none => exact ⟨_, rfl⟩
      | some priv =>
        cases huuid : node.nodeUuid with
        | none => exact ⟨_, rfl⟩
        | some uuid => exact absurd ⟨hleader, priv, uuid, hpriv, huuid⟩ hcapable
    refine .inr ⟨fun c identity rnd now => ?_, fun c reason rnd now => ?_⟩
    · unfold proposeRegisterNodeAndRotate
      split
      next hleader =>
        rcases hfails "RegisterNode + RotateDek" hleader with ⟨e, he⟩
        exact ⟨e, by rw [he, Prog.lift]⟩
      · exact ⟨_, rfl⟩
    · unfold proposeRotateDek
      split
      next hleader =>
        rcases hfails "RotateDek" hleader with ⟨e, he⟩
        exact ⟨e, by rw [he, Prog.lift]⟩
      · exact ⟨_, rfl⟩

end Scripts

/-! ## What the scripts contain -/

section Contents

variable {c : Crypto} {priv : Bytes32} {uuid : String} {current : SecretsState}

/-- The envelope holds one wrap of `dek` for every recipient, and no other. -/
def WrapsFor (c : Crypto) (dek : Bytes32) (recipients : HashMap String Bytes32)
    (envelope : WrappedDek) : Prop :=
  ∀ n : String, Option.Rel (IsWrap c dek) recipients[n]? envelope.wraps[n]?

variable {recipients : HashMap String Bytes32} {envelope : WrappedDek} {dek : Bytes32}

lemma wrapsOf_of_wrapsFor (h : WrapsFor c dek recipients envelope) :
    RaftSecretsStore.WrapsOf c dek envelope := by
  intro n wrapped hwrapped
  have hrel := h n
  rw [hwrapped] at hrel
  generalize recipients[n]? = found at hrel
  cases hrel with
  | some his => exact ⟨_, his⟩

lemma exists_wrap_of_wrapsFor {dek recipient : Bytes32} (h : WrapsFor c dek recipients envelope)
    {n : String} (hn : recipients[n]? = some recipient) :
    ∃ wrapped, envelope.wraps[n]? = some wrapped ∧ IsWrap c dek recipient wrapped := by
  have hrel := h n
  rw [hn] at hrel
  generalize envelope.wraps[n]? = found at hrel ⊢
  cases hrel with
  | some his => exact ⟨_, rfl, his⟩

lemma lookup_none_of_wrapsFor (h : WrapsFor c dek recipients envelope) {n : String}
    (hn : recipients[n]? = none) : envelope.wraps[n]? = none := by
  have hrel := h n
  rw [hn] at hrel
  generalize envelope.wraps[n]? = found at hrel ⊢
  cases hrel
  rfl

/-- Whoever unwraps a DEK from an envelope gets the one it wraps. -/
lemma leaderDek_eq_of_wrapsOf (hc : c.Lawful) {dek dek' : Bytes32} {consequence : String}
    (hwraps : RaftSecretsStore.WrapsOf c dek envelope)
    (hok : leaderDek c priv uuid envelope consequence = .ok dek') : dek' = dek := by
  cases hwrapped : envelope.wraps[uuid]? with
  | none => simp [leaderDek, hwrapped] at hok
  | some wrapped =>
    rcases hwraps uuid wrapped hwrapped with ⟨recipient, his⟩
    have hopen : unwrap c priv wrapped = .ok dek' := by
      simpa [leaderDek, hwrapped] using hok
    exact (eq_of_unwrap_ok hc his hopen).1

lemma lookup_activeRecipients (nodes : HashMap String NodeIdentity) (excluded : Option String)
    (n : String) (pubkey : Bytes32) :
    (activeRecipients nodes excluded)[n]? = some pubkey ↔
      ∃ identity, nodes[n]? = some identity ∧ identity.revokedAt = none ∧
        excluded ≠ some n ∧ identity.secretsPubkey = pubkey := by
  simp only [activeRecipients, lookup_collect, Option.bind_eq_some_iff]
  constructor
  · rintro ⟨identity, hidentity, hpubkey⟩
    split at hpubkey
    · cases hpubkey
    · rename_i hrevoked
      split at hpubkey
      · cases hpubkey
      · rename_i hexcluded
        refine ⟨identity, hidentity, by simpa using hrevoked, fun heq => hexcluded heq.symm, ?_⟩
        simpa using hpubkey
  · rintro ⟨identity, hidentity, hrevoked, hexcluded, hpubkey⟩
    refine ⟨identity, hidentity, ?_⟩
    have hne : ¬ some n = excluded := fun heq => hexcluded heq.symm
    simp [hrevoked, hne, hpubkey]

lemma effectiveDek_of_some {envelope : WrappedDek} {fresh : Bytes32} {base : UInt64}
    (henvelope : current.wrappedDek = some envelope)
    (h : effectiveDek c priv uuid fresh current = .ok (dek, base)) :
    base = envelope.dekGeneration ∧
      leaderDek c priv uuid envelope "cluster cannot register a new node" = .ok dek := by
  simp only [effectiveDek, henvelope] at h
  split at h
  · cases h
  next hleader =>
    cases h
    exact ⟨rfl, hleader⟩

/-- A join either proposes nothing, because the leader cannot unwrap the DEK, or registers the
joiner and re-wraps the effective DEK for the active nodes and the joiner. -/
lemma joinScript_cases (hc : c.Lawful) (priv : Bytes32) (uuid : String)
    (current : SecretsState) (identity : NodeIdentity) (rnd : JoinRandomness) :
    (∃ e, effectiveDek c priv uuid rnd.freshDek current = .error e ∧
        joinScript c priv uuid identity rnd current = ([], .error e)) ∨
      ∃ dek base envelope wrapped,
        effectiveDek c priv uuid rnd.freshDek current = .ok (dek, base) ∧
        envelope.dekGeneration = saturatingSucc base ∧
        WrapsFor c dek (joinRecipients current identity) envelope ∧
        joinScript c priv uuid identity rnd current =
          ([.registerNode identity, .rotateDek envelope], .ok (wrapped, saturatingSucc base)) := by
  cases hdek : effectiveDek c priv uuid rnd.freshDek current with
  | error e => exact .inl ⟨e, rfl, by simp only [joinScript, hdek]⟩
  | ok effective =>
    rcases effective with ⟨dek, base⟩
    rcases rewrapForSet_spec hc rnd.seeds dek (joinRecipients current identity)
      (saturatingSucc base) with ⟨envelope, hok, hgeneration, hwraps⟩
    have hjoiner : (joinRecipients current identity)[identity.nodeId]? =
        some identity.secretsPubkey := by
      simp only [joinRecipients, lookup_insert, if_pos]
    rcases exists_wrap_of_wrapsFor hwraps hjoiner with ⟨wrapped, hwrapped, -⟩
    refine .inr ⟨dek, base, envelope, wrapped, rfl, hgeneration, hwraps, ?_⟩
    simp only [joinScript, hdek, hok, joinerWrap, hwrapped]

lemma planRotation_ok (hc : c.Lawful) (reason : RotateReason) (rnd : RotationRandomness)
    {previous : WrappedDek} (hprevious : current.wrappedDek = some previous)
    (hdek : leaderDek c priv uuid previous "cannot rotate" = .ok dek) :
    ∃ plan, planRotation c priv uuid reason rnd current = .ok plan ∧
      plan.previousDek = dek ∧ plan.newDek = rnd.freshDek ∧
      plan.newGeneration = saturatingSucc previous.dekGeneration ∧
      plan.envelope.dekGeneration = plan.newGeneration ∧
      WrapsFor c rnd.freshDek (activeRecipients current.nodes reason.revokedId) plan.envelope := by
  rcases rewrapForSet_spec hc rnd.seeds rnd.freshDek
    (activeRecipients current.nodes reason.revokedId) (saturatingSucc previous.dekGeneration)
    with ⟨envelope, hok, hgeneration, hwraps⟩
  refine
    ⟨{ previousDek := dek
       newDek := rnd.freshDek
       newGeneration := saturatingSucc previous.dekGeneration
       envelope := envelope }, ?_, rfl, rfl, rfl, hgeneration, hwraps⟩
  simp only [planRotation, hprevious, hdek, hok]

/-- Without an envelope, or without a usable wrap, a rotation proposes nothing. -/
lemma rotationScript_error (c : Crypto) (priv : Bytes32) (uuid : String)
    (current : SecretsState) (reason : RotateReason) (rnd : RotationRandomness)
    (h : ∀ previous dek, current.wrappedDek = some previous →
      leaderDek c priv uuid previous "cannot rotate" ≠ .ok dek) :
    ∃ e, rotationScript c priv uuid reason rnd current = ([], .error e) := by
  have hplan : ∃ e, planRotation c priv uuid reason rnd current = .error e := by
    unfold planRotation
    cases hprevious : current.wrappedDek with
    | none => exact ⟨_, rfl⟩
    | some previous =>
      cases hdek : leaderDek c priv uuid previous "cannot rotate" with
      | error e => exact ⟨e, by simp only [hdek]⟩
      | ok dek => exact absurd hdek (h previous dek hprevious)
  rcases hplan with ⟨e, he⟩
  exact ⟨e, by simp only [rotationScript, he]⟩

/-! ### The re-encryption loop -/

variable {plan : RotationPlan}

/-- `updated` is `row` with its plaintext re-encrypted from the old DEK to the new one. -/
def Reencrypted (c : Crypto) (plan : RotationPlan) (row updated : ReplicatedSecret) : Prop :=
  ∃ plaintext ciphertext,
    decrypt c plan.previousDek row.ciphertext = .ok plaintext ∧
    IsCiphertext c plan.newDek plaintext ciphertext ∧
    updated = { row with ciphertext := ciphertext, dekGeneration := plan.newGeneration }

def pendingRows (plan : RotationPlan) (rows : List ReplicatedSecret) : List ReplicatedSecret :=
  rows.filter fun row => row.dekGeneration ≠ plan.newGeneration

lemma reencryptRow_ok (hc : c.Lawful) (nonce : Nonce) {row : ReplicatedSecret} {plaintext : Bytes}
    (h : decrypt c plan.previousDek row.ciphertext = .ok plaintext) :
    ∃ updated, reencryptRow c plan nonce row = .ok updated ∧ Reencrypted c plan row updated := by
  rcases encrypt_ok hc plan.newDek nonce plaintext with ⟨ciphertext, hct⟩
  refine ⟨_, by simp only [reencryptRow, h, hct], plaintext, ciphertext, h, ⟨nonce, hct⟩, rfl⟩

/-- The loop re-encrypts the pending rows in order.  It returns the new generation if they all
decrypt; otherwise it fails at the first one that does not. -/
lemma reencryptScript_spec (hc : c.Lawful) (plan : RotationPlan) (nonces : Nat → Nonce)
    (rows : List ReplicatedSecret) :
    let loop := reencryptScript c plan nonces rows
    (loop.2 = .ok plan.newGeneration ∧
        List.Forall₂ (Reencrypted c plan) (pendingRows plan rows) loop.1) ∨
      ((∃ e, loop.2 = .error e) ∧ ∃ done row rest, pendingRows plan rows = done ++ row :: rest ∧
        List.Forall₂ (Reencrypted c plan) done loop.1 ∧
        ∃ e, decrypt c plan.previousDek row.ciphertext = .error e) := by
  intro loop
  induction rows generalizing nonces with
  | nil => exact .inl ⟨rfl, .nil⟩
  | cons row rows ih =>
    by_cases hskip : row.dekGeneration = plan.newGeneration
    · have hloop : loop = reencryptScript c plan (fun i => nonces (i + 1)) rows := by
        simp only [loop, reencryptScript, if_pos hskip]
      have hpending : pendingRows plan (row :: rows) = pendingRows plan rows := by
        simp [pendingRows, hskip]
      rw [hloop, hpending]
      exact ih fun i => nonces (i + 1)
    · have hpending : pendingRows plan (row :: rows) = row :: pendingRows plan rows := by
        simp [pendingRows, hskip]
      rw [hpending]
      cases hdecrypt : decrypt c plan.previousDek row.ciphertext with
      | error e =>
        have hloop : loop = ([], .error e) := by
          simp only [loop, reencryptScript, if_neg hskip, reencryptRow, hdecrypt]
        rw [hloop]
        exact .inr ⟨⟨e, rfl⟩, [], row, pendingRows plan rows, rfl, .nil, e, hdecrypt⟩
      | ok plaintext =>
        rcases reencryptRow_ok hc (nonces 0) hdecrypt with ⟨updated, hrow, hupdated⟩
        have hloop : loop =
            (updated :: (reencryptScript c plan (fun i => nonces (i + 1)) rows).1,
              (reencryptScript c plan (fun i => nonces (i + 1)) rows).2) := by
          simp only [loop, reencryptScript, if_neg hskip, hrow]
        rw [hloop]
        rcases ih fun i => nonces (i + 1) with
          ⟨hok, hall⟩ | ⟨herror, done, stuck, rest, hsplit, hdone, hstuck⟩
        · exact .inl ⟨hok, .cons hupdated hall⟩
        · refine .inr ⟨herror, row :: done, stuck, rest, ?_, .cons hupdated hdone, hstuck⟩
          rw [hsplit, cons_append]

end Contents

/-! ## What committed operations do to the rows -/

section Commits

variable (now : Nat)

/-- Every row is stored under its own storage key. -/
def KeyedRows (s : SecretsState) : Prop :=
  ∀ (k : String) (row : ReplicatedSecret), s.secrets[k]? = some row → row.storageKey = k

def commitAll (ops : List SecretsRaftOp) (s : SecretsState) : SecretsState :=
  ops.foldl (fun s op => commitOp now op s) s

@[simp] lemma commitAll_cons (op : SecretsRaftOp) (ops : List SecretsRaftOp)
    (s : SecretsState) : commitAll now (op :: ops) s = commitAll now ops (commitOp now op s) := rfl

section

variable (rows : List ReplicatedSecret) (s : SecretsState)

include rows s

lemma commitAll_puts_nodes :
    (commitAll now (rows.map .putSecret) s).nodes = s.nodes := by
  induction rows generalizing s with
  | nil => rfl
  | cons row rows ih => exact ih _

lemma commitAll_puts_wrappedDek :
    (commitAll now (rows.map .putSecret) s).wrappedDek = s.wrappedDek := by
  induction rows generalizing s with
  | nil => rfl
  | cons row rows ih => exact ih _

lemma lookup_commitAll_puts_of_not_mem {k : String} (h : ∀ row ∈ rows, row.storageKey ≠ k) :
    (commitAll now (rows.map .putSecret) s).secrets[k]? = s.secrets[k]? := by
  induction rows generalizing s with
  | nil => rfl
  | cons row rows ih =>
    have hne : row.storageKey ≠ k := h row (by simp)
    have hrest := ih (commitOp now (.putSecret row) s) fun r hr => h r (by simp [hr])
    rw [map_cons, commitAll_cons, hrest]
    exact lookup_insert_of_ne _ _ hne

lemma lookup_commitAll_puts_of_mem (hnodup : (rows.map (·.storageKey)).Nodup)
    {row : ReplicatedSecret} (h : row ∈ rows) :
    (commitAll now (rows.map .putSecret) s).secrets[row.storageKey]? = some row := by
  induction rows generalizing s with
  | nil => simp at h
  | cons first rows ih =>
    rcases nodup_cons.mp hnodup with ⟨hfirst, hrest⟩
    rcases mem_cons.mp h with rfl | hmem
    · have hothers : ∀ r ∈ rows, r.storageKey ≠ row.storageKey := by
        intro r hr heq
        exact hfirst (mem_map.mpr ⟨r, hr, heq⟩)
      rw [map_cons, commitAll_cons, lookup_commitAll_puts_of_not_mem now rows _ hothers]
      simp [commitOp, SecretsState.apply]
    · exact ih _ hrest hmem

end

section Reencryption

variable {c : Crypto} {plan : RotationPlan} {rows updates : List ReplicatedSecret}

lemma Reencrypted.storageKey_eq {row updated : ReplicatedSecret}
    (h : Reencrypted c plan row updated) : updated.storageKey = row.storageKey := by
  rcases h with ⟨plaintext, ciphertext, -, -, rfl⟩
  rfl

lemma storageKeys_eq_of_reencrypted (h : List.Forall₂ (Reencrypted c plan) rows updates) :
    updates.map (·.storageKey) = rows.map (·.storageKey) := by
  induction h with
  | nil => rfl
  | cons hrow _ ih => rw [map_cons, map_cons, ih, hrow.storageKey_eq]

lemma isCiphertext_of_mem_updates (h : List.Forall₂ (Reencrypted c plan) rows updates)
    {updated : ReplicatedSecret} (hupdated : updated ∈ updates) :
    ∃ plaintext, IsCiphertext c plan.newDek plaintext updated.ciphertext := by
  induction h with
  | nil => simp at hupdated
  | cons hrow _ ih =>
    rcases mem_cons.mp hupdated with rfl | htail
    · rcases hrow with ⟨plaintext, ciphertext, -, hct, rfl⟩
      exact ⟨plaintext, hct⟩
    · exact ih htail

variable {row : ReplicatedSecret}

lemma exists_updated_of_mem (h : List.Forall₂ (Reencrypted c plan) rows updates)
    (hrow : row ∈ rows) : ∃ updated ∈ updates, Reencrypted c plan row updated := by
  induction h with
  | nil => simp at hrow
  | @cons first updated rows updates hfirst _ ih =>
    rcases mem_cons.mp hrow with rfl | htail
    · exact ⟨updated, by simp, hfirst⟩
    · rcases ih htail with ⟨other, hother, hreencrypted⟩
      exact ⟨other, by simp [hother], hreencrypted⟩

/-- Putting the re-encrypted rows replaces exactly those rows. -/
lemma lookup_commitAll_reencrypted (h : List.Forall₂ (Reencrypted c plan) rows updates)
    (hnodup : (rows.map (·.storageKey)).Nodup) (s : SecretsState) :
    (∀ row ∈ rows, ∃ updated, Reencrypted c plan row updated ∧
        (commitAll now (updates.map .putSecret) s).secrets[row.storageKey]? = some updated) ∧
      ∀ k : String, (∀ row ∈ rows, row.storageKey ≠ k) →
        (commitAll now (updates.map .putSecret) s).secrets[k]? = s.secrets[k]? := by
  have hkeys := storageKeys_eq_of_reencrypted h
  refine ⟨?_, ?_⟩
  · intro row hrow
    rcases exists_updated_of_mem h hrow with ⟨updated, hmem, hreencrypted⟩
    refine ⟨updated, hreencrypted, ?_⟩
    rw [← hreencrypted.storageKey_eq]
    exact lookup_commitAll_puts_of_mem now updates s (by rw [hkeys]; exact hnodup) hmem
  · intro k hk
    refine lookup_commitAll_puts_of_not_mem now updates s ?_
    intro updated hmem heq
    have hmap : k ∈ updates.map (·.storageKey) := mem_map.mpr ⟨updated, hmem, heq⟩
    rw [hkeys] at hmap
    rcases mem_map.mp hmap with ⟨row, hrow, hrowkey⟩
    exact hk row hrow hrowkey

variable {s : SecretsState}

lemma rows_keys_nodup (order : IterOrder String ReplicatedSecret) (hkeyed : KeyedRows s) :
    (((order.list s.secrets).map Prod.snd).map (·.storageKey)).Nodup := by
  have hkeys : ((order.list s.secrets).map Prod.snd).map (·.storageKey) =
      (order.list s.secrets).map Prod.fst := by
    rw [map_map]
    refine map_congr_left ?_
    rintro ⟨k, row⟩ hmem
    exact hkeyed k row ((order.mem_list s.secrets).mp hmem)
  rw [hkeys]
  exact order.keys_nodup s.secrets

lemma mem_rows (order : IterOrder String ReplicatedSecret) (hkeyed : KeyedRows s) :
    row ∈ (order.list s.secrets).map Prod.snd ↔ s.secrets[row.storageKey]? = some row := by
  constructor
  · intro hmem
    rcases mem_map.mp hmem with ⟨⟨k, row'⟩, hentry, rfl⟩
    have hlookup := (order.mem_list s.secrets).mp hentry
    rw [hkeyed k row' hlookup]
    exact hlookup
  · intro hlookup
    exact mem_map.mpr ⟨(row.storageKey, row), (order.mem_list s.secrets).mpr hlookup, rfl⟩

end Reencryption

end Commits

/-! ## A call by a leader with secrets capability -/

/-- A call of `propose_rotate_dek` on a node that is the leader and has its key and UUID. -/
structure RotationCall where
  node : RaftCoordinator
  priv : Bytes32
  uuid : String
  isLeader : node.isLeader = true
  hasPriv : node.nodePriv = some priv
  hasUuid : node.nodeUuid = some uuid
  reason : RotateReason
  rnd : RotationRandomness
  now : Nat

namespace RotationCall

def prog (c : Crypto) (call : RotationCall) : Prog SecretsState (Except SecretsError UInt64) :=
  proposeRotateDek c call.node call.reason call.rnd call.now

def script (c : Crypto) (call : RotationCall) (current : SecretsState) :
    List SecretsRaftOp × Except SecretsError UInt64 :=
  rotationScript c call.priv call.uuid call.reason call.rnd current

lemma prog_eq (c : Crypto) (call : RotationCall) : call.prog c = .get fun current =>
      Prog.script (commitOp call.now) (call.script c current).1 (call.script c current).2 :=
  proposeRotateDek_eq c call.isLeader call.hasPriv call.hasUuid call.reason call.rnd call.now

def rows (call : RotationCall) (current : SecretsState) : List ReplicatedSecret :=
  (call.rnd.order.list current.secrets).map Prod.snd

section Rows

variable {call : RotationCall} {plan : RotationPlan} {s : SecretsState} {row : ReplicatedSecret}

lemma mem_rows_of_lookup (hkeyed : KeyedRows s) {k : String} (h : s.secrets[k]? = some row) :
    row ∈ call.rows s := by
  refine (RaftCoordinator.mem_rows call.rnd.order hkeyed).mpr ?_
  rw [hkeyed k row h]
  exact h

lemma lookup_of_mem_rows (hkeyed : KeyedRows s) (h : row ∈ call.rows s) :
    s.secrets[row.storageKey]? = some row :=
  (RaftCoordinator.mem_rows call.rnd.order hkeyed).mp h

lemma mem_pendingRows {rows : List ReplicatedSecret} :
    row ∈ pendingRows plan rows ↔ row ∈ rows ∧ row.dekGeneration ≠ plan.newGeneration := by
  simp [pendingRows]

lemma pending_keys_nodup (call : RotationCall) (plan : RotationPlan) (hkeyed : KeyedRows s) :
    ((pendingRows plan (call.rows s)).map (·.storageKey)).Nodup :=
  (rows_keys_nodup call.rnd.order hkeyed).sublist (filter_sublist.map _)

end Rows

/-- The caller holds a wrap in the envelope of `s`, and it unwraps to `dek`. -/
def Opens (c : Crypto) (call : RotationCall) (s : SecretsState) (dek : Bytes32) : Prop :=
  ∃ envelope wrapped, s.wrappedDek = some envelope ∧ envelope.wraps[call.uuid]? = some wrapped ∧
    unwrap c call.priv wrapped = .ok dek

variable {s : SecretsState}

/-- The script of a call that opens the envelope: the new envelope, then the re-encrypted rows. -/
lemma script_of_opens {c : Crypto} (hc : c.Lawful) (call : RotationCall) {envelope : WrappedDek}
    (henvelope : s.wrappedDek = some envelope) {dek : Bytes32} (hopens : call.Opens c s dek) :
    ∃ plan, plan.previousDek = dek ∧ plan.newDek = call.rnd.freshDek ∧
      plan.newGeneration = saturatingSucc envelope.dekGeneration ∧
      plan.envelope.dekGeneration = plan.newGeneration ∧
      WrapsFor c plan.newDek (activeRecipients s.nodes call.reason.revokedId) plan.envelope ∧
      call.script c s =
        (.rotateDek plan.envelope ::
            (reencryptScript c plan call.rnd.nonces (call.rows s)).1.map .putSecret,
          (reencryptScript c plan call.rnd.nonces (call.rows s)).2) := by
  rcases hopens with ⟨envelope', wrapped, henvelope', hwrapped, hunwrap⟩
  have hsame : envelope = envelope' := Option.some.inj (henvelope.symm.trans henvelope')
  subst hsame
  have hdek : leaderDek c call.priv call.uuid envelope "cannot rotate" = .ok dek := by
    simp only [leaderDek, hwrapped, hunwrap]
  rcases planRotation_ok hc call.reason call.rnd henvelope hdek with
    ⟨plan, hplan, hprevious, hnewdek, hnew, hgeneration, hwraps⟩
  rw [← hnewdek] at hwraps
  refine ⟨plan, hprevious, hnewdek, hnew, hgeneration, hwraps, ?_⟩
  simp only [script, rotationScript, hplan]
  rfl

/-- A call that does not open the envelope proposes nothing. -/
lemma script_cases (c : Crypto) (call : RotationCall) (s : SecretsState) :
    (∃ e, call.script c s = ([], .error e)) ∨
      ∃ envelope dek, s.wrappedDek = some envelope ∧ call.Opens c s dek := by
  by_cases hopen : ∃ envelope dek, s.wrappedDek = some envelope ∧
      leaderDek c call.priv call.uuid envelope "cannot rotate" = .ok dek
  · rcases hopen with ⟨envelope, dek, henvelope, hdek⟩
    refine .inr ⟨envelope, dek, henvelope, ?_⟩
    cases hwrapped : envelope.wraps[call.uuid]? with
    | none => simp [leaderDek, hwrapped] at hdek
    | some wrapped =>
      exact ⟨envelope, wrapped, henvelope, hwrapped, by simpa [leaderDek, hwrapped] using hdek⟩
  · exact .inl (rotationScript_error c call.priv call.uuid s call.reason call.rnd
      fun envelope dek henvelope hdek => hopen ⟨envelope, dek, henvelope, hdek⟩)

variable {plan : RotationPlan}

section

variable (c : Crypto) (call : RotationCall)
  (hscript : call.script c s = (.rotateDek plan.envelope ::
    (reencryptScript c plan call.rnd.nonces (call.rows s)).1.map .putSecret,
    (reencryptScript c plan call.rnd.nonces (call.rows s)).2))

include c call hscript

/-- Run to its end, such a call installs the new envelope and puts the re-encrypted rows. -/
lemma run_prog :
    (call.prog c).run s =
      (commitAll call.now
          ((reencryptScript c plan call.rnd.nonces (call.rows s)).1.map .putSecret)
          { s with wrappedDek := some plan.envelope },
        (reencryptScript c plan call.rnd.nonces (call.rows s)).2) := by
  rw [prog_eq, Prog.run_get, Prog.run_script, hscript]
  rfl

/-- Cut off after `k + 1` proposals, it has installed the envelope and put the first `k` rows. -/
lemma interrupt_prog_succ (k : Nat) :
    (call.prog c).interrupt (k + 1) s =
      commitAll call.now
        (((reencryptScript c plan call.rnd.nonces (call.rows s)).1.take k).map .putSecret)
        { s with wrappedDek := some plan.envelope } := by
  rw [prog_eq, Prog.interrupt_get, Prog.interrupt_script, hscript, take_succ_cons,
    ← map_take]
  rfl

end

lemma interrupt_prog_zero (c : Crypto) (call : RotationCall) (s : SecretsState) :
    (call.prog c).interrupt 0 s = s := by
  rw [prog_eq, Prog.interrupt_get, Prog.interrupt_script, take_zero]
  rfl

end RotationCall

/-! ## A small cluster

One node, `"a"`, that leads, and one stored secret; the values are those of the transparent
cryptography. -/

namespace Sample

def key (b : UInt8) : Bytes32 := Vector.replicate 32 b

def leader : RaftCoordinator :=
  { isLeader := true
    leaderId := some 1
    nodePriv := some (key 1)
    nodeUuid := some "a" }

def identity (nodeId : String) (b : UInt8) : NodeIdentity :=
  { nodeId := nodeId
    secretsPubkey := key b
    wgPubkey := "wg"
    joinedAt := 0
    revokedAt := none }

def rotation (fresh : UInt8) : RotationRandomness :=
  { freshDek := key fresh
    seeds := fun _ => key 0
    nonces := fun _ => Vector.replicate 24 0
    order := IterOrder.byKey }

def row : ReplicatedSecret :=
  { storageKey := "app:token"
    ciphertext := List.replicate 24 0 ++ (key 7).toList ++ [1, 2]
    dekGeneration := 1
    metadata := RaftSecretsStore.nextMetadata "token" 0 none
    nodeAffinity := none }

def envelope : WrappedDek :=
  { dekGeneration := 1
    wraps := (∅ : HashMap String Bytes).insert "a" ((key 1).toList ++ (key 7).toList) }

def state : SecretsState :=
  { SecretsState.default with
    nodes := (∅ : HashMap String NodeIdentity).insert "a" (identity "a" 1)
    wrappedDek := some envelope
    secrets := (∅ : HashMap String ReplicatedSecret).insert "app:token" row }

lemma hasEnvelope_state : state.wrappedDek = some envelope := rfl

def call (fresh : UInt8) : RotationCall :=
  { node := leader
    priv := key 1
    uuid := "a"
    isLeader := rfl
    hasPriv := rfl
    hasUuid := rfl
    reason := .scheduled
    rnd := rotation fresh
    now := 0 }

lemma lookup_state {k : String} {other : ReplicatedSecret}
    (h : state.secrets[k]? = some other) : "app:token" = k ∧ row = other := by
  simp only [state, lookup_insert] at h
  split at h
  · rename_i hk
    exact ⟨hk, Option.some.inj h⟩
  · simp at h

lemma keyedRows_state : KeyedRows state := by
  intro k other hother
  rcases lookup_state hother with ⟨rfl, rfl⟩
  rfl

lemma call_opens_state (fresh : UInt8) : (call fresh).Opens Crypto.transparent state (key 7) := by
  have hwrapped : envelope.wraps["a"]? = some ((key 1).toList ++ (key 7).toList) := by decide
  have hunwrap : unwrap Crypto.transparent (key 1)
      ((key 1).toList ++ (key 7).toList) = .ok (key 7) := by decide
  exact ⟨envelope, _, rfl, hwrapped, hunwrap⟩

end Sample

end RaftCoordinator

end ZLayer.Scheduler
