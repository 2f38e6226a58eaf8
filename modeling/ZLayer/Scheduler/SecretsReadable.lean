import ZLayer.Scheduler.DekRotation

/-!
# SecretsReadable — stored secrets across joins, rotations and writes

Complete leader operations run one after the other: joins, rotations, writes, deletes and
revocations, with reads in between.  `Cluster` is the replicated secrets state, the DEK cache of
every store, and, as a ghost, the value of the last successful write of every stored key.

A reader accepts only rows on the generation of the current envelope.  A rotation re-encrypts the
rows; a join re-wraps the DEK under the next generation and leaves the rows behind.  `Safe` is the
condition on a step under which every stored secret stays readable: no join while secrets are
stored (unless the generation counter is saturated and does not move), no rotation from the
saturated generation, and no rotation that excludes a node which is registered and not revoked.
-/

namespace ZLayer.Scheduler

open Lib Secrets HashMap List

/-! ## The system -/

structure Cluster where
  state : SecretsState
  /-- The DEK cache of the store that runs with this node id and private key. -/
  caches : String × Bytes32 → Option CachedDek
  /-- The value of the last successful write of every stored key. -/
  values : HashMap String String

/-- A complete operation, as issued by the node with the given coordinator. -/
inductive LeaderOp
  | registerNodeAndRotate (node : RaftCoordinator) (identity : NodeIdentity)
      (rnd : RaftCoordinator.JoinRandomness)
  | rotateDek (node : RaftCoordinator) (reason : RaftCoordinator.RotateReason)
      (rnd : RaftCoordinator.RotationRandomness)
  | setSecret (node : RaftCoordinator) (nodeId : String) (priv : Bytes32)
      (scope name value : String) (nonce : Nonce) (secs : Int64)
  | deleteSecret (node : RaftCoordinator) (scope name : String)
  | revokeNode (node : RaftCoordinator) (nodeId : String)
  | readSecret (nodeId : String) (priv : Bytes32) (scope name : String)

namespace Cluster

open RaftCoordinator RaftSecretsStore

def initial : Cluster :=
  { state := .default
    caches := fun _ => none
    values := ∅ }

def storeOf (cl : Cluster) (nodeId : String) (priv : Bytes32) : RaftSecretsStore :=
  { nodePriv := priv
    nodeId := nodeId
    dekCache := cl.caches (nodeId, priv) }

/-- Record the cache a store ends with. -/
def withCache (cl : Cluster) (nodeId : String) (priv : Bytes32) (cache : Option CachedDek) :
    Cluster :=
  { cl with caches := Function.update cl.caches (nodeId, priv) cache }

def step (c : Crypto) (utf8Error : Bytes → String) (now : Nat) (cl : Cluster) : LeaderOp → Cluster
  | .registerNodeAndRotate node identity rnd =>
    { cl with state := ((proposeRegisterNodeAndRotate c node identity rnd now).run cl.state).1 }
  | .rotateDek node reason rnd =>
    { cl with state := ((proposeRotateDek c node reason rnd now).run cl.state).1 }
  | .setSecret node nodeId priv scope name value nonce secs =>
    let result := (setSecret c (node.handle now) (cl.storeOf nodeId priv)
      scope name value nonce secs).run cl.state
    let cl' := { cl with state := result.1 }.withCache nodeId priv result.2.1.dekCache
    match result.2.2 with
    | .ok () =>
      { cl' with values := cl.values.insert (makeKey scope name) value }
    | .error _ => cl'
  | .deleteSecret node scope name =>
    let result := (deleteSecret (node.handle now) scope name).run cl.state
    match result.2 with
    | .ok () =>
      { cl with
        state := result.1
        values := cl.values.erase (makeKey scope name) }
    | .error _ => { cl with state := result.1 }
  | .revokeNode node nodeId =>
    { cl with state := ((node.proposeSecretsOp now (.revokeNode nodeId)).run cl.state).1 }
  | .readSecret nodeId priv scope name =>
    cl.withCache nodeId priv
      ((cl.storeOf nodeId priv).readInner c utf8Error cl.state scope name).1.dekCache

def run (c : Crypto) (utf8Error : Bytes → String) (cl : Cluster) (ops : List (Nat × LeaderOp)) :
    Cluster :=
  ops.foldl (fun cl op => cl.step c utf8Error op.1 op.2) cl

/-! ## The condition on a step -/

/-- The node is the leader and can unwrap the DEK of the current envelope, if there is one. -/
def CanOrchestrate (c : Crypto) (node : RaftCoordinator) (state : SecretsState) : Prop :=
  node.isLeader = true ∧ ∃ priv uuid, node.nodePriv = some priv ∧ node.nodeUuid = some uuid ∧
    ∀ envelope, state.wrappedDek = some envelope → ∃ wrapped dek,
      envelope.wraps[uuid]? = some wrapped ∧ ClusterDek.unwrap c priv wrapped = .ok dek

/-- The generation counter has reached its end. -/
def Saturated (state : SecretsState) : Prop :=
  ∃ envelope, state.wrappedDek = some envelope ∧ envelope.dekGeneration = u64Max

def Safe (c : Crypto) (cl : Cluster) : LeaderOp → Prop
  | .registerNodeAndRotate node _ _ =>
    CanOrchestrate c node cl.state → cl.state.secrets = ∅ ∨ Saturated cl.state
  | .rotateDek node reason _ =>
    CanOrchestrate c node cl.state → ¬ Saturated cl.state ∧
      ∀ n identity, reason.revokedId = some n → cl.state.nodes[n]? = some identity →
        identity.revokedAt ≠ none
  | _ => True

/-- Every step of the run meets the condition in the state it starts from. -/
def SafeRun (c : Crypto) (utf8Error : Bytes → String) (cl : Cluster) : List (Nat × LeaderOp) → Prop
  | [] => True
  | op :: ops => cl.Safe c op.2 ∧ SafeRun c utf8Error (cl.step c utf8Error op.1 op.2) ops

/-! ## The invariant -/

/-- What ties envelope, rows, wraps and caches to the DEK in force. -/
structure DekInv (c : Crypto) (cl : Cluster) (envelope : WrappedDek) (dek : Bytes32) : Prop where
  wraps : WrapsOf c dek envelope
  members : ∀ (n : String) (identity : NodeIdentity), cl.state.nodes[n]? = some identity →
    identity.revokedAt = none → ∃ wrapped, envelope.wraps[n]? = some wrapped ∧
      ClusterDek.IsWrap c dek identity.secretsPubkey wrapped
  rows : ∀ (k : String) (row : ReplicatedSecret), cl.state.secrets[k]? = some row →
    row.dekGeneration = envelope.dekGeneration ∧ ∃ value, cl.values[k]? = some value ∧
      ClusterDek.IsCiphertext c dek (utf8Bytes value) row.ciphertext
  caches : ∀ p cached, cl.caches p = some cached →
    cached.generation ≤ envelope.dekGeneration ∧
      (cached.generation = envelope.dekGeneration → cached.dek = dek)

structure Inv (c : Crypto) (cl : Cluster) : Prop where
  keyed : ∀ (k : String) (row : ReplicatedSecret), cl.state.secrets[k]? = some row →
    row.storageKey = k ∧ ∃ scope name, k = makeKey scope name
  noDek : cl.state.wrappedDek = none → cl.state.secrets = ∅ ∧ ∀ p, cl.caches p = none
  withDek : ∀ envelope, cl.state.wrappedDek = some envelope → ∃ dek, DekInv c cl envelope dek

/-- Every stored secret is read by every node that is registered, not revoked and allowed by the
secret's affinity, with the value of its last successful write. -/
def Readable (c : Crypto) (utf8Error : Bytes → String) (cl : Cluster) : Prop :=
  ∀ (k : String) (row : ReplicatedSecret), cl.state.secrets[k]? = some row →
    ∃ scope name value, k = makeKey scope name ∧ cl.values[k]? = some value ∧
      ∀ scope' name' n identity priv, k = makeKey scope' name' →
        cl.state.nodes[n]? = some identity → identity.revokedAt = none →
        identity.secretsPubkey = c.publicKey priv →
        nodeAllowed n row.nodeAffinity = true →
        ((cl.storeOf n priv).readInner c utf8Error cl.state scope' name').2 = .ok (some value)

variable {c : Crypto} {utf8Error : Bytes → String} {cl : Cluster}

lemma DekInv.cacheFits {envelope : WrappedDek} {dek : Bytes32} (h : DekInv c cl envelope dek)
    (nodeId : String) (priv : Bytes32) :
    CacheFits envelope dek (cl.storeOf nodeId priv).dekCache :=
  fun cached hcached => (h.caches (nodeId, priv) cached hcached).2

lemma DekInv.current_wraps {envelope : WrappedDek} {dek : Bytes32}
    (h : DekInv c cl envelope dek) (hdek : cl.state.wrappedDek = some envelope) :
    ∀ current, cl.state.wrappedDek = some current → WrapsOf c dek current := by
  simpa [hdek] using h.wraps

lemma DekInv.current_cacheFits {envelope : WrappedDek} {dek : Bytes32}
    (h : DekInv c cl envelope dek) (hdek : cl.state.wrappedDek = some envelope) (nodeId : String)
    (priv : Bytes32) : ∀ current, cl.state.wrappedDek = some current →
      CacheFits current dek (cl.storeOf nodeId priv).dekCache := by
  simpa [hdek] using h.cacheFits nodeId priv

lemma Inv.readable (hc : c.Lawful) (h : Inv c cl) : Readable c utf8Error cl := by
  intro k row hrow
  rcases (h.keyed k row hrow).2 with ⟨scope, name, hkey⟩
  cases henvelope : cl.state.wrappedDek with
  | none =>
    rw [(h.noDek henvelope).1] at hrow
    simp at hrow
  | some envelope =>
    rcases h.withDek envelope henvelope with ⟨dek, hdek⟩
    rcases hdek.rows k row hrow with ⟨hgeneration, value, hvalue, hct⟩
    refine ⟨scope, name, value, hkey, hvalue, ?_⟩
    intro scope' name' n identity priv hkey' hidentity hrevoked hpubkey hallowed
    rcases hdek.members n identity hidentity hrevoked with ⟨wrapped, hown, his⟩
    rw [hpubkey] at his
    rw [hkey'] at hrow
    exact readInner_ok hc utf8Error hrow hallowed henvelope hgeneration
      hdek.wraps (hdek.cacheFits n priv) hown his hct

lemma inv_initial (c : Crypto) : Inv c initial :=
  { keyed := by
      intro k row hrow
      simp [initial, SecretsState.default] at hrow
    noDek := fun _ => ⟨rfl, fun _ => rfl⟩
    withDek := by
      intro envelope henvelope
      simp [initial, SecretsState.default] at henvelope }

lemma Inv.of_dek {envelope : WrappedDek} {dek : Bytes32}
    (hkeyed : ∀ (k : String) (row : ReplicatedSecret), cl.state.secrets[k]? = some row →
      row.storageKey = k ∧ ∃ scope name, k = makeKey scope name)
    (hdek : cl.state.wrappedDek = some envelope) (hinv : DekInv c cl envelope dek) : Inv c cl :=
  ⟨hkeyed, by simp [hdek], by simpa [hdek] using ⟨dek, hinv⟩⟩

/-! ## Joins -/

variable {node : RaftCoordinator} {envelope : WrappedDek} {dek priv : Bytes32} {uuid : String}

lemma canOrchestrate_of_leaderDek (hleader : node.isLeader = true)
    (hpriv : node.nodePriv = some priv) (huuid : node.nodeUuid = some uuid)
    (henvelope : cl.state.wrappedDek = some envelope) {consequence : String}
    (hdek : leaderDek c priv uuid envelope consequence = .ok dek) :
    CanOrchestrate c node cl.state := by
  refine ⟨hleader, priv, uuid, hpriv, huuid, fun current hcurrent => ?_⟩
  cases henvelope.symm.trans hcurrent
  cases hwrapped : envelope.wraps[uuid]? with
  | none => simp [leaderDek, hwrapped] at hdek
  | some wrapped => exact ⟨wrapped, dek, rfl, by simpa [leaderDek, hwrapped] using hdek⟩

lemma DekInv.leaderDek_eq (hc : c.Lawful) {dek' : Bytes32} {consequence : String}
    (h : DekInv c cl envelope dek)
    (hok : leaderDek c priv uuid envelope consequence = .ok dek') : dek' = dek :=
  leaderDek_eq_of_wrapsOf hc h.wraps hok

/-- A cache that fits the old envelope fits one of a later generation. -/
lemma cache_lt_of_rotated {dek' : Bytes32} (h : DekInv c cl envelope dek)
    (hmax : envelope.dekGeneration ≠ u64Max) {p : String × Bytes32} {cached : CachedDek}
    (hcached : cl.caches p = some cached) :
    cached.generation ≤ saturatingSucc envelope.dekGeneration ∧
      (cached.generation = saturatingSucc envelope.dekGeneration → cached.dek = dek') := by
  have hle := (h.caches p cached hcached).1
  have hlt := UInt64.lt_of_le_of_lt hle (lt_saturatingSucc hmax)
  refine ⟨UInt64.le_of_lt hlt, fun heq => ?_⟩
  rw [heq] at hlt
  exact absurd hlt (UInt64.lt_irrefl _)

/-- A join keeps the DEK; rows and caches stay in step with the generation because there are no
rows, or because the generation does not move. -/
lemma dekInv_join (hc : c.Lawful) (h : Inv c cl) {identity : NodeIdentity}
    {rnd : JoinRandomness} (hleader : node.isLeader = true) (hpriv : node.nodePriv = some priv)
    (huuid : node.nodeUuid = some uuid)
    (hsafe : cl.Safe c (.registerNodeAndRotate node identity rnd)) {base : UInt64}
    (heffective : effectiveDek c priv uuid rnd.freshDek cl.state = .ok (dek, base))
    (hgeneration : envelope.dekGeneration = saturatingSucc base)
    (hwraps : WrapsFor c dek (joinRecipients cl.state identity) envelope) :
    DekInv c
      { cl with
        state :=
          { cl.state with
            nodes := cl.state.nodes.insert identity.nodeId identity
            wrappedDek := some envelope } } envelope dek := by
  have hmembers : ∀ (n : String) (identity' : NodeIdentity),
      (cl.state.nodes.insert identity.nodeId identity)[n]? = some identity' →
        identity'.revokedAt = none → ∃ wrapped, envelope.wraps[n]? = some wrapped ∧
          ClusterDek.IsWrap c dek identity'.secretsPubkey wrapped := by
    intro n identity' hn hactive
    refine exists_wrap_of_wrapsFor hwraps ?_
    rw [lookup_insert] at hn
    rw [joinRecipients, lookup_insert]
    by_cases hid : identity.nodeId = n
    · have hsame : identity = identity' := by simpa [hid] using hn
      rw [if_pos hid, hsame]
    · rw [if_neg hid] at hn ⊢
      rw [lookup_activeRecipients]
      exact ⟨identity', hn, hactive, by simp, rfl⟩
  cases hprevious : cl.state.wrappedDek with
  | none =>
    rcases h.noDek hprevious with ⟨hempty, hnocache⟩
    refine ⟨wrapsOf_of_wrapsFor hwraps, hmembers, ?_, ?_⟩
    · intro k row hrow
      simp [hempty] at hrow
    · intro p cached hcached
      simp [hnocache p] at hcached
  | some previous =>
    rcases h.withDek previous hprevious with ⟨dek₀, hinv⟩
    rcases effectiveDek_of_some hprevious heffective with ⟨rfl, hdek⟩
    cases hinv.leaderDek_eq hc hdek
    have hcan := canOrchestrate_of_leaderDek hleader hpriv huuid hprevious hdek
    by_cases hmax : previous.dekGeneration = u64Max
    · -- the counter is saturated: the new envelope has the old generation and the old DEK
      have hkeep : envelope.dekGeneration = previous.dekGeneration := by
        rw [hgeneration, hmax, saturatingSucc_max]
      refine ⟨wrapsOf_of_wrapsFor hwraps, hmembers, ?_, ?_⟩
      · rw [hkeep]
        exact hinv.rows
      · rw [hkeep]
        exact hinv.caches
    · have hempty : cl.state.secrets = ∅ := by
        rcases hsafe hcan with hempty | ⟨envelope', henvelope', hsaturated⟩
        · exact hempty
        · have hsame : previous = envelope' := by simpa [hprevious] using henvelope'
          exact absurd (hsame ▸ hsaturated) hmax
      refine ⟨wrapsOf_of_wrapsFor hwraps, hmembers, ?_, ?_⟩
      · intro k row hrow
        simp [hempty] at hrow
      · intro p cached hcached
        rw [hgeneration]
        exact cache_lt_of_rotated hinv hmax hcached

lemma inv_register (hc : c.Lawful) (h : Inv c cl) {identity : NodeIdentity}
    {rnd : JoinRandomness} (now : Nat)
    (hsafe : cl.Safe c (.registerNodeAndRotate node identity rnd)) :
    Inv c (cl.step c utf8Error now (.registerNodeAndRotate node identity rnd)) := by
  rcases capable_or_inert node with ⟨hleader, priv, uuid, hpriv, huuid⟩ | ⟨hinert, -⟩
  · simp only [step, proposeRegisterNodeAndRotate_eq c hleader hpriv huuid, Prog.run_get,
      Prog.run_script]
    rcases joinScript_cases hc priv uuid cl.state identity rnd
      with ⟨e, -, hscript⟩ | ⟨dek, base, envelope, wrapped, heffective, hgeneration,
        hwraps, hscript⟩
    · simp only [hscript, foldl_nil]
      exact h
    · simp only [hscript, foldl_cons, foldl_nil, commitOp, SecretsState.apply]
      exact .of_dek h.keyed rfl
        (dekInv_join hc h hleader hpriv huuid hsafe heffective hgeneration hwraps)
  · rcases hinert c identity rnd now with ⟨e, he⟩
    simp only [step, he, Prog.run_ret]
    exact h

/-! ## Rotations -/

/-- A rotation re-encrypts every row under the fresh DEK and moves every recipient to it. -/
lemma dekInv_rotate (hc : c.Lawful) (h : Inv c cl) {previous : WrappedDek}
    (hinv : DekInv c cl previous dek) (hmax : previous.dekGeneration ≠ u64Max)
    {reason : RotateReason} {plan : RotationPlan} {updates : List ReplicatedSecret}
    (order : IterOrder String ReplicatedSecret) (now : Nat)
    (hmembers : ∀ n identity, reason.revokedId = some n → cl.state.nodes[n]? = some identity →
      identity.revokedAt ≠ none)
    (hprevious : plan.previousDek = dek)
    (hnew : plan.newGeneration = saturatingSucc previous.dekGeneration)
    (hgeneration : plan.envelope.dekGeneration = plan.newGeneration)
    (hwraps : WrapsFor c plan.newDek (activeRecipients cl.state.nodes reason.revokedId)
      plan.envelope)
    (hupdates : Forall₂ (Reencrypted c plan)
      ((order.list cl.state.secrets).map Prod.snd) updates) :
    Inv c
      { cl with
        state := commitAll now (updates.map .putSecret)
          { cl.state with wrappedDek := some plan.envelope } } := by
  have hkeyed : KeyedRows { cl.state with wrappedDek := some plan.envelope } :=
    fun k row hrow => (h.keyed k row hrow).1
  rcases lookup_commitAll_reencrypted now hupdates
    (rows_keys_nodup order (fun k row hrow => (h.keyed k row hrow).1))
    { cl.state with wrappedDek := some plan.envelope } with ⟨hdone, hothers⟩
  -- every row afterwards is a re-encrypted one
  have hafter : ∀ (k : String) (row : ReplicatedSecret),
      (commitAll now (updates.map .putSecret)
        { cl.state with wrappedDek := some plan.envelope }).secrets[k]? = some row →
      ∃ old, cl.state.secrets[k]? = some old ∧ Reencrypted c plan old row := by
    intro k row hrow
    cases hold : cl.state.secrets[k]? with
    | none =>
      have hsame := hothers k (by
        intro old hmem hkey
        have hlookup := (mem_rows order hkeyed).mp hmem
        rw [hkey] at hlookup
        simp [hold] at hlookup)
      rw [hsame] at hrow
      simp [hold] at hrow
    | some old =>
      have hkey : old.storageKey = k := (h.keyed k old hold).1
      have hmem : old ∈ (order.list cl.state.secrets).map Prod.snd :=
        (mem_rows order hkeyed).mpr (by rw [hkey]; exact hold)
      rcases hdone old hmem with ⟨updated, hreencrypted, hlookup⟩
      rw [hkey, hrow] at hlookup
      have hsame : row = updated := by simpa using hlookup
      exact ⟨old, rfl, hsame ▸ hreencrypted⟩
  have hdek : (commitAll now (updates.map .putSecret)
      { cl.state with wrappedDek := some plan.envelope }).wrappedDek = some plan.envelope :=
    commitAll_puts_wrappedDek now updates _
  refine .of_dek ?_ hdek ⟨wrapsOf_of_wrapsFor hwraps, ?_, ?_, ?_⟩
  · intro k row hrow
    rcases hafter k row hrow with ⟨old, hold, hreencrypted⟩
    rcases h.keyed k old hold with ⟨hkey, hscope⟩
    exact ⟨by rw [hreencrypted.storageKey_eq, hkey], hscope⟩
  · intro n identity hidentity hactive
    rw [commitAll_puts_nodes] at hidentity
    refine exists_wrap_of_wrapsFor hwraps ?_
    rw [lookup_activeRecipients]
    exact ⟨identity, hidentity, hactive,
      fun heq => hmembers n identity heq hidentity hactive, rfl⟩
  · intro k row hrow
    rcases hafter k row hrow with ⟨old, hold, plaintext, ciphertext, hplain, hct, rfl⟩
    rcases hinv.rows k old hold with ⟨-, value, hvalue, hold_ct⟩
    refine ⟨hgeneration.symm, value, hvalue, ?_⟩
    have hdecrypt := ClusterDek.decrypt_of_isCiphertext hc hold_ct
    rw [hprevious, hdecrypt] at hplain
    have hsame : utf8Bytes value = plaintext := by simpa using hplain
    exact hsame ▸ hct
  · intro p cached hcached
    rw [hgeneration, hnew]
    exact cache_lt_of_rotated hinv hmax hcached

lemma inv_rotate (hc : c.Lawful) (h : Inv c cl) {reason : RotateReason}
    {rnd : RotationRandomness} (now : Nat) (hsafe : cl.Safe c (.rotateDek node reason rnd)) :
    Inv c (cl.step c utf8Error now (.rotateDek node reason rnd)) := by
  rcases capable_or_inert node with ⟨hleader, priv, uuid, hpriv, huuid⟩ | ⟨-, hinert⟩
  · simp only [step, proposeRotateDek_eq c hleader hpriv huuid, Prog.run_get, Prog.run_script]
    by_cases hopen : ∃ previous dek, cl.state.wrappedDek = some previous ∧
        leaderDek c priv uuid previous "cannot rotate" = .ok dek
    · rcases hopen with ⟨previous, dek, hprevious, hdek⟩
      rcases h.withDek previous hprevious with ⟨dek₀, hinv⟩
      have hdek₀ : dek = dek₀ := hinv.leaderDek_eq hc hdek
      subst hdek₀
      have hcan := canOrchestrate_of_leaderDek hleader hpriv huuid hprevious hdek
      rcases hsafe hcan with ⟨hunsaturated, hmembers⟩
      have hmax : previous.dekGeneration ≠ u64Max := fun hsat =>
        hunsaturated ⟨previous, hprevious, hsat⟩
      rcases planRotation_ok hc reason rnd hprevious hdek with
        ⟨plan, hplan, hplanprev, hplannew, hnew, hgeneration, hwraps⟩
      rw [← hplannew] at hwraps
      -- no row is on the new generation yet, so the loop takes them all
      set rows := (rnd.order.list cl.state.secrets).map Prod.snd
      have hlisted : ∀ row ∈ rows, row.dekGeneration = previous.dekGeneration ∧
          ∃ plaintext, ClusterDek.IsCiphertext c dek plaintext row.ciphertext := by
        intro row hmem
        rcases mem_map.mp hmem with ⟨⟨k, row⟩, hentry, rfl⟩
        rcases hinv.rows k row ((rnd.order.mem_list _).mp hentry) with ⟨hrow, value, -, hct⟩
        exact ⟨hrow, utf8Bytes value, hct⟩
      have hall : pendingRows plan rows = rows := by
        refine filter_eq_self.mpr fun row hmem => ?_
        have hlt := lt_saturatingSucc hmax
        rw [← hnew, ← (hlisted row hmem).1] at hlt
        simpa using UInt64.ne_of_lt hlt
      have hloop := reencryptScript_spec hc plan rnd.nonces rows
      rw [hall] at hloop
      have hupdates : Forall₂ (Reencrypted c plan) rows
          (reencryptScript c plan rnd.nonces rows).1 := by
        rcases hloop with ⟨-, hforall⟩ | ⟨-, done, row, rest, hsplit, -, e, hstuck⟩
        · exact hforall
        · rcases (hlisted row (by rw [hsplit]; simp)).2 with ⟨plaintext, hct⟩
          rw [hplanprev, ClusterDek.decrypt_of_isCiphertext hc hct] at hstuck
          cases hstuck
      simp only [rotationScript, hplan, foldl_cons]
      exact dekInv_rotate hc h hinv hmax rnd.order now hmembers hplanprev hnew hgeneration hwraps
        hupdates
    · rcases rotationScript_error c priv uuid cl.state reason rnd
        (fun previous dek hprevious hdek => hopen ⟨previous, dek, hprevious, hdek⟩) with ⟨e, he⟩
      simp only [he, foldl_nil]
      exact h
  · rcases hinert c reason rnd now with ⟨e, he⟩
    simp only [step, he, Prog.run_ret]
    exact h

/-! ## Writes, deletes, revocations and reads -/

lemma inv_withCache_none (h : Inv c cl) (hdek : cl.state.wrappedDek = none) (nodeId : String)
    (priv : Bytes32) : Inv c (cl.withCache nodeId priv none) := by
  rw [withCache, ← (h.noDek hdek).2 (nodeId, priv), Function.update_eq_self]
  exact h

/-- Refreshing one cache from the current envelope keeps the caches in step. -/
lemma DekInv.withCache (hinv : DekInv c cl envelope dek)
    (hdek : cl.state.wrappedDek = some envelope) {nodeId : String} {after : Option CachedDek}
    (hcache : CacheStep cl.state dek (cl.caches (nodeId, priv)) after) :
    DekInv c (cl.withCache nodeId priv after) envelope dek := by
  refine ⟨hinv.wraps, hinv.members, hinv.rows, ?_⟩
  intro p cached hcached
  by_cases hp : p = (nodeId, priv)
  · have hafter : after = some cached := by simpa [Cluster.withCache, hp] using hcached
    rcases hcache with hsame | ⟨envelope', henvelope', hfresh⟩
    · exact hinv.caches (nodeId, priv) cached (by rw [← hsame, hafter])
    · obtain rfl : envelope = envelope' := Option.some.inj (hdek.symm.trans henvelope')
      obtain rfl : cached = { generation := envelope.dekGeneration, dek := dek } := by
        simpa [hafter] using hfresh
      exact ⟨UInt64.le_refl _, fun _ => rfl⟩
  · exact hinv.caches p cached
      (by simpa [Cluster.withCache, Function.update_of_ne hp] using hcached)

lemma inv_read (hc : c.Lawful) (h : Inv c cl) (now : Nat) (nodeId : String) (priv : Bytes32)
    (scope name : String) :
    Inv c (cl.step c utf8Error now (.readSecret nodeId priv scope name)) := by
  cases hdek : cl.state.wrappedDek with
  | none =>
    rcases h.noDek hdek with ⟨hempty, hnocache⟩
    have hcache : ((cl.storeOf nodeId priv).readInner c utf8Error cl.state scope name).1.dekCache
        = none := by
      simp [readInner, hempty, storeOf, hnocache]
    simpa only [step, hcache] using inv_withCache_none h hdek nodeId priv
  | some envelope =>
    rcases h.withDek envelope hdek with ⟨dek, hinv⟩
    have hcache := readInner_cache hc utf8Error scope name (hinv.current_wraps hdek)
      (hinv.current_cacheFits hdek nodeId priv)
    exact .of_dek h.keyed hdek (hinv.withCache hdek hcache)

lemma run_proposeSecretsOp (node : RaftCoordinator) (now : Nat) (op : SecretsRaftOp)
    (s : SecretsState) :
    (∃ e, (node.proposeSecretsOp now op).run s = (s, .error e)) ∨
      (node.proposeSecretsOp now op).run s =
        ((s.apply now op).1, proposalOutcome (ClusterState.secretsResponse
          (s.apply now op).2)) := by
  unfold proposeSecretsOp
  cases node.isLeader with
  | false => exact .inl ⟨_, rfl⟩
  | true => exact .inr rfl

/-- A write fails and at most refreshes the writer's cache, or stores a row encrypted under the
DEK in force. -/
lemma run_setSecret_cases (hc : c.Lawful) (hdek : cl.state.wrappedDek = some envelope)
    (hinv : DekInv c cl envelope dek) (node : RaftCoordinator) (now : Nat) (nodeId : String)
    (priv : Bytes32) (scope name value : String) (nonce : Nonce) (secs : Int64) :
    ∃ store' : RaftSecretsStore,
      CacheStep cl.state dek (cl.caches (nodeId, priv)) store'.dekCache ∧
      ((∃ e, (setSecret c (node.handle now) (cl.storeOf nodeId priv) scope name
          value nonce secs).run cl.state = (cl.state, store', .error e)) ∨
        ∃ row, row.storageKey = makeKey scope name ∧
          row.dekGeneration = envelope.dekGeneration ∧
          ClusterDek.IsCiphertext c dek (utf8Bytes value) row.ciphertext ∧
          (setSecret c (node.handle now) (cl.storeOf nodeId priv) scope name value
            nonce secs).run cl.state =
            ({ cl.state with secrets := cl.state.secrets.insert row.storageKey row }, store',
              .ok ())) := by
  rcases encryptUnderCurrent_cases hc nonce (utf8Bytes value) (hinv.current_wraps hdek)
      (hinv.current_cacheFits hdek nodeId priv) with
    ⟨store', hcache, ⟨e, herror⟩ | ⟨envelope', ciphertext, henvelope', hct, hok⟩⟩
  · exact ⟨store', hcache, .inl ⟨e, by simp [setSecret, herror]⟩⟩
  · have hsame : envelope = envelope' := Option.some.inj (hdek.symm.trans henvelope')
    subst hsame
    let row : ReplicatedSecret :=
      { storageKey := makeKey scope name
        ciphertext := ciphertext
        dekGeneration := envelope.dekGeneration
        metadata := nextMetadata name secs
          cl.state.secrets[makeKey scope name]?
        nodeAffinity := cl.state.secrets[makeKey scope name]?.bind
          (·.nodeAffinity) }
    refine ⟨store', hcache, ?_⟩
    simp only [setSecret, Prog.run_get, hok, Prog.run_bind, handle]
    rcases run_proposeSecretsOp node now (.putSecret row) cl.state with ⟨e, he⟩ | hput
    · exact .inl ⟨e, by simp only [row] at he; simp only [he, Prog.run_ret]⟩
    · refine .inr ⟨row, rfl, rfl, hct, ?_⟩
      simp only [row] at hput
      simp only [hput, Prog.run_ret]
      rfl

lemma inv_set (hc : c.Lawful) (h : Inv c cl) (now : Nat) (node : RaftCoordinator)
    (nodeId : String) (priv : Bytes32) (scope name value : String) (nonce : Nonce) (secs : Int64) :
    Inv c (cl.step c utf8Error now
      (.setSecret node nodeId priv scope name value nonce secs)) := by
  cases hdek : cl.state.wrappedDek with
  | none =>
    have hcache : (cl.storeOf nodeId priv).dekCache = none := (h.noDek hdek).2 (nodeId, priv)
    simpa [step, setSecret, encryptUnderCurrent, hdek, hcache] using
      inv_withCache_none h hdek nodeId priv
  | some envelope =>
    rcases h.withDek envelope hdek with ⟨dek, hinv⟩
    rcases run_setSecret_cases hc hdek hinv node now nodeId priv scope name value nonce secs
      with ⟨store', hcache, ⟨e, he⟩ | ⟨row, hkey, hgeneration, hct, hok⟩⟩
    · simp only [step, he]
      exact .of_dek h.keyed hdek (hinv.withCache hdek hcache)
    · simp only [step, hok]
      -- first store the row and its value, then refresh the cache
      have hrow : DekInv c
          { cl with
            state := { cl.state with secrets := cl.state.secrets.insert row.storageKey row }
            values := cl.values.insert (makeKey scope name) value } envelope dek := by
        refine ⟨hinv.wraps, hinv.members, ?_, hinv.caches⟩
        intro k other hother
        simp only [lookup_insert, ← hkey]
        rcases of_lookup_insert hother with ⟨hk, rfl⟩ | ⟨hk, hold⟩
        · exact ⟨hgeneration, value, by simp [hk], hct⟩
        · rw [if_neg hk]
          exact hinv.rows k other hold
      refine .of_dek ?_ hdek (hrow.withCache hdek hcache)
      intro k other hother
      rcases of_lookup_insert hother with ⟨hk, rfl⟩ | ⟨-, hold⟩
      · exact ⟨hk, scope, name, by rw [← hk, hkey]⟩
      · exact h.keyed k other hold

lemma inv_delete (h : Inv c cl) (now : Nat) (node : RaftCoordinator) (scope name : String) :
    Inv c (cl.step c utf8Error now (.deleteSecret node scope name)) := by
  have hunchanged : ∀ e, (deleteSecret (node.handle now) scope name).run
      cl.state = (cl.state, .error e) →
      Inv c (cl.step c utf8Error now (.deleteSecret node scope name)) := by
    intro e he
    simp only [step, he]
    exact h
  by_cases hmem : makeKey scope name ∈ cl.state.secrets
  · rcases run_proposeSecretsOp node now (.deleteSecret (makeKey scope name))
      cl.state with ⟨e, he⟩ | hrun
    · exact hunchanged e (by simp [deleteSecret, hmem, handle, he])
    · have hdelete : (deleteSecret (node.handle now) scope name).run cl.state =
          ({ cl.state with
              secrets := cl.state.secrets.erase (makeKey scope name) },
            .ok ()) := by
        simp only [deleteSecret, Prog.run_get, if_pos hmem, handle, hrun,
          SecretsState.apply]
        rfl
      simp only [step, hdelete]
      have hkept : ∀ (k : String) (row : ReplicatedSecret),
          (cl.state.secrets.erase (makeKey scope name))[k]? = some row →
            makeKey scope name ≠ k ∧ cl.state.secrets[k]? = some row := by
        intro k row hrow
        rw [lookup_erase] at hrow
        by_cases hk : makeKey scope name = k
        · simp [hk] at hrow
        · exact ⟨hk, by simpa [hk] using hrow⟩
      refine ⟨fun k row hrow => h.keyed k row (hkept k row hrow).2, ?_, ?_⟩
      · intro hnone
        rcases h.noDek hnone with ⟨hempty, hnocache⟩
        exact ⟨by simp [hempty], hnocache⟩
      · intro envelope henvelope
        rcases h.withDek envelope henvelope with ⟨dek, hinv⟩
        refine ⟨dek, hinv.wraps, hinv.members, ?_, hinv.caches⟩
        intro k row hrow
        rcases hkept k row hrow with ⟨hk, hold⟩
        rcases hinv.rows k row hold with ⟨hgeneration, value, hvalue, hct⟩
        exact ⟨hgeneration, value, by rw [lookup_erase_of_ne _ hk, hvalue], hct⟩
  · exact hunchanged (.notFound name) (by simp [deleteSecret, hmem])

/-- A revocation leaves fewer active nodes, with the keys they had. -/
lemma inv_revoke (h : Inv c cl) (now : Nat) (node : RaftCoordinator) (nodeId : String) :
    Inv c (cl.step c utf8Error now (.revokeNode node nodeId)) := by
  rcases run_proposeSecretsOp node now (.revokeNode nodeId) cl.state with ⟨e, he⟩ | hrun
  · simp only [step, he]
    exact h
  · simp only [step, hrun, SecretsState.apply]
    split
    · refine ⟨h.keyed, h.noDek, ?_⟩
      intro envelope henvelope
      rcases h.withDek envelope henvelope with ⟨dek, hinv⟩
      refine ⟨dek, hinv.wraps, ?_, hinv.rows, hinv.caches⟩
      intro n identity hidentity hactive
      simp only [lookup_modify] at hidentity
      by_cases hn : nodeId = n
      · rw [if_pos hn] at hidentity
        rcases Option.map_eq_some_iff.mp hidentity with ⟨old, -, hold⟩
        rw [← hold] at hactive
        simp [SecretsState.stampOnce] at hactive
      · rw [if_neg hn] at hidentity
        exact hinv.members n identity hidentity hactive
    · exact h

/-! ## Runs -/

lemma inv_step (hc : c.Lawful) (h : Inv c cl) (now : Nat) {op : LeaderOp}
    (hsafe : cl.Safe c op) : Inv c (cl.step c utf8Error now op) := by
  cases op with
  | registerNodeAndRotate node identity rnd => exact inv_register hc h now hsafe
  | rotateDek node reason rnd => exact inv_rotate hc h now hsafe
  | setSecret node nodeId priv scope name value nonce secs =>
    exact inv_set hc h now node nodeId priv scope name value nonce secs
  | deleteSecret node scope name => exact inv_delete h now node scope name
  | revokeNode node nodeId => exact inv_revoke h now node nodeId
  | readSecret nodeId priv scope name => exact inv_read hc h now nodeId priv scope name

lemma inv_run (hc : c.Lawful) (ops : List (Nat × LeaderOp)) (h : Inv c cl)
    (hsafe : SafeRun c utf8Error cl ops) : Inv c (cl.run c utf8Error ops) := by
  induction ops generalizing cl with
  | nil => exact h
  | cons op ops ih => exact ih (inv_step hc h op.1 hsafe.1) hsafe.2

/-- In every run of complete operations that meet the condition, every stored secret is readable
and has the value of its last successful write. -/
theorem readable_of_safeRun (hc : c.Lawful) (utf8Error : Bytes → String)
    (ops : List (Nat × LeaderOp)) (hsafe : SafeRun c utf8Error initial ops) :
    Readable c utf8Error (initial.run c utf8Error ops) :=
  (inv_run hc ops (inv_initial c) hsafe).readable hc

/-! ## Two runs of a small cluster -/

namespace Sample

open RaftCoordinator.Sample

def join (nodeId : String) (b : UInt8) : LeaderOp :=
  .registerNodeAndRotate leader (identity nodeId b)
    { freshDek := key 7
      seeds := fun _ => key 0 }

def write : LeaderOp :=
  .setSecret leader "a" (key 1) "app" "token" "s3cr3t" (Vector.replicate 24 0) 0

def joinsFirst : List (Nat × LeaderOp) :=
  [(0, join "a" 1), (0, join "b" 2), (0, write), (0, .rotateDek leader .manual (rotation 8))]

def lateJoin : List (Nat × LeaderOp) :=
  [(0, join "a" 1), (0, write), (0, join "b" 2)]

end Sample

set_option maxRecDepth 10000 in
theorem readable_of_joinsFirst : Readable Crypto.transparent (fun _ => "")
        (initial.run Crypto.transparent (fun _ => "") Sample.joinsFirst) ∧
      ((initial.run Crypto.transparent (fun _ => "")
        Sample.joinsFirst).state.secrets["app:token"]?).isSome = true := by
  refine ⟨readable_of_safeRun Crypto.transparent_lawful (fun _ => "") Sample.joinsFirst ?_,
    by decide⟩
  refine ⟨fun _ => .inl rfl, fun _ => .inl ?_, trivial, fun _ => ⟨?_, ?_⟩, trivial⟩
  · decide
  · rintro ⟨envelope, henvelope, hsaturated⟩
    have hgeneration : (initial.run Crypto.transparent (fun _ => "")
        (Sample.joinsFirst.take 3)).state.wrappedDek.map (·.dekGeneration) = some 2 := by
      decide
    have hsome : (initial.run Crypto.transparent (fun _ => "")
        (Sample.joinsFirst.take 3)).state.wrappedDek = some envelope := henvelope
    rw [hsome, Option.map_some, hsaturated] at hgeneration
    exact absurd hgeneration (by decide)
  · intro n identity hrevoked
    cases hrevoked

set_option maxRecDepth 10000 in
/-- A join after a write leaves the secret on the old generation: not even the node that wrote it
can read it any more. -/
theorem unreadable_after_lateJoin :
    ¬ ∀ (c : Crypto) (utf8Error : Bytes → String) (ops : List (Nat × LeaderOp)), c.Lawful →
      Readable c utf8Error (initial.run c utf8Error ops) := by
  intro h
  have hreadable := h Crypto.transparent (fun _ => "") Sample.lateJoin Crypto.transparent_lawful
  have haffinity : ((initial.run Crypto.transparent (fun _ => "")
      Sample.lateJoin).state.secrets["app:token"]?).map (·.nodeAffinity) = some none := by decide
  rcases Option.map_eq_some_iff.mp haffinity with ⟨row, hrow, hnone⟩
  rcases hreadable "app:token" row hrow with ⟨-, -, value, -, -, hread⟩
  have hok := hread "app" "token" "a" (RaftCoordinator.Sample.identity "a" 1)
    (RaftCoordinator.Sample.key 1) (by decide) (by decide) rfl rfl (by rw [hnone]; rfl)
  have hfail : (((initial.run Crypto.transparent (fun _ => "") Sample.lateJoin).storeOf "a"
      (RaftCoordinator.Sample.key 1)).readInner Crypto.transparent (fun _ => "")
        (initial.run Crypto.transparent (fun _ => "") Sample.lateJoin).state "app"
        "token").2.isOk = false := by decide
  rw [hok] at hfail
  cases hfail

end Cluster

end ZLayer.Scheduler
