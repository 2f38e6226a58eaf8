import ZLayer.Lib.Prog
import ZLayer.Lib.Str
import ZLayer.Lib.Wire
import ZLayer.Secrets.ClusterDek
import ZLayer.Secrets.RaftSm

/-!
# RaftStore — reading and writing secrets through the replicated state

`RaftSecretsStore` of one node: reads are served from the node's copy of the secrets state, writes
are proposed through the consensus handle.  The store keeps the unwrapped DEK of the generation it
last saw.

A method is a program over the secrets state.  Besides its outcome it returns the store, whose
cache it may have refreshed.
-/

namespace ZLayer.Secrets

open Lib

namespace SecretMetadata

def new (name : String) (now : Int64) : SecretMetadata :=
  { name := name
    createdAt := now
    updatedAt := now
    version := 1 }

def update (m : SecretMetadata) (now : Int64) : SecretMetadata :=
  { m with
    updatedAt := now
    version := if m.version = UInt32.ofNat (2 ^ 32 - 1) then m.version else m.version + 1 }

end SecretMetadata

/-! ## The store -/

structure CachedDek where
  generation : UInt64
  dek : Bytes32
  deriving DecidableEq

structure RaftSecretsStore where
  nodePriv : Bytes32
  nodeId : String
  dekCache : Option CachedDek
  deriving DecidableEq

/-- The proposals the store makes through its consensus handle. -/
structure RaftSecretsHandle where
  proposePutSecret : ReplicatedSecret → Prog SecretsState (Except SecretsError Unit)
  proposeDeleteSecret : String → Prog SecretsState (Except SecretsError Unit)

namespace RaftSecretsStore

def makeKey (scope name : String) : String := scope ++ ":" ++ name

/-- Label affinities are not matched in this layer and allow every node. -/
def nodeAllowed (nodeId : String) : Option NodeAffinity → Bool
  | none => true
  | some (.labels _) => true
  | some (.nodes nodeIds) => nodeIds.any (· == nodeId)

/-- Refresh the cache unless it holds the generation of the envelope. -/
def ensureDekForEnvelope (c : Crypto) (store : RaftSecretsStore) (envelope : WrappedDek) :
    RaftSecretsStore × Except SecretsError Unit :=
  if store.dekCache.map (·.generation) = some envelope.dekGeneration then
    (store, .ok ())
  else
    match envelope.wraps[store.nodeId]? with
    | none =>
      (store, .error (.provider ("node " ++ store.nodeId ++ " has no wrap in current DEK " ++
        "(generation " ++ toString envelope.dekGeneration ++ "); cannot decrypt cluster secrets " ++
        "— re-join the cluster so the leader can re-wrap")))
    | some wrapped =>
      match ClusterDek.unwrap c store.nodePriv wrapped with
      | .error e => (store, .error e)
      | .ok dek =>
        ({ store with
            dekCache := some
              { generation := envelope.dekGeneration
                dek := dek } }, .ok ())

/-- Refresh the cache for the envelope and use the DEK that it holds then. -/
def withDek {α : Type} (c : Crypto) (store : RaftSecretsStore) (envelope : WrappedDek)
    (use : CachedDek → Except SecretsError α) : RaftSecretsStore × Except SecretsError α :=
  match store.ensureDekForEnvelope c envelope with
  | (store, .error e) => (store, .error e)
  | (store, .ok ()) =>
    match store.dekCache with
    | none => (store, .error (.provider "DEK cache unexpectedly empty after refresh"))
    | some cached => (store, use cached)

/-- Read `scope:name` from the state; `none` for an unknown secret and for one this node may not
host.  `utf8Error` is the text of the standard library's error for bytes that are not UTF-8. -/
def readInner (c : Crypto) (utf8Error : Bytes → String) (store : RaftSecretsStore)
    (state : SecretsState) (scope name : String) :
    RaftSecretsStore × Except SecretsError (Option String) :=
  let storageKey := makeKey scope name
  match state.secrets[storageKey]? with
  | none => (store, .ok none)
  | some replicated =>
    if nodeAllowed store.nodeId replicated.nodeAffinity = false then
      (store, .ok none)
    else
      match state.wrappedDek with
      | none =>
        (store, .error (.provider "cluster has no DEK yet; secret cannot be decrypted"))
      | some envelope =>
        if envelope.dekGeneration < replicated.dekGeneration then
          (store, .error (.provider ("secret " ++ storageKey ++
            " references DEK generation " ++ toString replicated.dekGeneration ++
            " but current cluster DEK is older (generation " ++
            toString envelope.dekGeneration ++ "); state is inconsistent")))
        else if replicated.dekGeneration ≠ envelope.dekGeneration then
          (store, .error (.provider ("secret " ++ storageKey ++
            " encrypted under DEK generation " ++ toString replicated.dekGeneration ++
            " but current is " ++ toString envelope.dekGeneration ++
            " — wait for rotation re-encrypt to finish")))
        else
          store.withDek c envelope fun cached => do
            let plaintext ← ClusterDek.decrypt c cached.dek replicated.ciphertext
            match fromUtf8 plaintext with
            | none => .error (.decryption ("invalid UTF-8 in secret: " ++ utf8Error plaintext))
            | some value => .ok (some value)

/-- Encrypt under the DEK of the current envelope; also returns that generation. -/
def encryptUnderCurrent (c : Crypto) (store : RaftSecretsStore) (state : SecretsState)
    (nonce : Nonce) (plaintext : Bytes) :
    RaftSecretsStore × Except SecretsError (Bytes × UInt64) :=
  match state.wrappedDek with
  | none =>
    (store, .error (.provider ("cluster has no DEK yet; cannot write secret — wait for the " ++
      "first node to register via propose_register_node_and_rotate")))
  | some envelope =>
    store.withDek c envelope fun cached => do
      let ciphertext ← ClusterDek.encrypt c cached.dek nonce plaintext
      return (ciphertext, cached.generation)

/-- The metadata of the row a write creates: an update of the previous one keeps its creation
time. -/
def nextMetadata (name : String) (now : Int64) (existing : Option ReplicatedSecret) :
    SecretMetadata :=
  match existing with
  | some prev => prev.metadata.update now
  | none => SecretMetadata.new name now

/-- Write `value` under `scope:name`.  The previous row and the current envelope are two separate
snapshots. -/
def setSecret (c : Crypto) (handle : RaftSecretsHandle) (store : RaftSecretsStore)
    (scope name value : String) (nonce : Nonce) (now : Int64) :
    Prog SecretsState (RaftSecretsStore × Except SecretsError Unit) :=
  let storageKey := makeKey scope name
  .get fun state =>
    let existing := state.secrets[storageKey]?
    .get fun state =>
      match store.encryptUnderCurrent c state nonce (utf8Bytes value) with
      | (store, .error e) => .ret (store, .error e)
      | (store, .ok (ciphertext, dekGeneration)) =>
        let secret : ReplicatedSecret :=
          { storageKey := storageKey
            ciphertext := ciphertext
            dekGeneration := dekGeneration
            metadata := nextMetadata name now existing
            nodeAffinity := existing.bind (·.nodeAffinity) }
        (handle.proposePutSecret secret).bind fun outcome => .ret (store, outcome)

def deleteSecret (handle : RaftSecretsHandle) (scope name : String) :
    Prog SecretsState (Except SecretsError Unit) :=
  let storageKey := makeKey scope name
  .get fun state =>
    if storageKey ∈ state.secrets then
      handle.proposeDeleteSecret storageKey
    else
      .ret (.error (.notFound name))

/-! ## Queries -/

def getSecret (c : Crypto) (utf8Error : Bytes → String) (store : RaftSecretsStore)
    (state : SecretsState) (scope name : String) : Except SecretsError String :=
  match (store.readInner c utf8Error state scope name).2 with
  | .error e => .error e
  | .ok (some secret) => .ok secret
  | .ok none => .error (.notFound name)

/-- The metadata of the secrets whose key starts with the scope, sorted by name. -/
def listSecrets (order : HashMap.IterOrder String ReplicatedSecret) (store : RaftSecretsStore)
    (state : SecretsState) (scope : String) : List SecretMetadata :=
  let rows := (order.list state.secrets).filter fun row =>
    Str.startsWith row.2.storageKey (scope ++ ":") && nodeAllowed store.nodeId row.2.nodeAffinity
  (rows.map fun row => row.2.metadata).insertionSort fun a b => a.name ≤ b.name

/-! ## A store and the DEK of an envelope -/

section Spec

variable {c : Crypto} {store : RaftSecretsStore} {envelope : WrappedDek} {dek : Bytes32}

def WrapsOf (c : Crypto) (dek : Bytes32) (envelope : WrappedDek) : Prop :=
  ∀ (n : String) (wrapped : Bytes), envelope.wraps[n]? = some wrapped →
    ∃ recipient, ClusterDek.IsWrap c dek recipient wrapped

/-- If the cache is for the generation of the envelope, it holds `dek`. -/
def CacheFits (envelope : WrappedDek) (dek : Bytes32) (cache : Option CachedDek) : Prop :=
  ∀ cached, cache = some cached → cached.generation = envelope.dekGeneration → cached.dek = dek

def Holds (envelope : WrappedDek) (dek : Bytes32) (store : RaftSecretsStore) : Prop :=
  store.dekCache = some { generation := envelope.dekGeneration, dek := dek }

/-- A refresh fails and changes nothing, or leaves the DEK of the envelope in the cache. -/
lemma ensureDekForEnvelope_cases (hc : c.Lawful) (hwraps : WrapsOf c dek envelope)
    (hcache : CacheFits envelope dek store.dekCache) :
    (∃ e, store.ensureDekForEnvelope c envelope = (store, .error e)) ∨
      ∃ store', store.ensureDekForEnvelope c envelope = (store', .ok ()) ∧
        Holds envelope dek store' := by
  unfold ensureDekForEnvelope
  by_cases hhit : store.dekCache.map (·.generation) = some envelope.dekGeneration
  · refine .inr ⟨store, by simp [hhit], ?_⟩
    rcases Option.map_eq_some_iff.mp hhit with ⟨cached, hcached, hgeneration⟩
    have hdek : cached.dek = dek := hcache cached hcached hgeneration
    unfold Holds
    rw [hcached, ← hgeneration, ← hdek]
  · simp only [if_neg hhit]
    cases hwrap : envelope.wraps[store.nodeId]? with
    | none => exact .inl ⟨_, rfl⟩
    | some wrapped =>
      rcases hwraps store.nodeId wrapped hwrap with ⟨recipient, his⟩
      cases hopen : ClusterDek.unwrap c store.nodePriv wrapped with
      | error e => exact .inl ⟨e, by simp only [hopen]⟩
      | ok dek' =>
        have hdek : dek' = dek := (ClusterDek.eq_of_unwrap_ok hc his hopen).1
        refine .inr ⟨_, by simp only [hopen]; rfl, ?_⟩
        simp only [Holds, hdek]

/-- The DEK that is used is that of the envelope. -/
lemma withDek_cases {α : Type} (hc : c.Lawful) (hwraps : WrapsOf c dek envelope)
    (hcache : CacheFits envelope dek store.dekCache) (use : CachedDek → Except SecretsError α) :
    (∃ e, store.withDek c envelope use = (store, .error e)) ∨
      ∃ store', Holds envelope dek store' ∧
        store.withDek c envelope use = (store', use ⟨envelope.dekGeneration, dek⟩) := by
  unfold withDek
  rcases ensureDekForEnvelope_cases hc hwraps hcache with ⟨e, herror⟩ | ⟨store', hok, hholds⟩
  · exact .inl ⟨e, by rw [herror]⟩
  · have hcached : store'.dekCache =
        some { generation := envelope.dekGeneration, dek := dek } := hholds
    exact .inr ⟨store', hholds, by simp only [hok, hcached]⟩

variable {wrapped : Bytes} {state : SecretsState}

/-- A row on the current generation is read by every node the row allows that has a wrap. -/
lemma readInner_ok (hc : c.Lawful) (utf8Error : Bytes → String) {scope name value : String}
    {row : ReplicatedSecret} (hrow : state.secrets[makeKey scope name]? = some row)
    (hallowed : nodeAllowed store.nodeId row.nodeAffinity = true)
    (henvelope : state.wrappedDek = some envelope)
    (hgeneration : row.dekGeneration = envelope.dekGeneration) (hwraps : WrapsOf c dek envelope)
    (hcache : CacheFits envelope dek store.dekCache)
    (hown : envelope.wraps[store.nodeId]? = some wrapped)
    (his : ClusterDek.IsWrap c dek (c.publicKey store.nodePriv) wrapped)
    (hct : ClusterDek.IsCiphertext c dek (utf8Bytes value) row.ciphertext) :
    (store.readInner c utf8Error state scope name).2 = .ok (some value) := by
  -- with a wrap for this node's key the refresh succeeds
  rcases ensureDekForEnvelope_cases hc hwraps hcache with ⟨e, herror⟩ | ⟨store', hensure, hholds⟩
  · unfold ensureDekForEnvelope at herror
    split at herror
    · cases herror
    · simp [hown, ClusterDek.unwrap_of_isWrap hc his] at herror
  have hcached : store'.dekCache =
      some { generation := envelope.dekGeneration, dek := dek } := hholds
  simp only [readInner, hrow, hallowed, henvelope, hgeneration, withDek, hensure, hcached,
    ClusterDek.decrypt_of_isCiphertext hc hct]
  simp [bind, Except.bind, fromUtf8_utf8Bytes]

/-- The cache after an operation that looked at `state` is the old one or the DEK of its
envelope. -/
def CacheStep (state : SecretsState) (dek : Bytes32) (before after : Option CachedDek) : Prop :=
  after = before ∨
    ∃ envelope, state.wrappedDek = some envelope ∧
      after = some { generation := envelope.dekGeneration, dek := dek }

lemma readInner_cache (hc : c.Lawful) (utf8Error : Bytes → String) (scope name : String)
    (hwraps : ∀ envelope, state.wrappedDek = some envelope → WrapsOf c dek envelope)
    (hcache : ∀ envelope, state.wrappedDek = some envelope →
      CacheFits envelope dek store.dekCache) :
    CacheStep state dek store.dekCache
      (store.readInner c utf8Error state scope name).1.dekCache := by
  unfold readInner
  dsimp only
  split
  · exact .inl rfl
  · split
    · exact .inl rfl
    · split
      · exact .inl rfl
      next envelope henvelope =>
        split
        · exact .inl rfl
        · split
          · exact .inl rfl
          · rcases withDek_cases hc (hwraps envelope henvelope) (hcache envelope henvelope) _ with
              ⟨e, herror⟩ | ⟨store', hholds, hok⟩
            · rw [herror]
              exact .inl rfl
            · rw [hok]
              exact .inr ⟨envelope, henvelope, hholds⟩

/-- Encryption for a write fails, or uses the DEK and the generation of the current envelope. -/
lemma encryptUnderCurrent_cases (hc : c.Lawful) (nonce : Nonce) (plaintext : Bytes)
    (hwraps : ∀ envelope, state.wrappedDek = some envelope → WrapsOf c dek envelope)
    (hcache : ∀ envelope, state.wrappedDek = some envelope →
      CacheFits envelope dek store.dekCache) :
    ∃ store', CacheStep state dek store.dekCache store'.dekCache ∧
      ((∃ e, store.encryptUnderCurrent c state nonce plaintext = (store', .error e)) ∨
        ∃ envelope ciphertext, state.wrappedDek = some envelope ∧
          ClusterDek.IsCiphertext c dek plaintext ciphertext ∧
          store.encryptUnderCurrent c state nonce plaintext =
            (store', .ok (ciphertext, envelope.dekGeneration))) := by
  unfold encryptUnderCurrent
  cases henvelope : state.wrappedDek with
  | none => exact ⟨store, .inl rfl, .inl ⟨_, rfl⟩⟩
  | some envelope =>
    rcases withDek_cases hc (hwraps envelope henvelope) (hcache envelope henvelope) _ with
      ⟨e, herror⟩ | ⟨store', hholds, hok⟩
    · exact ⟨store, .inl rfl, .inl ⟨e, herror⟩⟩
    · rcases ClusterDek.encrypt_ok hc dek nonce plaintext with ⟨ciphertext, hct⟩
      refine ⟨store', .inr ⟨envelope, henvelope, hholds⟩, .inr ⟨envelope, ciphertext, rfl,
        ⟨nonce, hct⟩, hok.trans ?_⟩⟩
      rw [hct]
      rfl

end Spec

end RaftSecretsStore

end ZLayer.Secrets
