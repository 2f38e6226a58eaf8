import ZLayer.Secrets.Types

/-!
# RaftSm — the secrets state machine

`SecretsState` and its `apply`.  Three operations look at the local clock: `RevokeNode` and
`WipeJoinSecret` record the instant of the first application, and `RevokeToken` compares expiry
times with it.  The reading is the argument `now`, in nanoseconds since the Unix epoch; a clock
before the epoch makes the source panic, so readings are natural numbers.
-/

namespace ZLayer.Secrets

open Lib

structure SecretsState where
  /-- Every node ever registered; revocation is recorded inside the entry. -/
  nodes : HashMap String NodeIdentity
  wrappedDek : Option WrappedDek
  /-- Keyed by storage key. -/
  secrets : HashMap String ReplicatedSecret
  /-- Expiry instant by token hash. -/
  revokedTokens : HashMap String DateTime
  /-- Keyed by cluster domain. -/
  trustedBundles : HashMap String TrustBundle
  jwtAlgorithm : JwtAlgorithm
  joinSecretWipedAt : Option DateTime
  deriving DecidableEq

namespace SecretsState

def default : SecretsState :=
  { nodes := ∅
    wrappedDek := none
    secrets := ∅
    revokedTokens := ∅
    trustedBundles := ∅
    jwtAlgorithm := .both
    joinSecretWipedAt := none }

def stampOnce (now : Nat) (at? : Option DateTime) : Option DateTime :=
  some (at?.getD now)

def apply (now : Nat) (s : SecretsState) : SecretsRaftOp → SecretsState × Except SecretsError Unit
  | .registerNode identity =>
    ({ s with nodes := s.nodes.insert identity.nodeId identity }, .ok ())
  | .revokeNode nodeId =>
    if nodeId ∈ s.nodes then
      ({ s with
          nodes := s.nodes.modify nodeId fun entry =>
            { entry with revokedAt := stampOnce now entry.revokedAt } }, .ok ())
    else
      (s, .error (.provider ("RevokeNode for unknown node_id: " ++ nodeId)))
  | .rotateDek newWraps =>
    ({ s with wrappedDek := some newWraps }, .ok ())
  | .putSecret secret =>
    ({ s with secrets := s.secrets.insert secret.storageKey secret }, .ok ())
  | .deleteSecret storageKey =>
    if storageKey ∈ s.secrets then
      ({ s with secrets := s.secrets.erase storageKey }, .ok ())
    else
      (s, .error (.provider ("DeleteSecret for unknown storage_key: " ++ storageKey)))
  | .revokeToken tokenHash expiresAt =>
    let tokens :=
      if (now : Int) < expiresAt then s.revokedTokens.insert tokenHash expiresAt
      else s.revokedTokens
    ({ s with revokedTokens := Std.ExtTreeMap.filter (fun _ e => decide ((now : Int) < e)) tokens },
      .ok ())
  | .importTrustBundle bundle =>
    ({ s with trustedBundles := s.trustedBundles.insert bundle.clusterDomain bundle }, .ok ())
  | .removeTrustBundle clusterDomain =>
    ({ s with trustedBundles := s.trustedBundles.erase clusterDomain }, .ok ())
  | .setJwtAlgorithm algorithm =>
    ({ s with jwtAlgorithm := algorithm }, .ok ())
  | .wipeJoinSecret =>
    ({ s with joinSecretWipedAt := stampOnce now s.joinSecretWipedAt }, .ok ())

/-- After `RevokeToken` every entry left expires after `now`; it was there before or is the new
one. -/
lemma lookup_apply_revokeToken (now : Nat) (s : SecretsState) (tokenHash : String)
    (expiresAt : DateTime) (k : String) (e : DateTime) :
    (s.apply now (.revokeToken tokenHash expiresAt)).1.revokedTokens[k]? = some e ↔
      (now : Int) < e ∧
        ((k = tokenHash ∧ (now : Int) < expiresAt ∧ e = expiresAt) ∨
          (¬ (k = tokenHash ∧ (now : Int) < expiresAt) ∧ s.revokedTokens[k]? = some e)) := by
  simp only [apply, HashMap.lookup_filter, Option.filter_eq_some_iff, decide_eq_true_eq]
  by_cases hfuture : (now : Int) < expiresAt
  · by_cases hk : k = tokenHash
    · subst hk
      simp [hfuture]
      tauto
    · have hk' : ¬ tokenHash = k := fun heq => hk heq.symm
      simp [hfuture, HashMap.lookup_insert, hk, hk']
      tauto
  · simp [hfuture]
    tauto

end SecretsState

/-! ## What an operation leaves alone -/

lemma SecretsRaftOp.revokeToken_or_keeps (op : SecretsRaftOp) :
    (∃ tokenHash expiresAt, op = .revokeToken tokenHash expiresAt) ∨
      ∀ now (s : SecretsState), (s.apply now op).1.revokedTokens = s.revokedTokens := by
  cases op with
  | revokeToken tokenHash expiresAt => exact .inl ⟨tokenHash, expiresAt, rfl⟩
  | revokeNode | deleteSecret =>
    right
    intro now s
    simp only [SecretsState.apply]
    split <;> rfl
  | _ => exact .inr fun _ _ => rfl

lemma SecretsRaftOp.wipeJoinSecret_or_keeps (op : SecretsRaftOp) :
    op = .wipeJoinSecret ∨
      ∀ now (s : SecretsState), (s.apply now op).1.joinSecretWipedAt = s.joinSecretWipedAt := by
  cases op with
  | wipeJoinSecret => exact .inl rfl
  | revokeNode | deleteSecret =>
    right
    intro now s
    simp only [SecretsState.apply]
    split <;> rfl
  | _ => exact .inr fun _ _ => rfl

end ZLayer.Secrets
