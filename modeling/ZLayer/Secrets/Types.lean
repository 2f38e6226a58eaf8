import ZLayer.Lib.HashMap

/-!
# Types — records of the cluster-replicated secrets

Node identities, the wrapped data-encryption key (DEK), replicated secrets and the operations that
reach the secrets state machine through the Raft log.  Instants are nanoseconds since the Unix
epoch.
-/

namespace ZLayer.Secrets

open Lib

abbrev Bytes := List UInt8

abbrev Bytes32 := Vector UInt8 32

abbrev DateTime := Int

def u64Max : UInt64 := 0xffffffffffffffff

def saturatingSucc (n : UInt64) : UInt64 :=
  if n = u64Max then n else n + 1

@[simp] lemma saturatingSucc_max : saturatingSucc u64Max = u64Max := by decide

lemma lt_saturatingSucc {n : UInt64} (h : n ≠ u64Max) : n < saturatingSucc n := by
  have hmax : n.toNat ≠ 18446744073709551615 := by
    intro heq
    exact h (UInt64.toNat_inj.mp (by rw [heq]; decide))
  have hbound := n.toNat_lt
  rw [saturatingSucc, if_neg h, UInt64.lt_iff_toNat_lt, UInt64.toNat_add]
  have hone : (1 : UInt64).toNat = 1 := by decide
  rw [hone]
  omega

lemma le_saturatingSucc (n : UInt64) : n ≤ saturatingSucc n := by
  by_cases h : n = u64Max
  · rw [h, saturatingSucc_max]
    exact UInt64.le_refl _
  · exact UInt64.le_of_lt (lt_saturatingSucc h)

/-! ## Stored records -/

structure NodeIdentity where
  nodeId : String
  secretsPubkey : Bytes32
  wgPubkey : String
  joinedAt : DateTime
  /-- Soft revocation: set once, the node gets no further wraps. -/
  revokedAt : Option DateTime
  deriving DecidableEq

/-- The DEK, sealed once for every recipient node. -/
structure WrappedDek where
  dekGeneration : UInt64
  wraps : HashMap String Bytes
  deriving DecidableEq

structure SecretMetadata where
  name : String
  createdAt : Int64
  updatedAt : Int64
  version : UInt32
  deriving DecidableEq

/-- Which nodes may host the decryptable form of a secret. -/
inductive NodeAffinity
  | nodes (nodeIds : List String)
  | labels (labels : HashMap String String)
  deriving DecidableEq

structure ReplicatedSecret where
  storageKey : String
  /-- Nonce followed by the AEAD ciphertext. -/
  ciphertext : Bytes
  dekGeneration : UInt64
  metadata : SecretMetadata
  nodeAffinity : Option NodeAffinity
  deriving DecidableEq

structure TrustBundle where
  v : UInt32
  clusterDomain : String
  caPublicKeyB64 : String
  caKid : String
  generatedAt : String
  deriving DecidableEq

inductive JwtAlgorithm
  | hs256
  | both
  | eddsa
  deriving DecidableEq, Repr

/-! ## Operations and errors -/

/-- Operations of the secrets state machine, in the order of the source's enumeration. -/
inductive SecretsRaftOp
  | registerNode (identity : NodeIdentity)
  | revokeNode (nodeId : String)
  | rotateDek (newWraps : WrappedDek)
  | putSecret (secret : ReplicatedSecret)
  | deleteSecret (storageKey : String)
  | revokeToken (tokenHash : String) (expiresAt : DateTime)
  | importTrustBundle (bundle : TrustBundle)
  | removeTrustBundle (clusterDomain : String)
  | setJwtAlgorithm (algorithm : JwtAlgorithm)
  | wipeJoinSecret
  deriving DecidableEq

inductive SecretsError
  | notFound (name : String)
  | accessDenied (name : String)
  | encryption (message : String)
  | decryption (message : String)
  | storage (message : String)
  | invalidName (name : String)
  | alreadyExists (name : String)
  | provider (message : String)
  deriving DecidableEq, Repr

def SecretsError.display : SecretsError → String
  | .notFound name => "Secret not found: " ++ name
  | .accessDenied name => "Access denied to secret: " ++ name
  | .encryption message => "Encryption error: " ++ message
  | .decryption message => "Decryption error: " ++ message
  | .storage message => "Storage error: " ++ message
  | .invalidName name => "Invalid secret name: " ++ name
  | .alreadyExists name => "Secret already exists: " ++ name
  | .provider message => "Provider error: " ++ message

end ZLayer.Secrets
