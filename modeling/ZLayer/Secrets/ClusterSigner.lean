import Mathlib.Data.List.Sort
import ZLayer.Secrets.Types

/-!
# ClusterSigner — the keystore of the join-token signing keys

The keystore has every signing key with its seed, names the active one, and maps each retired key
to the instant at which it stops being accepted.  `rotate_keystore` and `prune_expired_grace`
rewrite it, one at a time; `load_signer_for_kid` and `list_valid_pubkeys` read it.

A call reads the clock once: the argument `now`, in nanoseconds since the Unix epoch.  Its `write`
is how the write of the new keystore ends; the file is replaced by a rename, so a write that fails
leaves the old one.
-/

namespace ZLayer.Secrets

open Lib

def signingKeySeedLen : Nat := 32

def keystoreVersion : UInt32 := 1

/-- The crates the signer is built on: Ed25519, SHA-256, hex and URL-safe base64. -/
structure SignerCrates where
  verifyingKey : Bytes32 → Bytes32
  sha256 : Bytes → Bytes32
  hexEncode : Bytes → String
  encode : Bytes → String
  decode : String → Except String Bytes

structure KeyEntry where
  id : String
  seedB64 : String
  createdAt : DateTime
  deriving DecidableEq

structure KeyStoreFile where
  version : UInt32
  keys : List KeyEntry
  active : String
  /-- Until when a retired key is accepted. -/
  retiredGraceUntil : HashMap String DateTime

structure ClusterSigner where
  signing : Bytes32
  publicKey : Bytes32
  deriving DecidableEq

inductive PubkeyStatus
  | active
  | grace
  deriving DecidableEq

structure PubkeyInfo where
  kid : String
  publicKeyB64 : String
  status : PubkeyStatus
  validUntil : Option DateTime
  createdAt : DateTime
  deriving DecidableEq

structure KeystoreRotationResult where
  newActiveKid : String
  newActivePublicKeyB64 : String
  previousKid : String
  previousGraceUntil : DateTime
  deriving DecidableEq

def hexShort (c : SignerCrates) (digest : Bytes32) : String :=
  c.hexEncode (digest.toList.take 4)

namespace ClusterSigner

def fromSeed (c : SignerCrates) (seed : Bytes32) : ClusterSigner :=
  { signing := seed
    publicKey := c.verifyingKey seed }

def publicKeyB64 (c : SignerCrates) (signer : ClusterSigner) : String :=
  c.encode signer.publicKey.toList

def keyId (c : SignerCrates) (signer : ClusterSigner) : String :=
  hexShort c (c.sha256 signer.publicKey.toList)

def freshKeystore (c : SignerCrates) (seed : Bytes32) (now : Nat) : KeyStoreFile :=
  let entry : KeyEntry :=
    { id := (fromSeed c seed).keyId c
      seedB64 := c.encode seed.toList
      createdAt := now }
  { version := keystoreVersion
    keys := [entry]
    active := entry.id
    retiredGraceUntil := ∅ }

end ClusterSigner

/-! ## Instants and durations -/

/-- `DateTime::<Utc>::MAX_UTC`: the last nanosecond of the year 262142. -/
def maxUtc : DateTime := 8210266876799999999999

/-- `chrono::Duration::MAX`: the largest 64-bit number of milliseconds. -/
def chronoDurationMax : Nat := (2 ^ 63 - 1) * 1000000

/-- `DateTime::checked_add_signed` of a duration that is not negative. -/
def checkedAddSigned (t : DateTime) (duration : Nat) : Option DateTime :=
  if t + duration ≤ maxUtc then some (t + duration) else none

/-- The end of the grace of a key that is retired at `now`. -/
def previousGraceUntil (now grace : Nat) : DateTime :=
  (checkedAddSigned now (min grace chronoDurationMax)).getD maxUtc

/-! ## Rotation and pruning -/

/-- The file after a write of `store` over `old`. -/
def writeKeystore (write : Except SecretsError Unit) (old store : KeyStoreFile) : KeyStoreFile :=
  match write with
  | .ok () => store
  | .error _ => old

/-- `seed` is what the random generator of the operating system gives. -/
def rotateKeystore (c : SignerCrates) (now grace : Nat) (seed : Except String Bytes32)
    (write : Except SecretsError Unit) (store : KeyStoreFile) :
    KeyStoreFile × Except SecretsError KeystoreRotationResult :=
  match seed with
  | .error e => (store, .error (.storage s!"OS CSPRNG failed during rotation: {e}"))
  | .ok seed =>
    let oldActive := store.active
    let newKid := hexShort c (c.sha256 (c.verifyingKey seed).toList)
    if store.keys.any fun k => k.id == newKid then
      (store, .error (.storage
        s!"kid collision; retry rotation (new_kid={newKid} already in keystore)"))
    else
      let until_ := previousGraceUntil now grace
      let entry : KeyEntry :=
        { id := newKid
          seedB64 := c.encode seed.toList
          createdAt := now }
      let rotated : KeyStoreFile :=
        { store with
          keys := store.keys ++ [entry]
          retiredGraceUntil := store.retiredGraceUntil.insert oldActive until_
          active := newKid }
      (writeKeystore write store rotated, write.map fun _ =>
        { newActiveKid := newKid
          newActivePublicKeyB64 := c.encode (c.verifyingKey seed).toList
          previousKid := oldActive
          previousGraceUntil := until_ })

/-- Drop a key whose grace has expired; the active key is never dropped. -/
def pruneKey (store : KeyStoreFile) (kid : String) : KeyStoreFile :=
  if kid = store.active then store
  else
    { store with
      retiredGraceUntil := store.retiredGraceUntil.erase kid
      keys := store.keys.filter fun k => k.id != kid }

def expiredKids (order : HashMap.IterOrder String DateTime) (now : Nat) (store : KeyStoreFile) :
    List String :=
  (order.list store.retiredGraceUntil).filterMap fun (kid, expires) =>
    if expires ≤ now then some kid else none

def pruneExpiredGrace (order : HashMap.IterOrder String DateTime) (now : Nat)
    (write : Except SecretsError Unit) (store : KeyStoreFile) :
    KeyStoreFile × Except SecretsError Nat :=
  let expired := expiredKids order now store
  if expired.isEmpty then (store, .ok 0)
  else
    let remaining := expired.foldl pruneKey store
    let pruned := expired.countP fun k => k != remaining.active
    if pruned = 0 then (store, .ok 0)
    else (writeKeystore write store remaining, write.map fun _ => pruned)

/-! ## Queries -/

def KeyEntry.decodeSeed (c : SignerCrates) (path : String) (entry : KeyEntry) :
    Except SecretsError Bytes32 :=
  match c.decode entry.seedB64 with
  | .error e =>
    .error (.storage (s!"cluster signer keystore {path} has invalid base64 seed for kid " ++
      s!"{repr entry.id}: {e}"))
  | .ok seedBytes =>
    if h : seedBytes.length = signingKeySeedLen then
      .ok ⟨seedBytes.toArray, by simpa [signingKeySeedLen] using h⟩
    else
      .error (.storage (s!"cluster signer keystore {path} has wrong seed length for kid " ++
        s!"{repr entry.id}: expected {signingKeySeedLen}, got {seedBytes.length}"))

/-- `valid` of `load_signer_for_kid`. -/
def KeyStoreFile.isValid (store : KeyStoreFile) (now : Nat) (kid : String) : Bool :=
  if store.active = kid then true
  else
    match store.retiredGraceUntil[kid]? with
    | some expiresAt => now < expiresAt
    | none => false

def loadSignerForKid (c : SignerCrates) (path : String) (store : KeyStoreFile) (now : Nat)
    (kid : String) : Except SecretsError (Option ClusterSigner) :=
  match store.keys.find? fun k => k.id == kid with
  | none => .ok none
  | some entry =>
    if store.isValid now kid then
      (entry.decodeSeed c path).map fun seed => some (ClusterSigner.fromSeed c seed)
    else .ok none

def collectPubkeys (c : SignerCrates) (path : String) (store : KeyStoreFile) (now : Nat) :
    List KeyEntry → Option PubkeyInfo → List PubkeyInfo →
      Except SecretsError (Option PubkeyInfo × List PubkeyInfo)
  | [], activeInfo, graceInfos => .ok (activeInfo, graceInfos)
  | entry :: entries, activeInfo, graceInfos =>
    match entry.decodeSeed c path with
    | .error e => .error e
    | .ok seed =>
      let publicKeyB64 := c.encode (c.verifyingKey seed).toList
      if entry.id = store.active then
        let info : PubkeyInfo :=
          { kid := entry.id
            publicKeyB64
            status := .active
            validUntil := none
            createdAt := entry.createdAt }
        collectPubkeys c path store now entries (some info) graceInfos
      else
        match store.retiredGraceUntil[entry.id]? with
        | some expiresAt =>
          if now < expiresAt then
            let info : PubkeyInfo :=
              { kid := entry.id
                publicKeyB64
                status := .grace
                validUntil := some expiresAt
                createdAt := entry.createdAt }
            collectPubkeys c path store now entries activeInfo (graceInfos ++ [info])
          else collectPubkeys c path store now entries activeInfo graceInfos
        | none => collectPubkeys c path store now entries activeInfo graceInfos

def PubkeyInfo.laterFirst (a b : PubkeyInfo) : Bool :=
  match b.validUntil, a.validUntil with
  | none, _ => true
  | some _, none => false
  | some tb, some ta => tb ≤ ta

def listValidPubkeys (c : SignerCrates) (path : String) (store : KeyStoreFile) (now : Nat) :
    Except SecretsError (List PubkeyInfo) :=
  (collectPubkeys c path store now store.keys none []).map fun (activeInfo, graceInfos) =>
    activeInfo.toList ++ graceInfos.insertionSort fun a b => a.laterFirst b

/-! ## Runs -/

inductive KeystoreCall
  | rotate (now grace : Nat) (seed : Except String Bytes32) (write : Except SecretsError Unit)
  | prune (now : Nat) (write : Except SecretsError Unit)

namespace KeystoreCall

def now : KeystoreCall → Nat
  | .rotate now _ _ _ => now
  | .prune now _ => now

def next (c : SignerCrates) (order : HashMap.IterOrder String DateTime) (store : KeyStoreFile) :
    KeystoreCall → KeyStoreFile
  | .rotate now grace seed write => (rotateKeystore c now grace seed write store).1
  | .prune now write => (pruneExpiredGrace order now write store).1

end KeystoreCall

end ZLayer.Secrets
