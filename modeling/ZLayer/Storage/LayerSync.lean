import ZLayer.Lib.ObjectStore
import ZLayer.Lib.Proc
import ZLayer.Storage.Snapshot

/-!
# LayerSync — container layers in S3

`LayerSyncManager` keeps one `SyncState` per container, in memory behind a read-write lock and in a
database from which a new process loads them.  `sync_layer` archives the upper layer into the
staging directory, uploads the archive in parts, publishes its metadata, and records the digest; an
upload that a crash has cut off is resumed by the next call from the pending record.

Each await point is a step at which the process may stop.  An external call (S3, the database, the
file system) ends as its `Answer` says: it succeeds, it fails, or it takes effect and the reply is
lost.  A guard of the lock lives to the end of its block, also across the awaits inside.
-/

namespace ZLayer.Storage

open Lib

/-! ## Types -/

structure ContainerLayerId where
  service : String
  instanceId : String
  deriving DecidableEq, Repr

def ContainerLayerId.toKey (id : ContainerLayerId) : String :=
  id.service ++ "_" ++ id.instanceId

structure CompletedPart where
  partNumber : Nat
  eTag : String

/-- State for resumable multipart uploads. -/
structure PendingUpload where
  uploadId : Nat
  objectKey : String
  totalParts : Nat
  completedParts : HashMap Nat CompletedPart
  partSize : Nat
  /-- The file name in the staging directory. -/
  localTarballPath : String
  startedAt : Int
  digest : String

def PendingUpload.missingParts (p : PendingUpload) : List Nat :=
  (List.range' 1 p.totalParts).filter fun number => !p.completedParts.contains number

structure SyncState where
  containerId : ContainerLayerId
  localDigest : Option String
  remoteDigest : Option String
  lastSync : Option Int
  pendingUpload : Option PendingUpload

def SyncState.new (id : ContainerLayerId) : SyncState where
  containerId := id
  localDigest := none
  remoteDigest := none
  lastSync := none
  pendingUpload := none

structure LayerStorageConfig where
  prefixPath : String
  partSizeBytes : Nat
  compressionLevel : Int

def LayerStorageConfig.objectKey (cfg : LayerStorageConfig) (digest : String) : String :=
  cfg.prefixPath ++ digest ++ ".tar.zst"

def LayerStorageConfig.metadataKey (cfg : LayerStorageConfig) (digest : String) : String :=
  cfg.prefixPath ++ digest ++ ".meta.json"

inductive LayerStorageError
  | io (text : String)
  | s3 (text : String)
  | serialization
  | database (text : String)
  | checksumMismatch (expected actual : String)
  | notFound (text : String)
  | uploadInterrupted (text : String)
  /-- The task panics. -/
  | panic
  deriving DecidableEq, Repr

/-! ## The world of a call -/

/-- The guards that are alive on the manager's `RwLock`. -/
structure Guards where
  readers : Nat
  writer : Bool
  deriving DecidableEq, Repr

structure World where
  guards : Guards
  /-- The states in memory. -/
  states : HashMap String SyncState
  /-- The table `sync_state`. -/
  db : HashMap String SyncState
  s3 : ObjectStore
  /-- The staging directory, by file name. -/
  staging : HashMap String (List UInt8)

def World.fresh : World where
  guards := ⟨0, false⟩
  states := ∅
  db := ∅
  s3 := .empty
  staging := ∅

/-- A new process over what the old one has left: `load_all_states` fills the memory. -/
def World.restart (w : World) : World :=
  { w with
    guards := ⟨0, false⟩
    states := w.db }

inductive Ending
  | ok
  | failed
  /-- The call took effect, and its reply is an error. -/
  | lost
  deriving DecidableEq, Repr

/-- What the environment contributes to one external call. -/
structure Answer where
  ending : Ending
  /-- The text of the error, if the caller sees one. -/
  error : String
  /-- The clock at this call. -/
  now : Int
  /-- The tag that S3 gives to an uploaded part. -/
  eTag : String
  /-- The most bytes that a `read` of a file returns. -/
  readLen : Nat

/-- A call sees the world, and the answers to the external calls it still has to make. -/
structure Session where
  world : World
  answers : ℕ → Answer

def Session.answered (s : Session) (world : World) : Session where
  world := world
  answers := fun n => s.answers (n + 1)

abbrev SyncCall (α : Type) := Call Session LayerStorageError α

/-- What the next answer makes of an operation that would give `next`. -/
def Session.conclude {ρ : Type} (s : Session) (wrap : String → LayerStorageError)
    (next : World × Except String ρ) : Session × Except LayerStorageError ρ :=
  match (s.answers 0).ending with
  | .ok => (s.answered next.1, next.2.mapError wrap)
  | .lost => (s.answered next.1, .error (wrap (s.answers 0).error))
  | .failed => (s.answered s.world, .error (wrap (s.answers 0).error))

def external {ρ : Type} (wrap : String → LayerStorageError)
    (op : Answer → World → World × Except String ρ) : SyncCall ρ :=
  Call.ofProc <| Proc.act fun s => s.conclude wrap (op (s.answers 0) s.world)

/-- A look at the world, or a change to it, that cannot fail. -/
def internal {ρ : Type} (op : Session → World × ρ) : SyncCall ρ :=
  Call.ofProc <| Proc.act fun s => ({ s with world := (op s).1 }, .ok (op s).2)

def callS3 {ρ : Type} (op : Answer → ObjectStore → ObjectStore × Except String ρ) : SyncCall ρ :=
  external .s3 fun answer w => ({ w with s3 := (op answer w.s3).1 }, (op answer w.s3).2)

/-! ## The lock -/

/-- A read request is granted when no write guard is alive, a write request when no guard is. -/
def Guards.canRead (g : Guards) : Bool := !g.writer

def Guards.canWrite (g : Guards) : Bool := !g.writer && g.readers == 0

def setGuards (f : Guards → Guards) (s : Session) : Session :=
  { s with world := { s.world with guards := f s.world.guards } }

/-- `{ let states = self.states.read().await; … }` -/
def withRead {α : Type} (body : SyncCall α) : SyncCall α :=
  Call.ofProc do
    Proc.await (fun s => s.world.guards.canRead)
      (setGuards fun g => { g with readers := g.readers + 1 })
    let result ← body.toProc
    Proc.act fun s => (setGuards (fun g => { g with readers := g.readers - 1 }) s, ())
    return result

/-- `{ let mut states = self.states.write().await; … }` -/
def withWrite {α : Type} (body : SyncCall α) : SyncCall α :=
  Call.ofProc do
    Proc.await (fun s => s.world.guards.canWrite) (setGuards fun g => { g with writer := true })
    let result ← body.toProc
    Proc.act fun s => (setGuards (fun g => { g with writer := false }) s, ())
    return result

/-! ## Pieces of the calls -/

def getState (key : String) : SyncCall (Option SyncState) :=
  internal fun s => (s.world, s.world.states[key]?)

def saveState (state : SyncState) : SyncCall Unit :=
  external .database fun _ w =>
    ({ w with db := w.db.insert state.containerId.toKey state }, .ok ())

/-- `if let Some(state) = states.get_mut(&key) { …; self.save_state(state).await?; }` -/
def updateState (key : String) (f : Int → SyncState → SyncState) : SyncCall Unit := do
  let updated ← internal fun s =>
    let now := (s.answers 0).now
    ({ s.world with states := s.world.states.modify key (f now) },
      s.world.states[key]?.map (f now))
  match updated with
  | some state => saveState state
  | none => pure ()

def SyncState.synced (digest : String) (now : Int) (state : SyncState) : SyncState :=
  { state with
    localDigest := some digest
    remoteDigest := some digest
    lastSync := some now
    pendingUpload := none }

def tarballExists (name : String) : SyncCall Bool :=
  internal fun s => (s.world, s.world.staging.contains name)

/-- `let _ = remove_file(path)`: an error is ignored. -/
def removeTarball (name : String) : SyncCall Unit :=
  Call.ofProc <| Proc.act fun s =>
    ((s.conclude .io ({ s.world with staging := s.world.staging.erase name }, .ok ())).1, .ok ())

/-- What an operation on the contents of a staged file gives. -/
def World.onFile {ρ : Type} (w : World) (name : String) (f : List UInt8 → ρ) :
    World × Except String ρ :=
  match w.staging[name]? with
  | some file => (w, .ok (f file))
  | none => (w, .error "No such file or directory")

@[simp] lemma World.onFile_fst {ρ : Type} (w : World) (name : String) (f : List UInt8 → ρ) :
    (w.onFile name f).1 = w := by
  unfold onFile
  cases w.staging[name]? <;> rfl

lemma World.onFile_eq_ok {ρ : Type} {w : World} {name : String} {f : List UInt8 → ρ} {a : ρ}
    (h : (w.onFile name f).2 = .ok a) : ∃ file, w.staging[name]? = some file ∧ f file = a := by
  unfold onFile at h
  cases hfile : w.staging[name]? with
  | none =>
    rw [hfile] at h
    cases h
  | some file =>
    rw [hfile] at h
    cases h
    exact ⟨file, rfl, rfl⟩

/-- Open the tarball, seek to the offset of the part, and `read` into a buffer of the size of a
part. -/
def readPart (name : String) (partSize number : Nat) : SyncCall (List UInt8) :=
  external .io fun answer w =>
    w.onFile name fun file =>
      (file.drop ((number - 1) * partSize)).take (min partSize answer.readLen)

def uploadPart (name : String) (uploadId : Nat) (objectKey : String) (partSize number : Nat) :
    SyncCall String := do
  let data ← readPart name partSize number
  callS3 fun answer s3 => s3.uploadPart uploadId objectKey number ⟨answer.eTag, data⟩

def uploadParts (name : String) (uploadId : Nat) (objectKey : String) (partSize : Nat) :
    List Nat → SyncCall (List (Nat × String))
  | [] => pure []
  | number :: rest => do
      let eTag ← uploadPart name uploadId objectKey partSize number
      let completed ← uploadParts name uploadId objectKey partSize rest
      return (number, eTag) :: completed

def getSnapshotMetadata (lib : LayerLib) (cfg : LayerStorageConfig) (digest : String) :
    SyncCall LayerSnapshot := do
  let bytes ← callS3 fun _ s3 => s3.getObject (cfg.metadataKey digest)
  match lib.snapshotFromSlice bytes with
  | some snapshot => return snapshot
  | none => throw .serialization

/-! ## The upload -/

/-- `create_snapshot` in a blocking task: the output file is created, then filled. -/
def stageSnapshot (lib : LayerLib) (cfg : LayerStorageConfig) (name : String) (source : FsNode) :
    SyncCall LayerSnapshot := do
  external .io fun _ w => ({ w with staging := w.staging.insert name [] }, .ok ())
  external .io fun answer w =>
    let made := createSnapshot lib cfg.compressionLevel answer.now source
    ({ w with staging := w.staging.insert name made.2 }, .ok made.1)

/-- `file_size.div_ceil(part_size) as u32`; a part size of zero panics. -/
def totalParts (partSize fileSize : Nat) : Option Nat :=
  if partSize = 0 then none else some (Chunks.count partSize fileSize % 2 ^ 32)

def uploadSnapshot (lib : LayerLib) (cfg : LayerStorageConfig) (id : ContainerLayerId)
    (name : String) (snapshot : LayerSnapshot) : SyncCall Unit := do
  let objectKey := cfg.objectKey snapshot.digest
  let fileSize ← external .io fun _ w => w.onFile name List.length
  match totalParts cfg.partSizeBytes fileSize with
  | none => throw .panic
  | some total =>
    let (uploadId, startedAt) ← callS3 fun answer s3 =>
      ((s3.createMultipartUpload objectKey).1,
        (s3.createMultipartUpload objectKey).2.map fun uploadId => (uploadId, answer.now))
    let pending : PendingUpload := {
      uploadId := uploadId
      objectKey := objectKey
      totalParts := total
      completedParts := ∅
      partSize := cfg.partSizeBytes
      localTarballPath := name
      startedAt := startedAt
      digest := snapshot.digest }
    withWrite (updateState id.toKey fun _ state => { state with pendingUpload := some pending })
    let completed ←
      uploadParts name uploadId objectKey cfg.partSizeBytes (List.range' 1 total)
    callS3 fun _ s3 => s3.completeMultipartUpload uploadId objectKey completed
    callS3 fun _ s3 =>
      s3.putObject (cfg.metadataKey snapshot.digest) (lib.snapshotToVec snapshot)

/-! ## Resuming -/

/-- The first half of `resume_upload`: the parts that the record does not count as completed. -/
def uploadMissing (id : ContainerLayerId) (pending : PendingUpload) : SyncCall Unit :=
  if pending.missingParts.isEmpty then
    pure ()
  else do
    if ← tarballExists pending.localTarballPath then
      let _ ← uploadParts pending.localTarballPath pending.uploadId pending.objectKey
        pending.partSize pending.missingParts
      return ()
    else
      callS3 fun _ s3 => s3.abortMultipartUpload pending.uploadId pending.objectKey
      withWrite (updateState id.toKey fun _ state => { state with pendingUpload := none })
      throw (.uploadInterrupted "Local tarball missing")

/-- Complete the upload with the parts that S3 lists. -/
def completeListed (pending : PendingUpload) : SyncCall Unit := do
  let completed ← callS3 fun _ s3 => s3.listParts pending.uploadId pending.objectKey
  callS3 fun _ s3 => s3.completeMultipartUpload pending.uploadId pending.objectKey completed

def resumeUpload (lib : LayerLib) (cfg : LayerStorageConfig) (id : ContainerLayerId)
    (pending : PendingUpload) : SyncCall (Option LayerSnapshot) := do
  uploadMissing id pending
  completeListed pending
  withWrite (updateState id.toKey fun now => SyncState.synced pending.digest now)
  removeTarball pending.localTarballPath
  let snapshot ← getSnapshotMetadata lib cfg pending.digest
  return some snapshot

/-! ## The calls -/

def registerContainer (id : ContainerLayerId) : SyncCall Unit :=
  withWrite do
    match ← getState id.toKey with
    | some _ => pure ()
    | none =>
      saveState (SyncState.new id)
      internal fun s =>
        ({ s.world with states := s.world.states.insert id.toKey (SyncState.new id) }, ())

def checkForChanges (lib : LayerLib) (id : ContainerLayerId) (upper : FsNode) : SyncCall Bool :=
  withRead do
    match ← getState id.toKey with
    | none => throw (.notFound id.toKey)
    | some state =>
      let current ← external .io fun _ w => (w, .ok (calculateDirectoryDigest lib upper))
      return state.localDigest ≠ some current

/-- The first block of `sync_layer`: a pending upload is resumed, with the read guard alive. -/
def resumePending (lib : LayerLib) (cfg : LayerStorageConfig) (id : ContainerLayerId) :
    SyncCall (Option (Option LayerSnapshot)) :=
  withRead do
    match (← getState id.toKey).bind SyncState.pendingUpload with
    | some pending =>
      let result ← resumeUpload lib cfg id pending
      return some result
    | none => return none

/-- `hashed` and `archived` are the upper layer as the digest and the archive find it. -/
def syncLayer (lib : LayerLib) (cfg : LayerStorageConfig) (id : ContainerLayerId)
    (hashed archived : FsNode) : SyncCall (Option LayerSnapshot) := do
  match ← resumePending lib cfg id with
  | some result => return result
  | none =>
    let current ← external .io fun _ w => (w, .ok (calculateDirectoryDigest lib hashed))
    let remote ← withRead do
      return (← getState id.toKey).bind SyncState.remoteDigest
    if remote = some current then
      return none
    else
      let name := current ++ ".tar.zst"
      let snapshot ← stageSnapshot lib cfg name archived
      uploadSnapshot lib cfg id name snapshot
      withWrite (updateState id.toKey fun now => SyncState.synced snapshot.digest now)
      removeTarball name
      return some snapshot

/-- `restore_layer`; `archive.unpack` into the target directory is the last external call before
the local digest is recorded. -/
def restoreLayer (lib : LayerLib) (cfg : LayerStorageConfig) (id : ContainerLayerId) :
    SyncCall LayerSnapshot := do
  let remote ← withRead do
    return (← getState id.toKey).bind SyncState.remoteDigest
  match remote with
  | none => throw (.notFound ("No remote layer for " ++ id.toKey))
  | some digest =>
    let name := digest ++ ".tar.zst"
    let body ← callS3 fun _ s3 => s3.getObject (cfg.objectKey digest)
    external .io fun _ w => ({ w with staging := w.staging.insert name body }, .ok ())
    let snapshot ← getSnapshotMetadata lib cfg digest
    match verifySnapshot lib body digest with
    | .undecodable => throw (.io "zstd")
    | .mismatch actual => throw (.checksumMismatch digest actual)
    | .archive _ =>
      external .io fun _ w => (w, .ok ())
      withWrite (updateState id.toKey fun _ state => { state with localDigest := some digest })
      removeTarball name
      return snapshot

end ZLayer.Storage
