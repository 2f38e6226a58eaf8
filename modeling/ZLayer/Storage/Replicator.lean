import ZLayer.Lib.BTreeMap
import ZLayer.Lib.WriteLog
import ZLayer.Storage.UploadOrder

/-!
# Replicator — a SQLite database, its WAL file and their copies in S3

The replicator runs three tasks beside the database.  The monitor polls the size of the WAL file
and, when it has changed, puts a copy of the whole file into the write cache under its frame count;
the upload worker empties the cache into S3; the snapshot task uploads the database file now and
then.  `flush` stops the three, uploads a last snapshot and the rest of the cache.  `restore` takes
the newest snapshot and opens it next to the segment with the greatest number.

Each task is a state of its own, and an event is one of its steps: commits, checkpoints, answers of
S3 and steps of the other tasks may come in between.
-/

namespace ZLayer.Storage

open Lib WriteLog

/-! ## The database and its WAL -/

/-- The contents of a database file, by page number. -/
abbrev Pages (Page : Type) := HashMap UInt32 Page

abbrev Frame (Page : Type) := UInt32 × Page

structure WalFile (Page : Type) where
  frames : List (Frame Page)
  /-- Frames behind them that a restarted log has not overwritten yet; recovery ignores them. -/
  leftover : List (Frame Page)
  /-- All frames are in the database file, and the next commit starts at the front again. -/
  restarting : Bool

namespace WalFile

variable {Page : Type}

def empty : WalFile Page where
  frames := []
  leftover := []
  restarting := false

/-- A commit writes its frames behind the others, or over them if the log restarts. -/
def append (wal : WalFile Page) (frames : List (Frame Page)) : WalFile Page :=
  if wal.restarting then
    { frames := frames
      leftover := (wal.frames ++ wal.leftover).drop frames.length
      restarting := false }
  else
    { frames := wal.frames ++ frames
      leftover := wal.leftover.drop frames.length
      restarting := false }

end WalFile

/-- SQLite's file format: recovery finds the frames of a WAL file in its bytes. -/
structure SqliteLib (Page : Type) where
  walBytes : WalFile Page → List UInt8
  recover : List UInt8 → List (Frame Page)
  recover_walBytes : ∀ wal, recover (walBytes wal) = wal.frames

inductive CheckpointMode
  /-- The file stays as it is; the next commit starts at its front. -/
  | restart
  /-- The file is cut to nothing. -/
  | truncate
  /-- The file is deleted. -/
  | remove

def CheckpointMode.walAfter {Page : Type} (mode : CheckpointMode) (wal : WalFile Page) :
    Option (WalFile Page) :=
  match mode with
  | .restart => some { wal with restarting := true }
  | .truncate => some .empty
  | .remove => none

/-! ## Frame counts -/

def u32At (bytes : List UInt8) (offset : Nat) : Nat :=
  ((bytes.drop offset).take 4).foldl (fun n byte => 256 * n + byte.toNat) 0

structure WalHeader where
  magic : Nat
  pageSize : Nat

def WalHeader.fromBytes (bytes : List UInt8) : Option WalHeader :=
  if bytes.length < 32 then
    none
  else if u32At bytes 0 ≠ 0x377f0682 ∧ u32At bytes 0 ≠ 0x377f0683 then
    none
  else
    some
      { magic := u32At bytes 0
        pageSize := u32At bytes 8 }

def countFrames (data : List UInt8) : Option UInt64 :=
  if data.length < 32 then
    some 0
  else
    (WalHeader.fromBytes data).map fun header =>
      if header.pageSize = 0 then 0
      else UInt64.ofNat ((data.length - 32) / (24 + header.pageSize))

structure WalMonitor where
  lastFrameCount : UInt64
  lastFileSize : Nat
  deriving DecidableEq

section Monitor

variable {Page : Type} (lib : SqliteLib Page)

/-- `count_frames_from_file(..).unwrap_or(0)`; a missing file counts like an unreadable one. -/
def countFramesFromFile (wal : Option (WalFile Page)) : UInt64 :=
  (wal.bind fun file => countFrames (lib.walBytes file)).getD 0

def WalMonitor.new (wal : Option (WalFile Page)) : WalMonitor where
  lastFrameCount := countFramesFromFile lib wal
  lastFileSize := (wal.map fun file => (lib.walBytes file).length).getD 0

inductive PollStage
  /-- Before the test of `running`. -/
  | waiting
  /-- `check_for_changes` looks for the file and its size. -/
  | checking
  /-- The size has changed, and the frames are counted. -/
  | counting (size : Nat)
  /-- An event with this frame count; the file is read next. -/
  | event (frameCount : UInt64)
  deriving DecidableEq

/-- The first half of `check_for_changes`, up to the size of the file. -/
def WalMonitor.checkSize (m : WalMonitor) (wal : Option (WalFile Page)) : WalMonitor × PollStage :=
  match wal with
  | none =>
    if m.lastFileSize > 0 then
      ({ lastFrameCount := 0, lastFileSize := 0 }, .event 0)
    else
      (m, .waiting)
  | some file =>
    if (lib.walBytes file).length = m.lastFileSize then
      (m, .waiting)
    else
      (m, .counting (lib.walBytes file).length)

/-- The second half, with the size found by the first. -/
def WalMonitor.count (m : WalMonitor) (size : Nat) (wal : Option (WalFile Page)) :
    WalMonitor × PollStage :=
  let frameCount := countFramesFromFile lib wal
  ({ lastFrameCount := frameCount, lastFileSize := size },
    if frameCount ≠ m.lastFrameCount ∨ size < m.lastFileSize then .event frameCount
    else .waiting)

end Monitor

/-! ## S3 -/

structure ReplicationMetadata where
  latestSnapshot : Option Int
  latestWalSequence : Option UInt64
  deriving DecidableEq

namespace ReplicationMetadata

def default : ReplicationMetadata where
  latestSnapshot := none
  latestWalSequence := none

end ReplicationMetadata

/-- The replica's objects in S3: snapshots by the second in their key, WAL segments by the number
in theirs, and the metadata object. -/
structure Bucket (Page : Type) where
  snapshots : HashMap Int (Pages Page)
  wal : HashMap UInt64 (List UInt8)
  metadata : Option ReplicationMetadata

/-- The answer to an S3 request, and the time at which it was sent.  A write whose answer is an
error may have been stored all the same. -/
structure S3Answer where
  ok : Bool
  stored : Bool
  now : Int

namespace S3Answer

def written (answer : S3Answer) : Bool := answer.ok || answer.stored

end S3Answer

namespace Bucket

variable {Page : Type}

def empty : Bucket Page where
  snapshots := ∅
  wal := ∅
  metadata := none

/-- `list_snapshots().last()`: keys are sorted, and sort like the times in them. -/
def lastSnapshot (s3 : Bucket Page) : Option Int :=
  (BTreeMap.last? s3.snapshots).map Prod.fst

def getMetadata (s3 : Bucket Page) : ReplicationMetadata :=
  s3.metadata.getD ReplicationMetadata.default

def putSnapshot (s3 : Bucket Page) (answer : S3Answer) (pages : Pages Page) : Bucket Page :=
  if answer.written then
    { s3 with snapshots := s3.snapshots.insert answer.now pages }
  else
    s3

def putMetadata (s3 : Bucket Page) (answer : S3Answer) (metadata : ReplicationMetadata) :
    Bucket Page :=
  if answer.written then
    { s3 with metadata := some metadata }
  else
    s3

def uploadWalSegment (s3 : Bucket Page) (answer : S3Answer) (entry : CacheEntry) : Bucket Page :=
  if answer.written then
    { s3 with wal := s3.wal.insert entry.sequence entry.data }
  else
    s3

/-! ### `restore` -/

def downloadLatestSnapshot (s3 : Bucket Page) : Except String (Option (Pages Page)) :=
  match s3.getMetadata.latestSnapshot.or s3.lastSnapshot with
  | none => .ok none
  | some key =>
    match s3.snapshots[key]? with
    | some pages => .ok (some pages)
    | none => .error "NoSuchKey"

def downloadWalSegmentsSince (s3 : Bucket Page) (sequence : UInt64) : List (UInt64 × List UInt8) :=
  ((HashMap.entries s3.wal).filter fun segment => sequence < segment.1).insertionSort
    fun a b => a.1 ≤ b.1

/-- Only the last segment is written next to the database before it is opened. -/
def applyWalSegments (lib : SqliteLib Page) (pages : Pages Page)
    (segments : List (UInt64 × List UInt8)) : Pages Page :=
  match segments.getLast? with
  | some latest => overlay pages (lib.recover latest.2)
  | none => pages

/-- The database a node without one ends up with; nothing without a snapshot. -/
def restore (lib : SqliteLib Page) (s3 : Bucket Page) : Except String (Option (Pages Page)) :=
  match s3.downloadLatestSnapshot with
  | .error e => .error e
  | .ok none => .ok none
  | .ok (some pages) =>
    let since := s3.getMetadata.latestWalSequence.getD 0
    .ok (some (applyWalSegments lib pages (s3.downloadWalSegmentsSince since)))

end Bucket

/-! ## Uploading a snapshot -/

/-- What is left to do for a snapshot whose database file has been read: `upload_snapshot`, then
the three requests of `update_metadata(None)`. -/
inductive SnapshotUpload (Page : Type)
  | putting (pages : Pages Page)
  | reading
  | listing (metadata : ReplicationMetadata)
  | updating (metadata : ReplicationMetadata)

/-- How a request of a snapshot upload leaves it. -/
inductive UploadResult (Page : Type)
  | continues (upload : SnapshotUpload Page)
  | returned
  | failed

namespace SnapshotUpload

variable {Page : Type}

/-- `metadata.latest_snapshot` becomes the last key listed, if there is one. -/
def listed (s3 : Bucket Page) (metadata : ReplicationMetadata) : ReplicationMetadata :=
  { metadata with latestSnapshot := s3.lastSnapshot.or metadata.latestSnapshot }

def step (s3 : Bucket Page) (answer : S3Answer) :
    SnapshotUpload Page → Bucket Page × UploadResult Page
  | .putting pages =>
    (s3.putSnapshot answer pages, if answer.ok then .continues .reading else .failed)
  | .reading =>
    -- an error here is not passed on: `get_metadata().await.unwrap_or_default()`
    (s3, .continues (.listing
      (if answer.ok then s3.getMetadata else ReplicationMetadata.default)))
  | .listing metadata =>
    (s3, if answer.ok then .continues (.updating (listed s3 metadata)) else .failed)
  | .updating metadata =>
    (s3.putMetadata answer metadata, if answer.ok then .returned else .failed)

end SnapshotUpload

inductive SnapshotStage (Page : Type)
  | waiting
  /-- `running` was still set after the tick. -/
  | reading
  | uploading (upload : SnapshotUpload Page)

/-- Where the call of `flush` stands, or how the last one has ended. -/
inductive FlushStage (Page : Type)
  | idle
  /-- `running` is cleared, and the database file is read next. -/
  | reading
  | snapshot (upload : SnapshotUpload Page)
  /-- Before `pop_oldest`. -/
  | draining
  | uploading (entry : CacheEntry)
  | removing (entry : CacheEntry)
  /-- Returned Ok. -/
  | done
  | failed

/-! ## The system -/

structure Replicator (Page : Type) where
  db : Pages Page
  wal : Option (WalFile Page)
  running : Bool
  monitor : WalMonitor
  poll : PollStage
  /-- The cache, the monitor's call of `add` and the upload worker. -/
  tasks : UploadTasks
  /-- The worker has found `running` set and is about to call `pop_oldest`. -/
  popping : Bool
  snapshot : SnapshotStage Page
  flush : FlushStage Page
  s3 : Bucket Page
  /-- The segments read so far, with their numbers. -/
  captures : List (UInt64 × List UInt8)
  /-- A read of the WAL file has found frames since the last commit. -/
  captured : Bool

namespace Replicator

variable {Page : Type}

def start (lib : SqliteLib Page) (db : Pages Page) (wal : Option (WalFile Page)) (dir : CacheDir)
    (maxSize : Nat) : Replicator Page where
  db := db
  wal := wal
  running := true
  monitor := WalMonitor.new lib wal
  poll := .waiting
  tasks := UploadTasks.start (WriteCache.new dir maxSize)
  popping := false
  snapshot := .waiting
  flush := .idle
  s3 := .empty
  captures := []
  captured := ((wal.map WalFile.frames).getD []).isEmpty

def walFrames (r : Replicator Page) : List (Frame Page) :=
  (r.wal.map WalFile.frames).getD []

def committed (r : Replicator Page) : Pages Page :=
  overlay r.db r.walFrames

inductive Event (Page : Type)
  | commit (frames : List (Frame Page))
  | checkpoint (mode : CheckpointMode)
  /-- The monitor task starts an iteration. -/
  | pollBegin
  | pollCheck
  | pollCount
  /-- The monitor task reads the WAL file and calls `add`. -/
  | pollRead (now : Int)
  | monitorStep
  /-- The upload worker starts an iteration. -/
  | workerBegin
  | workerPop
  | workerUpload (answer : S3Answer)
  | workerStep
  /-- The snapshot task starts an iteration. -/
  | snapshotBegin
  | snapshotRead
  | snapshotStep (answer : S3Answer)
  | flushBegin
  | flushStep (answer : S3Answer)

variable (lib : SqliteLib Page) (json : EntryJson)

def commit (r : Replicator Page) (frames : List (Frame Page)) : Replicator Page :=
  if frames.isEmpty then
    r
  else
    { r with
      wal := some ((r.wal.getD .empty).append frames)
      captured := false }

def checkpoint (r : Replicator Page) (mode : CheckpointMode) : Replicator Page :=
  { r with
    db := r.committed
    wal := r.wal.bind mode.walAfter }

def pollRead (r : Replicator Page) (now : Int) : Replicator Page :=
  match r.poll, r.wal with
  | .event frameCount, some file =>
    { r with
      poll := .waiting
      tasks := r.tasks.next json (.capture now frameCount (lib.walBytes file))
      captures := r.captures ++ [(frameCount, lib.walBytes file)]
      captured := r.captured || !file.frames.isEmpty }
  | .event _, none => { r with poll := .waiting }
  | _, _ => r

def workerUpload (r : Replicator Page) (answer : S3Answer) : Replicator Page :=
  match r.tasks.worker with
  | .uploading entry =>
    { r with
      tasks := r.tasks.next json (if answer.ok then .uploadOk else .uploadErr answer.now)
      s3 := r.s3.uploadWalSegment answer entry }
  | _ => r

def snapshotStep (r : Replicator Page) (answer : S3Answer) : Replicator Page :=
  match r.snapshot with
  | .uploading upload =>
    { r with
      s3 := (upload.step r.s3 answer).1
      snapshot :=
        match (upload.step r.s3 answer).2 with
        | .continues upload => .uploading upload
        | .returned | .failed => .waiting }
  | _ => r

def flushStep (r : Replicator Page) (answer : S3Answer) : Replicator Page :=
  match r.flush with
  | .reading => { r with flush := .snapshot (.putting r.db) }
  | .snapshot upload =>
    { r with
      s3 := (upload.step r.s3 answer).1
      flush :=
        match (upload.step r.s3 answer).2 with
        | .continues upload => .snapshot upload
        | .returned => .draining
        | .failed => .failed }
  | .draining =>
    match r.tasks.cache.popOldest with
    | (some entry, cache) =>
      { r with
        tasks := { r.tasks with cache := cache }
        flush := .uploading entry }
    | (none, _) => { r with flush := .done }
  | .uploading entry =>
    { r with
      s3 := r.s3.uploadWalSegment answer entry
      flush := if answer.ok then .removing entry else .failed }
  | .removing entry =>
    { r with
      tasks := { r.tasks with cache := r.tasks.cache.remove entry }
      flush := .draining }
  | .idle | .done | .failed => r

/-- What an event does; one that does not fit the stage of its task does nothing. -/
def next (r : Replicator Page) : Event Page → Replicator Page
  | .commit frames => r.commit frames
  | .checkpoint mode => r.checkpoint mode
  | .pollBegin =>
    if r.running ∧ r.poll = .waiting ∧ r.tasks.monitor = none then { r with poll := .checking }
    else r
  | .pollCheck =>
    match r.poll with
    | .checking =>
      { r with
        monitor := (r.monitor.checkSize lib r.wal).1
        poll := (r.monitor.checkSize lib r.wal).2 }
    | _ => r
  | .pollCount =>
    match r.poll with
    | .counting size =>
      { r with
        monitor := (r.monitor.count lib size r.wal).1
        poll := (r.monitor.count lib size r.wal).2 }
    | _ => r
  | .pollRead now => r.pollRead lib json now
  | .monitorStep => { r with tasks := r.tasks.next json .monitorStep }
  | .workerBegin =>
    match r.tasks.worker with
    | .idle => { r with popping := r.popping || r.running }
    | _ => r
  | .workerPop =>
    if r.popping then { r with tasks := r.tasks.next json .pop, popping := false } else r
  | .workerUpload answer => r.workerUpload json answer
  | .workerStep => { r with tasks := r.tasks.next json .workerStep }
  | .snapshotBegin =>
    match r.snapshot with
    | .waiting => if r.running then { r with snapshot := .reading } else r
    | _ => r
  | .snapshotRead =>
    match r.snapshot with
    | .reading => { r with snapshot := .uploading (.putting r.db) }
    | _ => r
  | .snapshotStep answer => r.snapshotStep answer
  | .flushBegin =>
    match r.flush with
    | .idle | .done | .failed => { r with running := false, flush := .reading }
    | _ => r
  | .flushStep answer => r.flushStep answer

end Replicator

end ZLayer.Storage
