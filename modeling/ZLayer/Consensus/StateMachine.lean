import ZLayer.Consensus.LogStore

/-!
# StateMachine — the two Raft state machines

`MemStateMachine` and `RedbStateMachine` apply log entries to an application state and handle
snapshots of it.  The one in memory keeps everything in one record.  The durable one keeps the
same fields in a cache, writes them to a database on every `apply` and `install_snapshot`, and
loads the cache from the database when it is opened.

Both are generic in the application: its state, its data and responses, and the membership
configuration of the cluster.
-/

namespace ZLayer.Consensus

open Lib

/-! ## Entries and snapshots -/

structure StoredMembership (M : Type) where
  logId : Option LogId
  membership : M
  deriving DecidableEq

inductive EntryPayload (D M : Type)
  | blank
  | normal (data : D)
  | membership (mem : M)
  deriving DecidableEq

structure Entry (D M : Type) where
  logId : LogId
  payload : EntryPayload D M
  deriving DecidableEq

instance {D M : Type} : RaftLogId (Entry D M) := ⟨Entry.logId⟩

structure SnapshotMeta (M : Type) where
  lastLogId : Option LogId
  lastMembership : StoredMembership M
  snapshotId : String
  deriving DecidableEq

structure Snapshot (M : Type) where
  snapshotMeta : SnapshotMeta M
  /-- The serialized application state. -/
  snapshot : Bytes
  deriving DecidableEq

/-- What the application provides. -/
structure App (S D R M : Type) where
  defaultState : S
  defaultMembership : M
  defaultResponse : R
  applyFn : S → D → S × R
  /-- How a leader id is printed in the id of a snapshot. -/
  displayLeaderId : LeaderId → String

structure SmCodecs (S M : Type) where
  state : Codec S
  logId : Codec LogId
  membership : Codec (StoredMembership M)
  snapshotMeta : Codec (SnapshotMeta M)

/-- The fields both machines keep in memory. -/
structure SmCache (S M : Type) where
  lastAppliedLog : Option LogId
  lastMembership : StoredMembership M
  state : S
  deriving DecidableEq

section Machines

variable {S D R M : Type} (app : App S D R M) (codecs : SmCodecs S M)

namespace SmCache

def default : SmCache S M :=
  { lastAppliedLog := none
    lastMembership := { logId := none, membership := app.defaultMembership }
    state := app.defaultState }

def applyEntry (sm : SmCache S M) (entry : Entry D M) : SmCache S M × R :=
  match entry.payload with
  | .normal data =>
    let (state, response) := app.applyFn sm.state data
    ({ sm with lastAppliedLog := some entry.logId, state := state }, response)
  | .membership mem =>
    ({ sm with
        lastAppliedLog := some entry.logId
        lastMembership := { logId := some entry.logId, membership := mem } },
      app.defaultResponse)
  | .blank => ({ sm with lastAppliedLog := some entry.logId }, app.defaultResponse)

def applyAll (sm : SmCache S M) : List (Entry D M) → SmCache S M × List R
  | [] => (sm, [])
  | entry :: rest =>
    let (sm, response) := sm.applyEntry app entry
    let (sm, responses) := applyAll sm rest
    (sm, response :: responses)

def snapshotId (sm : SmCache S M) : String :=
  match sm.lastAppliedLog with
  | some last => app.displayLeaderId last.leaderId ++ "-" ++ toString last.index
  | none => "0-0"

/-- `build_snapshot`, the same in both machines: it reads the fields and stores nothing. -/
def buildSnapshot (sm : SmCache S M) : Snapshot M :=
  { snapshotMeta :=
      { lastLogId := sm.lastAppliedLog
        lastMembership := sm.lastMembership
        snapshotId := sm.snapshotId app }
    snapshot := codecs.state.enc sm.state }

/-- The fields after a snapshot with the given state was installed. -/
def installed (snapshotMeta : SnapshotMeta M) (state : S) : SmCache S M :=
  { lastAppliedLog := snapshotMeta.lastLogId
    lastMembership := snapshotMeta.lastMembership
    state := state }

end SmCache

/-! ## The machine in memory -/

structure SmData (S M : Type) where
  cache : SmCache S M
  currentSnapshot : Option (Snapshot M)
  deriving DecidableEq

namespace MemStateMachine

def new : SmData S M :=
  { cache := .default app
    currentSnapshot := none }

def apply (sm : SmData S M) (entries : List (Entry D M)) :
    SmData S M × Except StorageError (List R) :=
  let (cache, responses) := sm.cache.applyAll app entries
  ({ sm with cache := cache }, .ok responses)

def buildSnapshot (sm : SmData S M) : Except StorageError (Snapshot M) :=
  .ok (sm.cache.buildSnapshot app codecs)

/-- The stored snapshot is the state encoded anew. -/
def installSnapshot (sm : SmData S M) (snapshot : Snapshot M) :
    SmData S M × Except StorageError Unit :=
  match decode codecs.state .snapshot snapshot.snapshot with
  | .error e => (sm, .error e)
  | .ok state =>
    ({ cache := .installed snapshot.snapshotMeta state
       currentSnapshot := some
        { snapshotMeta := snapshot.snapshotMeta
          snapshot := codecs.state.enc state } }, .ok ())

def getCurrentSnapshot (sm : SmData S M) : Except StorageError (Option (Snapshot M)) :=
  .ok sm.currentSnapshot

end MemStateMachine

/-! ## The machine in a database -/

structure SmDb where
  smTable : HashMap String Bytes
  snapshotTable : HashMap String Bytes
  metaTable : HashMap String Bytes

structure RedbSm (S M : Type) where
  db : SmDb
  sm : SmCache S M

namespace RedbStateMachine

def smState : String := "state"

def snapshotCurrent : String := "current"

def snapshotMetaKey : String := "meta"

def metaLastApplied : String := "last_applied"

def metaLastMembership : String := "last_membership"

/-- Bytes that cannot be decoded count as absent. -/
def loadCache (db : SmDb) : SmCache S M :=
  { lastAppliedLog := (db.metaTable[metaLastApplied]?).bind codecs.logId.fromBytes
    lastMembership :=
      ((db.metaTable[metaLastMembership]?).bind codecs.membership.fromBytes).getD
        { logId := none, membership := app.defaultMembership }
    state := ((db.smTable[smState]?).bind codecs.state.fromBytes).getD app.defaultState }

def new (file : Option SmDb) : RedbSm S M :=
  let db : SmDb :=
    file.getD
      { smTable := ∅
        snapshotTable := ∅
        metaTable := ∅ }
  { db := db
    sm := loadCache app codecs db }

/-- Write the fields; an absent applied id is not written. -/
def persist (db : SmDb) (sm : SmCache S M) : SmDb :=
  let stamped :=
    match sm.lastAppliedLog with
    | some id => db.metaTable.insert metaLastApplied (codecs.logId.enc id)
    | none => db.metaTable
  { db with
    smTable := db.smTable.insert smState (codecs.state.enc sm.state)
    metaTable := stamped.insert metaLastMembership (codecs.membership.enc sm.lastMembership) }

def apply (m : RedbSm S M) (entries : List (Entry D M)) :
    RedbSm S M × Except StorageError (List R) :=
  let (sm, responses) := m.sm.applyAll app entries
  ({ db := persist codecs m.db sm, sm := sm }, .ok responses)

def buildSnapshot (m : RedbSm S M) : Except StorageError (Snapshot M) :=
  .ok (m.sm.buildSnapshot app codecs)

/-- The stored snapshot is the received one. -/
def installSnapshot (m : RedbSm S M) (snapshot : Snapshot M) :
    RedbSm S M × Except StorageError Unit :=
  match decode codecs.state .snapshot snapshot.snapshot with
  | .error e => (m, .error e)
  | .ok state =>
    let sm := SmCache.installed snapshot.snapshotMeta state
    let db := persist codecs m.db sm
    ({ db :=
        { db with
          snapshotTable :=
            (db.snapshotTable.insert snapshotCurrent snapshot.snapshot).insert snapshotMetaKey
              (codecs.snapshotMeta.enc snapshot.snapshotMeta) }
       sm := sm }, .ok ())

/-- `apply` with a transaction that may fail.  The cache is changed before the transaction, and a
transaction that fails leaves the database as it was. -/
def applyTxn (commit : Except StorageError Unit) (m : RedbSm S M) (entries : List (Entry D M)) :
    RedbSm S M × Except StorageError (List R) :=
  match commit with
  | .ok () => apply app codecs m entries
  | .error e => ({ m with sm := (m.sm.applyAll app entries).1 }, .error e)

/-- `install_snapshot` with a transaction that may fail. -/
def installSnapshotTxn (commit : Except StorageError Unit) (m : RedbSm S M)
    (snapshot : Snapshot M) : RedbSm S M × Except StorageError Unit :=
  match commit with
  | .ok () => installSnapshot codecs m snapshot
  | .error e =>
    match decode codecs.state .snapshot snapshot.snapshot with
    | .error e => (m, .error e)
    | .ok state => ({ m with sm := .installed snapshot.snapshotMeta state }, .error e)

def appliedState (m : RedbSm S M) : Option LogId × StoredMembership M :=
  (m.sm.lastAppliedLog, m.sm.lastMembership)

def getCurrentSnapshot (m : RedbSm S M) : Except StorageError (Option (Snapshot M)) :=
  match m.db.snapshotTable[snapshotCurrent]?, m.db.snapshotTable[snapshotMetaKey]? with
  | some data, some metaBytes => do
      let snapshotMeta ← decode codecs.snapshotMeta .snapshot metaBytes
      return some { snapshotMeta := snapshotMeta, snapshot := data }
  | _, _ => .ok none

end RedbStateMachine

/-! ## The common interface -/

/-- The calls on a state machine.  Only the durable one can be reopened. -/
inductive SmCall (D M : Type)
  | apply (entries : List (Entry D M))
  | buildSnapshot
  | installSnapshot (snapshot : Snapshot M)
  | reopen

/-- `RaftStateMachine`, over machine states `σ`. -/
structure RaftStateMachine (σ S D R M : Type) where
  new : σ
  /-- The fields that can be read from the machine. -/
  cache : σ → SmCache S M
  apply : σ → List (Entry D M) → σ × Except StorageError (List R)
  buildSnapshot : σ → Except StorageError (Snapshot M)
  installSnapshot : σ → Snapshot M → σ × Except StorageError Unit
  getCurrentSnapshot : σ → Except StorageError (Option (Snapshot M))
  reopen : σ → σ

def MemStateMachine.machine : RaftStateMachine (SmData S M) S D R M :=
  { new := new app
    cache := SmData.cache
    apply := apply app
    buildSnapshot := buildSnapshot app codecs
    installSnapshot := installSnapshot codecs
    getCurrentSnapshot := getCurrentSnapshot
    reopen := id }

def RedbStateMachine.machine : RaftStateMachine (RedbSm S M) S D R M :=
  { new := new app codecs none
    cache := RedbSm.sm
    apply := apply app codecs
    buildSnapshot := buildSnapshot app codecs
    installSnapshot := installSnapshot codecs
    getCurrentSnapshot := getCurrentSnapshot codecs
    reopen := fun m => new app codecs (some m.db) }

/-- A machine in a run, with the most recent snapshot that it built or installed. -/
structure SmRun (σ M : Type) where
  machine : σ
  latest : Option (SnapshotMeta M)

namespace RaftStateMachine

variable {σ : Type} (ops : RaftStateMachine σ S D R M)

def call (r : SmRun σ M) : SmCall D M → SmRun σ M
  | .apply entries => { r with machine := (ops.apply r.machine entries).1 }
  | .buildSnapshot =>
    match ops.buildSnapshot r.machine with
    | .ok snapshot => { r with latest := some snapshot.snapshotMeta }
    | .error _ => r
  | .installSnapshot snapshot =>
    match ops.installSnapshot r.machine snapshot with
    | (machine, .ok ()) => { machine := machine, latest := some snapshot.snapshotMeta }
    | (machine, .error _) => { r with machine := machine }
  | .reopen => { r with machine := ops.reopen r.machine }

def run (calls : List (SmCall D M)) : SmRun σ M :=
  calls.foldl ops.call
    { machine := ops.new
      latest := none }

end RaftStateMachine

end Machines

end ZLayer.Consensus
