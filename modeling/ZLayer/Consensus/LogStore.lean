import ZLayer.Lib.BTreeMap
import ZLayer.Lib.Wire

/-!
# LogStore — the two Raft log stores

`MemLogStore` keeps the log, the vote and the committed and purged ids in one record.
`RedbLogStore` keeps them in a database of two byte tables, the entries by index and the rest by
name, and survives a restart.  Both are generic in the type of log entries, of which they use the
log id only.

The database is an ordered map for each table, a transaction is one update of it, and there are no
I/O errors.  Reading bytes can fail, and does so with the subject and the verb the source reports;
the text of the decoder's message is left out.
-/

namespace ZLayer.Consensus

open Lib

abbrev NodeId := UInt64

abbrev Bytes := List UInt8

/-! ## Ids and votes -/

structure LeaderId where
  term : UInt64
  nodeId : NodeId
  deriving DecidableEq, Repr

structure LogId where
  leaderId : LeaderId
  index : UInt64
  deriving DecidableEq, Repr

namespace LogId

/-- The order of the fields: term, node, index. -/
abbrev lt (a b : LogId) : Prop :=
  a.leaderId.term < b.leaderId.term ∨
    (a.leaderId.term = b.leaderId.term ∧
      (a.leaderId.nodeId < b.leaderId.nodeId ∨
        (a.leaderId.nodeId = b.leaderId.nodeId ∧ a.index < b.index)))

instance : LT LogId := ⟨lt⟩

instance : DecidableLT LogId := fun a b => inferInstanceAs (Decidable (lt a b))

end LogId

structure Vote where
  leaderId : LeaderId
  committed : Bool
  deriving DecidableEq, Repr

/-- Log entries carry a log id. -/
class RaftLogId (ε : Type) where
  getLogId : ε → LogId

export RaftLogId (getLogId)

def indexOf {ε : Type} [RaftLogId ε] (entry : ε) : UInt64 := (getLogId entry).index

structure LogState where
  lastPurgedLogId : Option LogId
  lastLogId : Option LogId
  deriving DecidableEq, Repr

/-! ## Errors -/

inductive ErrorSubject
  | logs
  | vote
  | stateMachine
  | snapshot
  deriving DecidableEq, Repr

inductive ErrorVerb
  | read
  | write
  deriving DecidableEq, Repr

structure StorageError where
  subject : ErrorSubject
  verb : ErrorVerb
  deriving DecidableEq, Repr

/-- `postcard2::from_bytes` with its error reported for `subject`. -/
def decode {α : Type} (C : Codec α) (subject : ErrorSubject) (bytes : Bytes) :
    Except StorageError α :=
  match C.fromBytes bytes with
  | some a => .ok a
  | none => .error { subject := subject, verb := .read }

@[simp] lemma decode_enc {α : Type} (C : Codec α) (subject : ErrorSubject) (a : α) :
    decode C subject (C.enc a) = .ok a := by
  have hread : C.fromBytes (C.enc a) = some a := (C.safe a).roundTrips
  simp only [decode, hread]

/-- The end of a call: a result, or a panic. -/
inductive Outcome (α : Type)
  | returned (result : Except StorageError α)
  | panicked

/-! ## Calls -/

/-- The calls that change a log store.  Only the durable store can be reopened. -/
inductive Call (ε : Type)
  | saveVote (vote : Vote)
  | saveCommitted (committed : Option LogId)
  | append (entries : List ε)
  | truncate (logId : LogId)
  | purge (logId : LogId)
  | reopen

section Stores

variable {ε : Type} [RaftLogId ε]

/-! ## The store in memory -/

structure LogData (ε : Type) where
  lastPurgedLogId : Option LogId
  entries : HashMap UInt64 ε
  /-- The `BTreeMap` of the entries has a root: from its first insertion on, also when empty. -/
  rooted : Bool
  vote : Option Vote
  committed : Option LogId

namespace MemLogStore

def new : LogData ε :=
  { lastPurgedLogId := none
    entries := ∅
    rooted := false
    vote := none
    committed := none }

variable (log : LogData ε)

/-- `BTreeMap::range` looks at the bounds only if there is a root, and then panics on an inverted
range. -/
def tryGetLogEntries (range : Range UInt64) : Outcome (List ε) :=
  if log.rooted ∧ ¬ range.accepted then .panicked
  else .returned (.ok ((BTreeMap.range log.entries range).map Prod.snd))

def getLogState : Except StorageError LogState :=
  .ok
    { lastPurgedLogId := log.lastPurgedLogId
      lastLogId := (BTreeMap.last? log.entries).map fun kv => getLogId kv.2 }

def saveVote (vote : Vote) : LogData ε :=
  { log with vote := some vote }

def readVote : Except StorageError (Option Vote) := .ok log.vote

def saveCommitted (committed : Option LogId) : LogData ε :=
  { log with committed := committed }

def readCommitted : Except StorageError (Option LogId) := .ok log.committed

def append (entries : List ε) : LogData ε :=
  { log with
    entries := entries.foldl (fun m entry => m.insert (indexOf entry) entry) log.entries
    rooted := log.rooted || !entries.isEmpty }

def truncate (logId : LogId) : LogData ε :=
  { log with entries := BTreeMap.removeRange log.entries (.atLeast logId.index) }

def purge (logId : LogId) : LogData ε :=
  { log with
    entries := BTreeMap.removeRange log.entries (.atMost logId.index)
    lastPurgedLogId := some logId }

def call : Call ε → LogData ε
  | .saveVote vote => saveVote log vote
  | .saveCommitted committed => saveCommitted log committed
  | .append entries => append log entries
  | .truncate logId => truncate log logId
  | .purge logId => purge log logId
  | .reopen => log

def run (calls : List (Call ε)) : LogData ε := calls.foldl call new

end MemLogStore

/-! ## The store in a database -/

structure LogDb where
  /-- `log_entries`: by index. -/
  logTable : HashMap UInt64 Bytes
  /-- `meta`: by name. -/
  metaTable : HashMap String Bytes

structure LogCodecs (ε : Type) where
  entry : Codec ε
  logId : Codec LogId
  vote : Codec Vote

namespace RedbLogStore

def metaVote : String := "vote"

def metaLastPurged : String := "last_purged"

def metaCommitted : String := "committed"

def new (file : Option LogDb) : LogDb :=
  file.getD
    { logTable := ∅
      metaTable := ∅ }

variable (codecs : LogCodecs ε)

variable (db : LogDb)

def tryGetLogEntries (range : Range UInt64) : Outcome (List ε) :=
  .returned ((BTreeMap.range db.logTable range).mapM fun kv => decode codecs.entry .logs kv.2)

def readMeta {α : Type} (C : Codec α) (subject : ErrorSubject) (db : LogDb) (key : String) :
    Except StorageError (Option α) :=
  match db.metaTable[key]? with
  | some bytes => some <$> decode C subject bytes
  | none => .ok none

def getLogState : Except StorageError LogState := do
  let lastPurged ← readMeta codecs.logId .logs db metaLastPurged
  let lastLog ←
    match BTreeMap.last? db.logTable with
    | some kv => (some ∘ getLogId) <$> decode codecs.entry .logs kv.2
    | none => .ok none
  return {
    lastPurgedLogId := lastPurged
    lastLogId := lastLog }

def saveVote (vote : Vote) : LogDb :=
  { db with metaTable := db.metaTable.insert metaVote (codecs.vote.enc vote) }

def readVote : Except StorageError (Option Vote) :=
  readMeta codecs.vote .vote db metaVote

def saveCommitted : Option LogId → LogDb
  | some id => { db with metaTable := db.metaTable.insert metaCommitted (codecs.logId.enc id) }
  | none => { db with metaTable := db.metaTable.erase metaCommitted }

def readCommitted : Except StorageError (Option LogId) :=
  readMeta codecs.logId .logs db metaCommitted

/-- Serialize all entries first, then insert them in one transaction. -/
def append (entries : List ε) : LogDb :=
  let serialized := entries.map fun entry => (indexOf entry, codecs.entry.enc entry)
  { db with logTable := serialized.foldl (fun table kv => table.insert kv.1 kv.2) db.logTable }

def truncate (logId : LogId) : LogDb :=
  { db with logTable := BTreeMap.removeRange db.logTable (.atLeast logId.index) }

def purge (logId : LogId) : LogDb :=
  { logTable := BTreeMap.removeRange db.logTable (.atMost logId.index)
    metaTable := db.metaTable.insert metaLastPurged (codecs.logId.enc logId) }

def call : Call ε → LogDb
  | .saveVote vote => saveVote codecs db vote
  | .saveCommitted committed => saveCommitted codecs db committed
  | .append entries => append codecs db entries
  | .truncate logId => truncate db logId
  | .purge logId => purge codecs db logId
  | .reopen => new (some db)

def run (calls : List (Call ε)) : LogDb := calls.foldl (call codecs) (new none)

end RedbLogStore

end Stores

end ZLayer.Consensus
