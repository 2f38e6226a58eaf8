import ZLayer.Consensus.LogStore

/-!
# LogRefinement — the durable log store against the one in memory

The database holds a record of the store in memory if its log table has the encoding of every
entry and its meta table that of the vote, the committed id and the purged id.  Every call on both
stores keeps that relation, a restart included, and under it every query has the same answer.

The one difference is in ranges: once an entry has been appended, `BTreeMap::range` panics on a
range whose start comes after its end, while the database finds no entries in it.
-/

namespace ZLayer.Consensus

open Lib HashMap

variable {ε : Type}

/-- The tables hold the record. -/
structure LogDb.Holds (codecs : LogCodecs ε) (db : LogDb) (log : LogData ε) : Prop where
  entries : ∀ i : UInt64, db.logTable[i]? = log.entries[i]?.map codecs.entry.enc
  vote : db.metaTable[RedbLogStore.metaVote]? = log.vote.map codecs.vote.enc
  committed : db.metaTable[RedbLogStore.metaCommitted]? = log.committed.map codecs.logId.enc
  lastPurged :
    db.metaTable[RedbLogStore.metaLastPurged]? = log.lastPurgedLogId.map codecs.logId.enc

namespace LogDb.Holds

variable {codecs : LogCodecs ε} {db : LogDb} {log : LogData ε}

/-! ## Calls that keep the relation -/

lemma new : (RedbLogStore.new none).Holds codecs (MemLogStore.new : LogData ε) := by
  constructor <;> simp [RedbLogStore.new, MemLogStore.new]

lemma lookup_removeRange (h : db.Holds codecs log) (range : Range UInt64) (i : UInt64) :
    (BTreeMap.removeRange db.logTable range)[i]? =
      (BTreeMap.removeRange log.entries range)[i]?.map codecs.entry.enc := by
  rw [BTreeMap.lookup_removeRange, BTreeMap.lookup_removeRange]
  by_cases hi : range.contains i = true
  · rw [if_pos hi, if_pos hi, Option.map_none]
  · rw [if_neg hi, if_neg hi, h.entries i]

lemma saveVote (h : db.Holds codecs log) (vote : Vote) :
    (RedbLogStore.saveVote codecs db vote).Holds codecs (MemLogStore.saveVote log vote) := by
  refine ⟨h.entries, ?_, ?_, ?_⟩
  · simp only [RedbLogStore.saveVote, lookup_insert, if_pos, MemLogStore.saveVote,
      Option.map_some]
  · exact (lookup_insert_of_ne _ _ (by decide)).trans h.committed
  · exact (lookup_insert_of_ne _ _ (by decide)).trans h.lastPurged

lemma saveCommitted (h : db.Holds codecs log) (committed : Option LogId) :
    (RedbLogStore.saveCommitted codecs db committed).Holds codecs
      (MemLogStore.saveCommitted log committed) := by
  cases committed with
  | some id =>
    refine ⟨h.entries, ?_, ?_, ?_⟩
    · exact (lookup_insert_of_ne _ _ (by decide)).trans h.vote
    · simp only [RedbLogStore.saveCommitted, lookup_insert, if_pos,
        MemLogStore.saveCommitted, Option.map_some]
    · exact (lookup_insert_of_ne _ _ (by decide)).trans h.lastPurged
  | none =>
    refine ⟨h.entries, ?_, ?_, ?_⟩
    · exact (lookup_erase_of_ne _ (by decide)).trans h.vote
    · simp only [RedbLogStore.saveCommitted, lookup_erase, if_pos,
        MemLogStore.saveCommitted, Option.map_none]
    · exact (lookup_erase_of_ne _ (by decide)).trans h.lastPurged

lemma truncate (h : db.Holds codecs log) (logId : LogId) :
    (RedbLogStore.truncate db logId).Holds codecs (MemLogStore.truncate log logId) :=
  ⟨h.lookup_removeRange _, h.vote, h.committed, h.lastPurged⟩

lemma purge (h : db.Holds codecs log) (logId : LogId) :
    (RedbLogStore.purge codecs db logId).Holds codecs (MemLogStore.purge log logId) := by
  refine ⟨h.lookup_removeRange _, ?_, ?_, ?_⟩
  · exact (lookup_insert_of_ne _ _ (by decide)).trans h.vote
  · exact (lookup_insert_of_ne _ _ (by decide)).trans h.committed
  · simp only [RedbLogStore.purge, lookup_insert, if_pos, MemLogStore.purge,
      Option.map_some]

/-! ## Queries with the same answer -/

lemma readMeta_of_lookup {α : Type} {C : Codec α} {key : String} {value : Option α}
    (h : db.metaTable[key]? = value.map C.enc) (subject : ErrorSubject) :
    RedbLogStore.readMeta C subject db key = .ok value := by
  cases value with
  | none => simp only [RedbLogStore.readMeta, h, Option.map_none]
  | some a =>
    simp only [RedbLogStore.readMeta, h, Option.map_some, decode_enc]
    rfl

lemma readVote (h : db.Holds codecs log) :
    RedbLogStore.readVote codecs db = MemLogStore.readVote log :=
  readMeta_of_lookup h.vote .vote

lemma readCommitted (h : db.Holds codecs log) :
    RedbLogStore.readCommitted codecs db = MemLogStore.readCommitted log :=
  readMeta_of_lookup h.committed .logs

lemma mapM_decode (C : Codec ε) (l : List (UInt64 × ε)) :
    (l.map fun kv => (kv.1, C.enc kv.2)).mapM (fun kv => decode C .logs kv.2) =
      .ok (l.map Prod.snd) := by
  induction l with
  | nil => rfl
  | cons kv l ih =>
    rw [List.map_cons, List.mapM_cons, decode_enc, ih]
    rfl

/-! ## Entries by their log ids -/

variable [RaftLogId ε]

/-- The insertion loop of `append`, on both sides. -/
lemma lookup_append (C : Codec ε) (appended : List ε) {table : HashMap UInt64 Bytes}
    {entries : HashMap UInt64 ε} (h : ∀ i : UInt64, table[i]? = entries[i]?.map C.enc)
    (i : UInt64) :
    ((appended.map fun entry => (indexOf entry, C.enc entry)).foldl
        (fun table kv => table.insert kv.1 kv.2) table)[i]? =
      (appended.foldl (fun m entry => m.insert (indexOf entry) entry) entries)[i]?.map C.enc := by
  induction appended generalizing table entries with
  | nil => exact h i
  | cons entry appended ih =>
    refine ih fun j => ?_
    rw [lookup_insert, lookup_insert]
    by_cases hj : indexOf entry = j
    · rw [if_pos hj, if_pos hj, Option.map_some]
    · rw [if_neg hj, if_neg hj, h j]

lemma append (h : db.Holds codecs log) (entries : List ε) :
    (RedbLogStore.append codecs db entries).Holds codecs (MemLogStore.append log entries) :=
  ⟨lookup_append codecs.entry entries h.entries, h.vote, h.committed, h.lastPurged⟩

lemma getLogState (h : db.Holds codecs log) :
    RedbLogStore.getLogState codecs db = MemLogStore.getLogState log := by
  have hpurged := readMeta_of_lookup h.lastPurged .logs
  have hlast := BTreeMap.last?_eq_map h.entries
  rw [RedbLogStore.getLogState, hpurged, hlast, MemLogStore.getLogState]
  cases BTreeMap.last? log.entries with
  | none => rfl
  | some kv =>
    simp only [Option.map_some, decode_enc]
    rfl

/-! ## Runs -/

lemma call (h : db.Holds codecs log) (c : Call ε) :
    (RedbLogStore.call codecs db c).Holds codecs (MemLogStore.call log c) := by
  cases c with
  | saveVote vote => exact h.saveVote vote
  | saveCommitted committed => exact h.saveCommitted committed
  | append entries => exact h.append entries
  | truncate logId => exact h.truncate logId
  | purge logId => exact h.purge logId
  | reopen => exact h

lemma run (codecs : LogCodecs ε) (calls : List (Call ε)) :
    (RedbLogStore.run codecs calls).Holds codecs (MemLogStore.run calls) := by
  suffices hfrom : ∀ (db : LogDb) (log : LogData ε), db.Holds codecs log →
      (calls.foldl (RedbLogStore.call codecs) db).Holds codecs
        (calls.foldl MemLogStore.call log) from hfrom _ _ new
  induction calls with
  | nil => exact fun db log h => h
  | cons c calls ih => exact fun db log h => ih _ _ (h.call c)

end LogDb.Holds

/-- A call that brings an entry into the log. -/
def Call.inserts : Call ε → Bool
  | .append entries => !entries.isEmpty
  | .saveVote _ | .saveCommitted _ | .truncate _ | .purge _ | .reopen => false

lemma MemLogStore.rooted_run [RaftLogId ε] (calls : List (Call ε)) :
    (run calls).rooted = calls.any Call.inserts := by
  suffices hfrom : ∀ log : LogData ε,
      (calls.foldl call log).rooted = (log.rooted || calls.any Call.inserts) from
    (hfrom new).trans (Bool.false_or _)
  induction calls with
  | nil => exact fun log => (Bool.or_false _).symm
  | cons c calls ih =>
    intro log
    have hcall : (call log c).rooted = (log.rooted || c.inserts) := by
      cases c with
      | append entries => rfl
      | saveVote | saveCommitted | truncate | purge | reopen => exact (Bool.or_false _).symm
    rw [List.foldl_cons, ih, hcall, List.any_cons, Bool.or_assoc]

/-- After any sequence of calls, restarts of the durable store included, both stores give the same
vote, committed id and log state, and the same entries for every range that `BTreeMap::range`
accepts, or for every range if no entry was ever appended.  Otherwise the store in memory panics. -/
theorem RedbLogStore.answers_as_memLogStore [RaftLogId ε] (codecs : LogCodecs ε)
    (calls : List (Call ε)) :
    readVote codecs (run codecs calls) = MemLogStore.readVote (MemLogStore.run calls) ∧
      readCommitted codecs (run codecs calls) =
        MemLogStore.readCommitted (MemLogStore.run calls) ∧
      getLogState codecs (run codecs calls) = MemLogStore.getLogState (MemLogStore.run calls) ∧
      ∀ range : Range UInt64,
        MemLogStore.tryGetLogEntries (MemLogStore.run calls) range =
          if calls.any Call.inserts ∧ ¬ range.accepted then .panicked
          else tryGetLogEntries codecs (run codecs calls) range := by
  have hholds := LogDb.Holds.run codecs calls
  refine ⟨hholds.readVote, hholds.readCommitted, hholds.getLogState, fun range => ?_⟩
  rw [RedbLogStore.tryGetLogEntries, BTreeMap.range_eq_map hholds.entries, LogDb.Holds.mapM_decode,
    MemLogStore.tryGetLogEntries, MemLogStore.rooted_run]

/-! ## An inverted range -/

def wireLogId : Codec LogId :=
  (Wire.u64.toCodec.pair (Wire.u64.toCodec.pair Wire.u64.toCodec)).via
    (fun id => (id.leaderId.term, id.leaderId.nodeId, id.index))
    (fun t => some { leaderId := { term := t.1, nodeId := t.2.1 }, index := t.2.2 })
    (fun _ => rfl)

def wireVote : Codec Vote :=
  (Wire.u64.toCodec.pair (Wire.u64.toCodec.pair Wire.byte.toCodec)).via
    (fun v => (v.leaderId.term, v.leaderId.nodeId, if v.committed then 1 else 0))
    (fun t => some { leaderId := { term := t.1, nodeId := t.2.1 }, committed := t.2.2 != 0 })
    (by
      rintro ⟨leader, committed⟩
      cases committed <;> rfl)

/-- Entries that consist of their log id alone. -/
instance : RaftLogId LogId := ⟨id⟩

def wireCodecs : LogCodecs LogId :=
  { entry := wireLogId
    logId := wireLogId
    vote := wireVote }

def oneEntry : List (Call LogId) := [.append [⟨⟨1, 1⟩, 4⟩]]

/-- With an entry in the log the range `5..3` makes the store in memory panic, and the durable store
returns no entries. -/
theorem MemLogStore.panics_on_inverted_range :
    MemLogStore.tryGetLogEntries (MemLogStore.run oneEntry)
        { lower := .included 5, upper := .excluded 3 } ≠
      RedbLogStore.tryGetLogEntries wireCodecs (RedbLogStore.run wireCodecs oneEntry)
        { lower := .included 5, upper := .excluded 3 } := by
  intro h
  cases h

end ZLayer.Consensus
