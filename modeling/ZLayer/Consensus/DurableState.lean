import ZLayer.Consensus.SnapshotRetrieval
import ZLayer.Lib.Machine

/-!
# DurableState — what the database has, and what the machine says it has

The durable machine answers from its cache.  A call changes the cache before its transaction, so
when the transaction fails the cache is ahead of the database and of what the machine has
acknowledged.  And a snapshot without an applied id does not remove the id that an earlier call has
written: the database is left with the state of one call and the id of another.

Every step has a condition that rules this out, and it is exact: a run in which every step meets it
is a run in which the machine never says more than the database holds.
-/

namespace ZLayer.Consensus

open Lib RedbStateMachine

section Durable

variable {S D R M : Type} (app : App S D R M) (codecs : SmCodecs S M)

/-! ## Runs with failing transactions -/

/-- The calls of a run; `commit` is how the transaction of a call ends.  A machine that is lost in
the middle of a call, before its transaction, is reopened like one between two calls. -/
inductive DurableCall (D M : Type)
  | apply (entries : List (Entry D M)) (commit : Except StorageError Unit)
  | installSnapshot (snapshot : Snapshot M) (commit : Except StorageError Unit)
  | reopen

/-- A machine in a run, the fields that the last successful call produced, and whether the last
call failed. -/
structure DurableRun (S M : Type) where
  machine : RedbSm S M
  acknowledged : SmCache S M
  failed : Bool

namespace DurableRun

def start (file : Option SmDb) : DurableRun S M :=
  { machine := new app codecs file
    acknowledged := (new app codecs file).sm
    failed := false }

def next (r : DurableRun S M) : DurableCall D M → DurableRun S M
  | .apply entries commit =>
    match applyTxn app codecs commit r.machine entries with
    | (machine, .ok _) =>
      { machine
        acknowledged := (r.acknowledged.applyAll app entries).1
        failed := false }
    | (machine, .error _) => { r with machine, failed := true }
  | .installSnapshot snapshot commit =>
    match installSnapshotTxn codecs commit r.machine snapshot,
        decode codecs.state .snapshot snapshot.snapshot with
    | (machine, .ok ()), .ok state =>
      { machine
        acknowledged := .installed snapshot.snapshotMeta state
        failed := false }
    | (machine, _), _ => { r with machine, failed := true }
  | .reopen =>
    { r with
      machine := new app codecs (some r.machine.db)
      failed := false }

/-- The database holds what was acknowledged, a machine that is opened on it has it, and after a
failed call the machine says nothing else. -/
structure Durable (r : DurableRun S M) : Prop where
  stored : loadCache app codecs r.machine.db = r.acknowledged
  reopened : (new app codecs (some r.machine.db)).sm = r.acknowledged
  afterFailure : r.failed = true → r.machine.sm = r.acknowledged ∧
    appliedState r.machine =
      (r.acknowledged.lastAppliedLog, r.acknowledged.lastMembership)

end DurableRun

/-! ## The condition on a step -/

def Entry.data : Entry D M → Option D
  | { payload := .normal data, .. } => some data
  | _ => none

def Entry.storedMembership : Entry D M → Option (StoredMembership M)
  | { payload := .membership mem, logId } => some { logId := some logId, membership := mem }
  | _ => none

/-- The entries end with the applied id, have no other membership than the present one, and their
data take the application back to its present state. -/
structure Unchanging (sm : SmCache S M) (entries : List (Entry D M)) : Prop where
  logId : ∀ last ∈ entries.getLast?, sm.lastAppliedLog = some last.logId
  membership : ∀ mem ∈ (entries.filterMap Entry.storedMembership).getLast?, sm.lastMembership = mem
  state : (entries.filterMap Entry.data).foldl (fun s d => (app.applyFn s d).1) sm.state = sm.state

/-- What a call must satisfy for its failure, or for a missing applied id, to do no harm. -/
def Harmless (r : DurableRun S M) : DurableCall D M → Prop
  | .apply _ (.ok ()) => True
  | .apply entries (.error _) => Unchanging app r.machine.sm entries
  | .installSnapshot snapshot (.ok ()) =>
    codecs.state.fromBytes snapshot.snapshot ≠ none →
      snapshot.snapshotMeta.lastLogId = none → r.machine.sm.lastAppliedLog = none
  | .installSnapshot snapshot (.error _) =>
    codecs.state.fromBytes snapshot.snapshot ≠ none →
      snapshot.snapshotMeta.lastLogId = r.machine.sm.lastAppliedLog ∧
        snapshot.snapshotMeta.lastMembership = r.machine.sm.lastMembership ∧
        codecs.state.fromBytes snapshot.snapshot = some r.machine.sm.state
  | .reopen => True

variable {app codecs}

/-! ## What the loop of `apply` does to the fields -/

lemma applyAll_fields (sm : SmCache S M) (entries : List (Entry D M)) :
    (sm.applyAll app entries).1 =
      { lastAppliedLog := (entries.getLast?.map Entry.logId).or sm.lastAppliedLog
        lastMembership := (entries.filterMap Entry.storedMembership).getLast?.getD sm.lastMembership
        state := (entries.filterMap Entry.data).foldl (fun s d => (app.applyFn s d).1)
          sm.state } := by
  induction entries generalizing sm with
  | nil => rfl
  | cons entry rest ih =>
    rw [SmCache.applyAll]
    simp only [ih, List.getLast?_cons, List.filterMap_cons]
    rcases entry with ⟨logId, _ | data | mem⟩
    all_goals
      simp [SmCache.applyEntry, Entry.data, Entry.storedMembership, List.getLast?_cons]
      cases rest.getLast? <;> simp

lemma applyAll_eq_self_iff {sm : SmCache S M} {entries : List (Entry D M)} :
    (sm.applyAll app entries).1 = sm ↔ Unchanging app sm entries := by
  rw [applyAll_fields]
  constructor
  · intro h
    refine ⟨fun last hlast => ?_, fun mem hmem => ?_, congrArg SmCache.state h⟩
    · rw [← congrArg SmCache.lastAppliedLog h, hlast]
      rfl
    · rw [← congrArg SmCache.lastMembership h, hmem]
      rfl
  · rintro ⟨hlog, hmem, hstate⟩
    rcases sm with ⟨lastAppliedLog, lastMembership, state⟩
    simp only [SmCache.mk.injEq]
    refine ⟨?_, ?_, hstate⟩
    · cases hlast : entries.getLast? with
      | none => rfl
      | some last => exact (hlog last hlast).symm
    · cases hlast : (entries.filterMap Entry.storedMembership).getLast? with
      | none => rfl
      | some mem => exact (hmem mem hlast).symm

/-! ## Every step, and every run -/

namespace DurableRun

/-- The cache and the database both have what was acknowledged. -/
structure Consistent (app : App S D R M) (codecs : SmCodecs S M) (r : DurableRun S M) : Prop where
  cache : r.machine.sm = r.acknowledged
  stored : loadCache app codecs r.machine.db = r.acknowledged

lemma Consistent.durable {r : DurableRun S M} (h : Consistent app codecs r) :
    Durable app codecs r where
  stored := h.stored
  reopened := h.stored
  afterFailure _ := ⟨h.cache, by rw [appliedState, h.cache]⟩

section Step

variable {r : DurableRun S M}

section

variable (h : Consistent app codecs r)

include h

/-- A call that succeeds leaves the cache with what it acknowledges. -/
lemma cache_next_of_not_failed (call : DurableCall D M)
    (hok : (r.next app codecs call).failed = false) :
    (r.next app codecs call).machine.sm = (r.next app codecs call).acknowledged := by
  rcases call with ⟨entries, _ | _⟩ | ⟨snapshot, _ | _⟩ | _
  · cases hok
  · change (r.machine.sm.applyAll app entries).1 = (r.acknowledged.applyAll app entries).1
    rw [h.cache]
  · simp only [next, installSnapshotTxn] at hok
    split at hok <;> simp_all
  · simp only [next, installSnapshotTxn, installSnapshot] at hok ⊢
    cases hdecode : decode codecs.state .snapshot snapshot.snapshot with
    | error e => simp [hdecode] at hok
    | ok state => rfl
  · exact h.stored

lemma Durable.consistent_next {call : DurableCall D M}
    (hdurable : Durable app codecs (r.next app codecs call)) :
    Consistent app codecs (r.next app codecs call) := by
  refine ⟨?_, hdurable.stored⟩
  cases hfailed : (r.next app codecs call).failed with
  | false => exact cache_next_of_not_failed h call hfailed
  | true => exact (hdurable.afterFailure hfailed).1

/-- A failed call has changed nothing but the cache. -/
lemma durable_failed_iff (sm : SmCache S M) : Durable app codecs
        { machine := { r.machine with sm }
          acknowledged := r.acknowledged
          failed := true } ↔ sm = r.machine.sm := by
  constructor
  · intro hdurable
    exact (hdurable.afterFailure rfl).1.trans h.cache.symm
  · rintro rfl
    exact Consistent.durable ⟨h.cache, h.stored⟩

/-- A successful call has written the fields, except for an absent applied id. -/
lemma durable_written_iff (sm : SmCache S M) (snapshotTable : HashMap String Bytes) :
    Durable app codecs
        { machine :=
            { db := { persist codecs r.machine.db sm with snapshotTable }
              sm }
          acknowledged := sm
          failed := false } ↔
      (sm.lastAppliedLog = none → r.machine.sm.lastAppliedLog = none) := by
  have hload : loadCache app codecs
      { persist codecs r.machine.db sm with snapshotTable } =
        { sm with lastAppliedLog := sm.lastAppliedLog.or r.machine.sm.lastAppliedLog } := by
    rw [h.cache, ← h.stored]
    exact loadCache_persist_or r.machine.db sm
  constructor
  · intro hdurable hnone
    have hsame := congrArg SmCache.lastAppliedLog (hload.symm.trans hdurable.stored)
    simpa [hnone] using hsame
  · intro hnone
    have hsame : loadCache app codecs
        { persist codecs r.machine.db sm with snapshotTable } = sm := by
      rw [hload]
      rcases sm with ⟨_ | id, lastMembership, state⟩
      · simp [hnone rfl]
      · rfl
    exact Consistent.durable ⟨rfl, hsame⟩

/-- A step keeps the machine durable exactly if it is harmless. -/
lemma durable_next_iff (call : DurableCall D M) :
    Durable app codecs (r.next app codecs call) ↔ Harmless app codecs r call := by
  rcases call with ⟨entries, e | _⟩ | ⟨snapshot, e | _⟩ | _
  · exact (durable_failed_iff h _).trans applyAll_eq_self_iff
  · -- the applied id does not get lost
    have hwritten := durable_written_iff h (r.machine.sm.applyAll app entries).1
      r.machine.db.snapshotTable
    refine iff_of_true ?_ trivial
    have hack : r.next app codecs (.apply entries (.ok ())) =
        { machine := (apply app codecs r.machine entries).1
          acknowledged := (r.machine.sm.applyAll app entries).1
          failed := false } := by
      rw [h.cache]
      rfl
    rw [hack]
    refine hwritten.mpr fun hnone => ?_
    rw [applyAll_fields] at hnone
    exact (Option.or_eq_none_iff.mp hnone).2
  · cases hbytes : codecs.state.fromBytes snapshot.snapshot with
    | none =>
      have hnext : r.next app codecs (.installSnapshot snapshot (.error e)) =
          { r with failed := true } := by
        simp only [next, installSnapshotTxn, decode, hbytes]
      rw [hnext]
      refine iff_of_true (Consistent.durable ⟨h.cache, h.stored⟩) ?_
      exact fun hsome => absurd hbytes hsome
    | some state =>
      have hnext : r.next app codecs (.installSnapshot snapshot (.error e)) =
          { machine :=
              { r.machine with sm := .installed snapshot.snapshotMeta state }
            acknowledged := r.acknowledged
            failed := true } := by
        simp only [next, installSnapshotTxn, decode, hbytes]
      rw [hnext, durable_failed_iff h]
      simp only [Harmless, hbytes, ne_eq, reduceCtorEq, not_false_eq_true, true_imp_iff,
        Option.some.injEq]
      rcases r.machine.sm with ⟨lastAppliedLog, lastMembership, current⟩
      simp only [SmCache.installed, SmCache.mk.injEq]
  · cases hbytes : codecs.state.fromBytes snapshot.snapshot with
    | none =>
      have hnext : r.next app codecs (.installSnapshot snapshot (.ok ())) =
          { r with failed := true } := by
        simp only [next, installSnapshotTxn, installSnapshot,
          decode, hbytes]
      rw [hnext]
      refine iff_of_true (Consistent.durable ⟨h.cache, h.stored⟩) ?_
      exact fun hsome => absurd hbytes hsome
    | some state =>
      have hnext : r.next app codecs (.installSnapshot snapshot (.ok ())) =
          { machine := (installSnapshot codecs r.machine snapshot).1
            acknowledged := .installed snapshot.snapshotMeta state
            failed := false } := by
        simp only [next, installSnapshotTxn, installSnapshot,
          decode, hbytes]
      rw [hnext]
      simp only [installSnapshot, decode, hbytes]
      refine (durable_written_iff h _ _).trans ?_
      simp only [Harmless, hbytes, ne_eq, reduceCtorEq, not_false_eq_true, true_imp_iff,
        SmCache.installed]
  · exact iff_of_true (Consistent.durable ⟨h.stored, h.stored⟩) trivial

end

end Step

/-- In every state of a run the machine is durable, exactly if every step is harmless. -/
theorem durable_iff_harmless (app : App S D R M) (codecs : SmCodecs S M) (file : Option SmDb)
    (calls : List (DurableCall D M)) :
    (∀ made, made <+: calls → Durable app codecs (made.foldl (next app codecs)
      (start app codecs file))) ↔
      Machine.Along (next app codecs) (Harmless app codecs) (start app codecs file) calls := by
  refine Machine.forall_prefix_iff_along (I := Consistent app codecs) (fun r hr => hr.durable)
    (fun r call _ hr hsafe => ?_) (fun r call _ hr => (durable_next_iff hr call).mp)
    ⟨rfl, rfl⟩
  exact Durable.consistent_next hr ((durable_next_iff hr call).mpr hsafe)

end DurableRun

end Durable

/-! ## A failed `apply`, and a snapshot without an applied id -/

namespace CounterApp

def blank : Snapshot Nat :=
  { snapshotMeta :=
      { lastLogId := none
        lastMembership := { logId := none, membership := 0 }
        snapshotId := "0-0" }
    snapshot := codecs.state.enc 0 }

/-- After an `apply` that failed the machine says that the entry is applied; after a snapshot
without an applied id the database has the id of an entry whose effect it does not have. -/
theorem machine_ahead_of_database : ¬ DurableRun.Durable app codecs
        ((DurableRun.start app codecs none).next app codecs
          (.apply log (.error { subject := .stateMachine, verb := .write }))) ∧
      ¬ DurableRun.Durable app codecs
        (((DurableRun.start app codecs none).next app codecs (.apply log (.ok ()))).next app codecs
          (.installSnapshot blank (.ok ()))) := by
  constructor
  · intro h
    have hsame := (h.afterFailure rfl).1
    revert hsame
    decide +kernel
  · intro h
    have hsame := h.stored
    revert hsame
    decide +kernel

end CounterApp

end ZLayer.Consensus
