import ZLayer.Consensus.LogRefinement
import ZLayer.Consensus.StateMachine

/-!
# SnapshotRetrieval — which snapshots can be served

A leader purges the log up to a snapshot it has built and sends that snapshot to followers that
need the purged entries.  So the machine must be able to hand out, at any later time, a snapshot
that is not older than the one it built or installed last.

Both machines hand out the snapshot that was installed last: `build_snapshot` returns what it
builds without storing it.  A built snapshot can be served only if it says nothing new, that is if
no entry has been applied since the last `install_snapshot`.

In a run the entries and the installed snapshots come from one replicated log.
-/

namespace ZLayer.Consensus

open Lib HashMap
open RedbStateMachine (loadCache persist metaLastApplied metaLastMembership snapshotCurrent
  snapshotMetaKey)

section Retrieval

variable {S D R M : Type} (app : App S D R M) (codecs : SmCodecs S M) (log : List (Entry D M))

/-! ## Runs over one log -/

def stateAfter (j : Nat) : SmCache S M :=
  ((SmCache.default app).applyAll app (log.take j)).1

structure IsSnapshotOf (j : Nat) (s : Snapshot M) : Prop where
  le_length : j ≤ log.length
  lastLogId : s.snapshotMeta.lastLogId = (stateAfter app log j).lastAppliedLog
  lastMembership : s.snapshotMeta.lastMembership = (stateAfter app log j).lastMembership
  snapshot : s.snapshot = codecs.state.enc (stateAfter app log j).state

/-- Starting after `k` entries, the calls apply the entries of the log in order and install
snapshots of it. -/
def FollowsLog : Nat → List (SmCall D M) → Prop
  | _, [] => True
  | k, .apply entries :: rest =>
    (k + entries.length ≤ log.length ∧ entries = (log.drop k).take entries.length) ∧
      FollowsLog (k + entries.length) rest
  | k, .buildSnapshot :: rest => FollowsLog k rest
  | _, .installSnapshot s :: rest => ∃ j, IsSnapshotOf app codecs log j s ∧ FollowsLog j rest
  | k, .reopen :: rest => FollowsLog k rest

/-- The machine can serve what it built or installed last, and what it serves is a snapshot of the
log. -/
structure Served {σ : Type} (ops : RaftStateMachine σ S D R M) (r : SmRun σ M) : Prop where
  newest : ∀ latest, r.latest = some latest →
    ∃ s, ops.getCurrentSnapshot r.machine = .ok (some s) ∧
      ¬ s.snapshotMeta.lastLogId < latest.lastLogId
  faithful : ∀ s, ops.getCurrentSnapshot r.machine = .ok (some s) →
    ∃ j ≤ log.length, s.snapshotMeta.lastLogId = (stateAfter app log j).lastAppliedLog ∧
      ∃ fresh, ops.installSnapshot ops.new s = (fresh, .ok ()) ∧
        ops.cache fresh = stateAfter app log j

/-- Every snapshot is built with nothing applied since the last installed one.  The flag says
whether that is the case at the start. -/
def BuildsCovered : Bool → List (SmCall D M) → Prop
  | _, [] => True
  | covered, .apply entries :: rest => BuildsCovered (covered && entries.isEmpty) rest
  | covered, .buildSnapshot :: rest => covered = true ∧ BuildsCovered covered rest
  | _, .installSnapshot _ :: rest => BuildsCovered true rest
  | covered, .reopen :: rest => BuildsCovered covered rest

/-- No snapshot of the empty log is installed once an applied id was written.  The flag says
whether one was written before the start. -/
def NeverBlanked : Bool → List (SmCall D M) → Prop
  | _, [] => True
  | stamped, .apply entries :: rest => NeverBlanked (stamped || !entries.isEmpty) rest
  | stamped, .installSnapshot s :: rest =>
    (s.snapshotMeta.lastLogId = none → stamped = false) ∧
      NeverBlanked (stamped || s.snapshotMeta.lastLogId.isSome) rest
  | stamped, .buildSnapshot :: rest => NeverBlanked stamped rest
  | stamped, .reopen :: rest => NeverBlanked stamped rest

/-! ## Applying and installing -/

lemma applyAll_append (sm : SmCache S M) (first rest : List (Entry D M)) :
    (sm.applyAll app (first ++ rest)).1 = ((sm.applyAll app first).1.applyAll app rest).1 := by
  induction first generalizing sm with
  | nil => rfl
  | cons entry first ih => exact ih (sm.applyEntry app entry).1

variable {k : Nat}

lemma stateAfter_add {entries : List (Entry D M)}
    (h : entries = (log.drop k).take entries.length) :
    ((stateAfter app log k).applyAll app entries).1 = stateAfter app log (k + entries.length) := by
  have htake : log.take (k + entries.length) = log.take k ++ entries := by
    rw [List.take_add, ← h]
  rw [stateAfter, stateAfter, htake, applyAll_append]

variable {app codecs log}

variable {s : Snapshot M} {j : Nat}

lemma IsSnapshotOf.decode_state (h : IsSnapshotOf app codecs log j s) :
    decode codecs.state .snapshot s.snapshot = .ok (stateAfter app log j).state := by
  rw [h.snapshot, decode_enc]

lemma IsSnapshotOf.installed_eq (h : IsSnapshotOf app codecs log j s) :
    SmCache.installed s.snapshotMeta (stateAfter app log j).state = stateAfter app log j := by
  rw [SmCache.installed, h.lastLogId, h.lastMembership]

/-- The machine in memory keeps the installed snapshot as it is. -/
lemma MemStateMachine.installSnapshot_eq (h : IsSnapshotOf app codecs log j s) (sm : SmData S M) :
    MemStateMachine.installSnapshot codecs sm s =
      ({ cache := stateAfter app log j, currentSnapshot := some s }, .ok ()) := by
  have hstored : ({ snapshotMeta := s.snapshotMeta
                    snapshot := codecs.state.enc (stateAfter app log j).state } :
                      Snapshot M) = s := by
    rw [← h.snapshot]
  simp only [MemStateMachine.installSnapshot, h.decode_state, h.installed_eq, hstored]

/-! ## The machine in memory -/

/-- After `k` entries of the log: the fields are those of the log, the stored snapshot is one of
the log, it has the id of the latest one, and if nothing was applied since, that of the fields. -/
structure SmRun.Inv (app : App S D R M) (codecs : SmCodecs S M) (log : List (Entry D M)) (k : Nat)
    (covered : Bool) (r : SmRun (SmData S M) M) : Prop where
  cache : r.machine.cache = stateAfter app log k
  stored : ∀ s, r.machine.currentSnapshot = some s → ∃ j, IsSnapshotOf app codecs log j s
  latest : ∀ l, r.latest = some l →
    ∃ s, r.machine.currentSnapshot = some s ∧ s.snapshotMeta.lastLogId = l.lastLogId
  covered_eq : covered = true → ∃ s, r.machine.currentSnapshot = some s ∧
    s.snapshotMeta.lastLogId = r.machine.cache.lastAppliedLog

namespace SmRun.Inv

variable {k : Nat} {covered : Bool} {r : SmRun (SmData S M) M}

lemma init : SmRun.Inv app codecs log 0 false
    { machine := MemStateMachine.new app, latest := none } := by
  refine ⟨rfl, ?_, ?_, ?_⟩
  · intro s hs
    cases hs
  · intro l hl
    cases hl
  · intro h
    cases h

lemma apply (h : SmRun.Inv app codecs log k covered r) {entries : List (Entry D M)}
    (hentries : entries = (log.drop k).take entries.length) :
    SmRun.Inv app codecs log (k + entries.length) (covered && entries.isEmpty)
      ((MemStateMachine.machine app codecs).call r (.apply entries)) := by
  refine ⟨?_, h.stored, h.latest, ?_⟩
  · change (r.machine.cache.applyAll app entries).1 = _
    rw [h.cache, stateAfter_add app log hentries]
  · intro hcovered
    -- nothing new was applied, so the fields are as they were
    rcases Bool.and_eq_true_iff.mp hcovered with ⟨hbefore, hempty⟩
    obtain rfl : entries = [] := List.isEmpty_iff.mp hempty
    exact h.covered_eq hbefore

lemma buildSnapshot (h : SmRun.Inv app codecs log k true r) : SmRun.Inv app codecs log k true
      ((MemStateMachine.machine app codecs).call r .buildSnapshot) := by
  refine ⟨h.cache, h.stored, ?_, h.covered_eq⟩
  intro l hl
  rcases h.covered_eq rfl with ⟨s, hs, hid⟩
  refine ⟨s, hs, ?_⟩
  rw [hid, ← Option.some.inj hl]
  rfl

lemma installSnapshot {j : Nat} {s : Snapshot M} (hs : IsSnapshotOf app codecs log j s) :
    SmRun.Inv app codecs log j true
      ((MemStateMachine.machine app codecs).call r (.installSnapshot s)) := by
  have hcall : (MemStateMachine.machine app codecs).call r (.installSnapshot s) =
      { machine := { cache := stateAfter app log j, currentSnapshot := some s }
        latest := some s.snapshotMeta } := by
    simp only [RaftStateMachine.call, MemStateMachine.machine,
      MemStateMachine.installSnapshot_eq hs]
  rw [hcall]
  refine ⟨rfl, ?_, ?_, ?_⟩
  · intro t ht
    rw [← Option.some.inj ht]
    exact ⟨j, hs⟩
  · intro l hl
    exact ⟨s, rfl, by rw [← Option.some.inj hl]⟩
  · intro _
    exact ⟨s, rfl, hs.lastLogId⟩

lemma run (h : SmRun.Inv app codecs log k covered r) {calls : List (SmCall D M)}
    (hlog : FollowsLog app codecs log k calls) (hbuilds : BuildsCovered covered calls) :
    ∃ k' covered', SmRun.Inv app codecs log k' covered'
      (calls.foldl (MemStateMachine.machine app codecs).call r) := by
  induction calls generalizing k covered r with
  | nil => exact ⟨k, covered, h⟩
  | cons c calls ih =>
    cases c with
    | apply entries => exact ih (h.apply hlog.1.2) hlog.2 hbuilds
    | buildSnapshot =>
      rcases hbuilds with ⟨rfl, hbuilds⟩
      exact ih h.buildSnapshot hlog hbuilds
    | installSnapshot s =>
      rcases hlog with ⟨j, hs, hlog⟩
      exact ih (installSnapshot hs) hlog hbuilds
    | reopen => exact ih h hlog hbuilds

end SmRun.Inv

/-! ## The machine in a database -/

lemma fromBytes_enc {α : Type} (C : Codec α) (a : α) : C.fromBytes (C.enc a) = some a :=
  (C.safe a).roundTrips

/-- What was persisted is loaded again, but an absent applied id leaves an older one in place. -/
lemma loadCache_persist_or (db : SmDb) (sm : SmCache S M) :
    loadCache app codecs (persist codecs db sm) =
      { sm with
        lastAppliedLog :=
          sm.lastAppliedLog.or (loadCache app codecs db).lastAppliedLog } := by
  rcases sm with ⟨lastAppliedLog, lastMembership, state⟩
  have hne : metaLastMembership ≠ metaLastApplied := by decide
  cases lastAppliedLog with
  | none =>
    simp only [loadCache, persist, lookup_insert_of_ne _ _ hne, lookup_insert, if_pos,
      Option.bind_some, fromBytes_enc, Option.getD_some, Option.none_or]
  | some id =>
    simp only [loadCache, persist, lookup_insert_of_ne _ _ hne, lookup_insert, if_pos,
      Option.bind_some, fromBytes_enc, Option.getD_some, Option.some_or]

lemma loadCache_persist (db : SmDb) (sm : SmCache S M)
    (h : sm.lastAppliedLog = none → db.metaTable[metaLastApplied]? = none) :
    loadCache app codecs (persist codecs db sm) = sm := by
  rw [loadCache_persist_or]
  rcases sm with ⟨_ | id, lastMembership, state⟩
  · simp [loadCache, h rfl]
  · rfl

/-- The durable machine has the fields and the snapshot of the one in memory, its database holds
the fields, and an applied id is written only if the flag says so. -/
structure RedbSm.Mirrors (app : App S D R M) (codecs : SmCodecs S M) (m : RedbSm S M)
    (sm : SmData S M) (stamped : Bool) : Prop where
  cache : m.sm = sm.cache
  loaded : loadCache app codecs m.db = m.sm
  snapshot : RedbStateMachine.getCurrentSnapshot codecs m = .ok sm.currentSnapshot
  unstamped : stamped = false → m.db.metaTable[metaLastApplied]? = none
  applied : stamped = true → m.sm.lastAppliedLog.isSome

namespace RedbSm.Mirrors

variable {m : RedbSm S M} {sm : SmData S M} {stamped : Bool}

lemma new : RedbSm.Mirrors app codecs (RedbStateMachine.new app codecs none)
    (MemStateMachine.new app) false := by
  refine ⟨?_, rfl, ?_, ?_, ?_⟩
  · simp [RedbStateMachine.new, loadCache, MemStateMachine.new, SmCache.default]
  · simp [RedbStateMachine.getCurrentSnapshot, RedbStateMachine.new, MemStateMachine.new]
  · simp [RedbStateMachine.new]
  · intro h
    cases h

lemma lastAppliedLog_applyAll (sm : SmCache S M) {entries : List (Entry D M)}
    (h : entries ≠ [] ∨ sm.lastAppliedLog.isSome) :
    (sm.applyAll app entries).1.lastAppliedLog.isSome := by
  induction entries generalizing sm with
  | nil => exact h.resolve_left fun hne => hne rfl
  | cons entry entries ih =>
    refine ih (sm.applyEntry app entry).1 (.inr ?_)
    simp only [SmCache.applyEntry]
    split <;> rfl

lemma metaLastApplied_persist (db : SmDb) {sm : SmCache S M} (h : sm.lastAppliedLog = none) :
    (persist codecs db sm).metaTable[metaLastApplied]? =
      db.metaTable[metaLastApplied]? := by
  simp only [persist, h]
  exact lookup_insert_of_ne _ _ (by decide)

lemma apply (h : RedbSm.Mirrors app codecs m sm stamped) (entries : List (Entry D M)) :
    RedbSm.Mirrors app codecs (RedbStateMachine.apply app codecs m entries).1
      (MemStateMachine.apply app sm entries).1 (stamped || !entries.isEmpty) := by
  have hsome : (stamped || !entries.isEmpty) = true →
      (m.sm.applyAll app entries).1.lastAppliedLog.isSome := by
    intro hflag
    refine lastAppliedLog_applyAll m.sm ?_
    cases stamped with
    | true => exact .inr (h.applied rfl)
    | false => exact .inl (by simpa using hflag)
  have hnone : (m.sm.applyAll app entries).1.lastAppliedLog = none →
      m.db.metaTable[metaLastApplied]? = none := by
    intro habsent
    cases stamped with
    | false => exact h.unstamped rfl
    | true =>
      have hpresent := hsome (by simp)
      rw [habsent] at hpresent
      cases hpresent
  refine ⟨?_, loadCache_persist _ _ hnone, h.snapshot, ?_, hsome⟩
  · change (m.sm.applyAll app entries).1 = (sm.cache.applyAll app entries).1
    rw [h.cache]
  · intro hflag
    rcases Bool.or_eq_false_iff.mp hflag with ⟨rfl, hempty⟩
    obtain rfl : entries = [] := by simpa using hempty
    -- no entry was applied, and none before
    change (persist codecs m.db m.sm).metaTable[_]? = none
    cases habsent : m.sm.lastAppliedLog with
    | none => rw [metaLastApplied_persist m.db habsent, h.unstamped rfl]
    | some id =>
      have hloaded := congrArg SmCache.lastAppliedLog h.loaded
      simp [loadCache, h.unstamped rfl, habsent] at hloaded

end RedbSm.Mirrors

lemma RedbStateMachine.installSnapshot_eq (h : IsSnapshotOf app codecs log j s) (m : RedbSm S M) :
    RedbStateMachine.installSnapshot codecs m s =
      ({ db :=
          { persist codecs m.db (stateAfter app log j) with
            snapshotTable :=
              (m.db.snapshotTable.insert snapshotCurrent s.snapshot).insert
                snapshotMetaKey (codecs.snapshotMeta.enc s.snapshotMeta) }
         sm := stateAfter app log j }, .ok ()) := by
  simp only [RedbStateMachine.installSnapshot, h.decode_state, h.installed_eq,
    persist]

namespace RedbSm.Mirrors

variable {m : RedbSm S M} {sm : SmData S M} {stamped : Bool}

lemma installSnapshot (h : RedbSm.Mirrors app codecs m sm stamped) {j : Nat} {s : Snapshot M}
    (hs : IsSnapshotOf app codecs log j s)
    (hblank : s.snapshotMeta.lastLogId = none → stamped = false) :
    RedbSm.Mirrors app codecs (RedbStateMachine.installSnapshot codecs m s).1
      (MemStateMachine.installSnapshot codecs sm s).1
      (stamped || s.snapshotMeta.lastLogId.isSome) := by
  rw [RedbStateMachine.installSnapshot_eq hs, MemStateMachine.installSnapshot_eq hs]
  have hne : snapshotMetaKey ≠ snapshotCurrent := by decide
  refine ⟨rfl, ?_, ?_, ?_, ?_⟩
  · refine loadCache_persist m.db (stateAfter app log j) fun habsent => ?_
    exact h.unstamped (hblank (hs.lastLogId.trans habsent))
  · simp only [RedbStateMachine.getCurrentSnapshot, lookup_insert_of_ne _ _ hne,
      lookup_insert, if_pos, decode_enc]
    rfl
  · intro hflag
    rcases Bool.or_eq_false_iff.mp hflag with ⟨rfl, habsent⟩
    have hnone : (stateAfter app log j).lastAppliedLog = none := by
      rw [← hs.lastLogId]
      exact Option.isSome_eq_false_iff.mp habsent |> Option.isNone_iff_eq_none.mp
    exact (metaLastApplied_persist m.db hnone).trans (h.unstamped rfl)
  · intro hflag
    change (stateAfter app log j).lastAppliedLog.isSome
    rw [← hs.lastLogId]
    cases hid : s.snapshotMeta.lastLogId with
    | some id => rfl
    | none =>
      rw [hblank hid, hid] at hflag
      cases hflag

lemma reopen (h : RedbSm.Mirrors app codecs m sm stamped) :
    RedbSm.Mirrors app codecs (RedbStateMachine.new app codecs (some m.db)) sm stamped := by
  have hsame : RedbStateMachine.new app codecs (some m.db) = m := by
    have hloaded := h.loaded
    rcases m with ⟨db, cache⟩
    exact congrArg (RedbSm.mk db) hloaded
  rw [hsame]
  exact h

lemma run (r : SmRun (RedbSm S M) M) (r' : SmRun (SmData S M) M)
    (h : RedbSm.Mirrors app codecs r.machine r'.machine stamped) (hlatest : r.latest = r'.latest)
    {k : Nat} {calls : List (SmCall D M)} (hlog : FollowsLog app codecs log k calls)
    (hblank : NeverBlanked stamped calls) :
    ∃ stamped', RedbSm.Mirrors app codecs
        (calls.foldl (RedbStateMachine.machine app codecs).call r).machine
        (calls.foldl (MemStateMachine.machine app codecs).call r').machine stamped' ∧
      (calls.foldl (RedbStateMachine.machine app codecs).call r).latest =
        (calls.foldl (MemStateMachine.machine app codecs).call r').latest := by
  induction calls generalizing k stamped r r' with
  | nil => exact ⟨stamped, h, hlatest⟩
  | cons c calls ih =>
    cases c with
    | apply entries => exact ih _ _ (h.apply entries) hlatest hlog.2 hblank
    | buildSnapshot =>
      refine ih _ _ h ?_ hlog hblank
      change some (r.machine.sm.buildSnapshot app codecs).snapshotMeta = _
      rw [h.cache]
      rfl
    | installSnapshot s =>
      rcases hlog with ⟨j, hs, hlog⟩
      have hnext := h.installSnapshot hs hblank.1
      simp only [List.foldl_cons, RaftStateMachine.call, RedbStateMachine.machine,
        MemStateMachine.machine, RedbStateMachine.installSnapshot_eq hs,
        MemStateMachine.installSnapshot_eq hs] at hnext ⊢
      exact ih _ _ hnext rfl hlog hblank.2
    | reopen => exact ih _ _ h.reopen hlatest hlog hblank

end RedbSm.Mirrors

/-! ## What can be served -/

lemma LogId.lt_irrefl (id : LogId) : ¬ id < id := by
  rintro (hterm | ⟨-, hnode | ⟨-, hindex⟩⟩)
  · exact UInt64.lt_irrefl _ hterm
  · exact UInt64.lt_irrefl _ hnode
  · exact UInt64.lt_irrefl _ hindex

lemma not_lt_self (id : Option LogId) : ¬ id < id := by
  cases id with
  | none => exact id
  | some id => exact LogId.lt_irrefl id

/-- A machine serves what the machine in memory has stored, if it hands that out and can install
snapshots of the log. -/
lemma SmRun.Inv.served {σ : Type} {ops : RaftStateMachine σ S D R M} {covered : Bool}
    {r : SmRun σ M} {r' : SmRun (SmData S M) M} (h : SmRun.Inv app codecs log k covered r')
    (hlatest : r.latest = r'.latest)
    (hsnapshot : ops.getCurrentSnapshot r.machine = .ok r'.machine.currentSnapshot)
    (hinstall : ∀ s j, IsSnapshotOf app codecs log j s → ∃ fresh,
      ops.installSnapshot ops.new s = (fresh, .ok ()) ∧ ops.cache fresh = stateAfter app log j) :
    Served app log ops r := by
  constructor
  · intro latest hsome
    rcases h.latest latest (hlatest ▸ hsome) with ⟨s, hs, hid⟩
    refine ⟨s, hsnapshot.trans (congrArg Except.ok hs), ?_⟩
    rw [hid]
    exact not_lt_self _
  · intro s hs
    rcases h.stored s (Except.ok.inj (hsnapshot.symm.trans hs)) with ⟨j, hj⟩
    exact ⟨j, hj.le_length, hj.lastLogId, hinstall s j hj⟩

/-- In every run over a log in which a snapshot is built only with nothing applied since the last
installed one, the machine in memory can serve the latest snapshot.  So can the durable one if
moreover no snapshot of the empty log is installed after an applied id was written. -/
theorem snapshots_served_of_buildsCovered (app : App S D R M) (codecs : SmCodecs S M)
    (log : List (Entry D M)) (calls : List (SmCall D M)) (hlog : FollowsLog app codecs log 0 calls)
    (hbuilds : BuildsCovered false calls) :
    Served app log (MemStateMachine.machine app codecs)
        ((MemStateMachine.machine app codecs).run calls) ∧
      (NeverBlanked false calls →
        Served app log (RedbStateMachine.machine app codecs)
          ((RedbStateMachine.machine app codecs).run calls)) := by
  rcases SmRun.Inv.init.run hlog hbuilds with ⟨k, covered, hinv⟩
  refine ⟨hinv.served rfl rfl fun s j hj =>
    ⟨_, MemStateMachine.installSnapshot_eq hj _, rfl⟩, fun hblank => ?_⟩
  have hstart : RedbSm.Mirrors app codecs (RedbStateMachine.machine app codecs).new
      (MemStateMachine.machine app codecs).new false := RedbSm.Mirrors.new
  rcases RedbSm.Mirrors.run ⟨_, none⟩ ⟨_, none⟩ hstart rfl hlog hblank with
    ⟨stamped, hmirrors, hlatest⟩
  exact hinv.served hlatest hmirrors.snapshot fun s j hj =>
    ⟨_, RedbStateMachine.installSnapshot_eq hj _, rfl⟩

end Retrieval

/-! ## A snapshot that is built and not served -/

namespace CounterApp

def app : App Nat Nat Unit Nat :=
  { defaultState := 0
    defaultMembership := 0
    defaultResponse := ()
    applyFn := fun total amount => (total + amount, ())
    displayLeaderId := fun id => toString id.term ++ "-" ++ toString id.nodeId }

def membershipCodec : Codec (StoredMembership Nat) :=
  (wireLogId.option.pair Wire.varint.toCodec).via (fun m => (m.logId, m.membership))
    (fun t => some { logId := t.1, membership := t.2 }) fun _ => rfl

def codecs : SmCodecs Nat Nat :=
  { state := Wire.varint.toCodec
    logId := wireLogId
    membership := membershipCodec
    snapshotMeta :=
      (wireLogId.option.pair (membershipCodec.pair Wire.text.toCodec)).via
        (fun m => (m.lastLogId, m.lastMembership, m.snapshotId))
        (fun t => some { lastLogId := t.1, lastMembership := t.2.1, snapshotId := t.2.2 })
        fun _ => rfl }

def entryId : LogId :=
  { leaderId := { term := 1, nodeId := 1 }
    index := 1 }

def log : List (Entry Nat Nat) :=
  [{ logId := entryId
     payload := .normal 5 }]

def received : Snapshot Nat :=
  { snapshotMeta :=
      { lastLogId := some entryId
        lastMembership := { logId := none, membership := 0 }
        snapshotId := "1-1-1" }
    snapshot := codecs.state.enc 5 }

/-- The entry is applied and a snapshot is built: neither machine can serve it. -/
theorem built_snapshot_not_served : FollowsLog app codecs log 0 [.apply log, .buildSnapshot] ∧
      ¬ Served app log (MemStateMachine.machine app codecs)
        ((MemStateMachine.machine app codecs).run [.apply log, .buildSnapshot]) ∧
      ¬ Served app log (RedbStateMachine.machine app codecs)
        ((RedbStateMachine.machine app codecs).run [.apply log, .buildSnapshot]) := by
  refine ⟨⟨⟨by decide, rfl⟩, trivial⟩, ?_, ?_⟩
  · intro h
    rcases h.newest _ rfl with ⟨s, hs, -⟩
    cases hs
  · intro h
    rcases h.newest _ rfl with ⟨s, hs, -⟩
    have hnone : (RedbStateMachine.machine app codecs).getCurrentSnapshot
        ((RedbStateMachine.machine app codecs).run [.apply log, .buildSnapshot]).machine =
          .ok none := rfl
    rw [hnone] at hs
    cases hs

/-- The snapshot is installed, built again and served after a restart. -/
theorem installed_snapshot_served : Served app log (RedbStateMachine.machine app codecs)
      ((RedbStateMachine.machine app codecs).run
        [.installSnapshot received, .buildSnapshot, .reopen]) := by
  have hlog : FollowsLog app codecs log 0 [.installSnapshot received, .buildSnapshot, .reopen] :=
    ⟨1, ⟨by decide, rfl, rfl, rfl⟩, trivial⟩
  refine (snapshots_served_of_buildsCovered app codecs log _ hlog ⟨rfl, trivial⟩).2 ?_
  exact ⟨fun _ => rfl, trivial⟩

end CounterApp

end ZLayer.Consensus
