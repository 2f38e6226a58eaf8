import ZLayer.Storage.LayerBacked
import ZLayer.Storage.ResumeDeadlock

/-!
# LayerRestore — runs with crashes, and the layer that comes back

The calls of a run follow one another.  Each is given the answers of its environment, and it either
goes on until it returns or waits for ever, or the process crashes after some of its steps and a new
one takes over.  While every call finds its staged file intact and reads it whole, a digest that is
stored as the remote one can be restored.
-/

namespace ZLayer.Storage

open Lib

/-! ## Runs -/

inductive LayerEvent
  | register (id : ContainerLayerId) (answers : ℕ → Answer) (crash : Option ℕ)
  | sync (id : ContainerLayerId) (hashed archived : FsNode) (answers : ℕ → Answer)
      (crash : Option ℕ)

/-- What a call leaves: everything it does, or what it did up to a crash, as a new process finds
it. -/
def World.after {α : Type} (w : World) (call : SyncCall α) (answers : ℕ → Answer) : Option ℕ → World
  | none => (call.outcome ⟨w, answers⟩).2.world
  | some k => (Proc.interrupt k call.toProc ⟨w, answers⟩).world.restart

def World.next (lib : LayerLib) (cfg : LayerStorageConfig) (w : World) : LayerEvent → World
  | .register id answers crash => w.after (registerContainer id) answers crash
  | .sync id hashed archived answers crash =>
    w.after (syncLayer lib cfg id hashed archived) answers crash

/-- The condition on a call, which registrations meet. -/
def IntactAt (lib : LayerLib) (cfg : LayerStorageConfig) (w : World) : LayerEvent → Prop
  | .register .. => True
  | .sync id _ archived answers _ => Intact lib cfg id archived ⟨w, answers⟩

section Runs

variable {lib : LayerLib} {cfg : LayerStorageConfig} {w : World}

lemma Backed.after {α : Type} {call : SyncCall α} {Q : α → Session → Prop} {answers : ℕ → Answer}
    (h : Keeps (Backed lib cfg) Q call ⟨w, answers⟩) (crash : Option ℕ) :
    Backed lib cfg (w.after call answers crash) := by
  cases crash with
  | none => exact h.outcome
  | some k => exact (h.interrupt k).restart

lemma Backed.next (hlaw : lib.Lawful) (h : Backed lib cfg w) (event : LayerEvent)
    (hintact : IntactAt lib cfg w event) : Backed lib cfg (w.next lib cfg event) := by
  cases event with
  | register id answers crash => exact Backed.after (keeps_registerContainer h) crash
  | sync id hashed archived answers crash =>
    exact Backed.after (keeps_syncLayer hlaw h hintact) crash

end Runs

/-! ## Restoring -/

section Restore

variable {lib : LayerLib} {cfg : LayerStorageConfig} {w : World} {digest : String}

structure Published (lib : LayerLib) (cfg : LayerStorageConfig) (s3 : ObjectStore)
    (digest : String) : Prop where
  tarball : ∃ bytes, s3.objects[cfg.objectKey digest]? = some bytes ∧ Staged lib cfg digest bytes
  metadata : ∃ snapshot, snapshot.digest = digest ∧
    s3.objects[cfg.metadataKey digest]? = some (lib.snapshotToVec snapshot)

lemma Backed.published (h : Backed lib cfg w) {state : SyncState}
    (hstate : StateSound lib cfg w.s3 state) (hremote : state.remoteDigest = some digest) :
    Published lib cfg w.s3 digest := by
  obtain ⟨hobject, hmetadata⟩ := hstate.remote digest hremote
  obtain ⟨bytes, hbytes⟩ := Option.isSome_iff_exists.mp
    (Std.ExtTreeMap.isSome_getElem?_iff_mem.mpr hobject)
  obtain ⟨json, hjson⟩ := Option.isSome_iff_exists.mp
    (Std.ExtTreeMap.isSome_getElem?_iff_mem.mpr hmetadata)
  obtain ⟨snapshot, rfl, hdigest⟩ := h.s3.metadata digest json hjson
  exact ⟨⟨bytes, hbytes, h.s3.objects digest bytes hbytes⟩, ⟨snapshot, hdigest, hjson⟩⟩

lemma outcome_getObject {key : String} {s : Session} {body : List UInt8}
    (hok : (s.answers 0).ending = .ok) (hbody : s.world.s3.objects[key]? = some body) :
    (callS3 fun _ s3 => s3.getObject key).outcome s = (some (.ok body), s.answered s.world) :=
  outcome_external_ok hok (by simp [ObjectStore.getObject, hbody])

/-- Restoring finds both objects and the digest it expects. -/
lemma outcome_restoreLayer (hlaw : lib.Lawful) {id : ContainerLayerId} {state : SyncState}
    (hfree : w.guards = ⟨0, false⟩) (hstate : w.states[id.toKey]? = some state)
    (hremote : state.remoteDigest = some digest) (hpublished : Published lib cfg w.s3 digest)
    {answers : ℕ → Answer} (hok : ∀ n, (answers n).ending = .ok) :
    ∃ snapshot, snapshot.digest = digest ∧
      ((restoreLayer lib cfg id).outcome ⟨w, answers⟩).1 = some (.ok snapshot) := by
  obtain ⟨bytes, hbytes, archive, rfl, rfl⟩ := hpublished.tarball
  obtain ⟨snapshot, hdigest, hjson⟩ := hpublished.metadata
  refine ⟨snapshot, hdigest, ?_⟩
  have hread : (withRead do
      return (← getState id.toKey).bind SyncState.remoteDigest : SyncCall _).outcome ⟨w, answers⟩ =
      (some (.ok (some (lib.sha256 archive))), ⟨w, answers⟩) := by
    refine outcome_withRead_ok (by rw [hfree]) ?_
    rw [Call.outcome_bind_ok (outcome_getState _ _)]
    simp only [setGuards, hstate, Option.bind_some, hremote]
    rfl
  have hmetadata (s : Session) (hending : (s.answers 0).ending = .ok)
      (hs3 : s.world.s3 = w.s3) :
      (getSnapshotMetadata lib cfg (lib.sha256 archive)).outcome s =
        (some (.ok snapshot), s.answered s.world) := by
    unfold getSnapshotMetadata
    rw [Call.outcome_bind_ok (outcome_getObject hending (hs3 ▸ hjson))]
    simp only [hlaw.snapshotFromSlice_toVec]
    rfl
  have hverify : verifySnapshot lib (fileOf lib cfg archive) (lib.sha256 archive) =
      .archive archive :=
    by simp [verifySnapshot, fileOf, hlaw.decompress_compress]
  unfold restoreLayer
  rw [Call.outcome_bind_ok hread]
  simp only
  rw [Call.outcome_bind_ok (outcome_getObject (hok 0) hbytes),
    Call.outcome_bind_ok (outcome_external_ok (hok 1) rfl),
    Call.outcome_bind_ok (hmetadata _ (hok 2) rfl), hverify]
  simp only
  -- the local digest is recorded under the write lock, which nobody holds
  rw [Call.outcome_bind_ok (outcome_external_ok (hok 3) rfl),
    Call.outcome_bind_ok (outcome_withWrite_ok ?_ (outcome_updateState_ok ?_ ?_))]
  · rfl
  · exact state
  · exact hfree
  · exact hok 4
  · exact hstate

end Restore

/-- In a run whose calls find their staged files intact, read them whole and need one page of the
listing, a stored remote digest has both its objects, and the next process can restore it. -/
theorem restorable_of_intact (lib : LayerLib) (hlaw : lib.Lawful) (cfg : LayerStorageConfig)
    (events : List LayerEvent)
    (h : Machine.Along (World.next lib cfg) (IntactAt lib cfg) .fresh events)
    (id : ContainerLayerId) (state : SyncState) (digest : String)
    (hstate : (events.foldl (World.next lib cfg) .fresh).db[id.toKey]? = some state)
    (hremote : state.remoteDigest = some digest) :
    Published lib cfg (events.foldl (World.next lib cfg) .fresh).s3 digest ∧
      ∀ answers : ℕ → Answer, (∀ n, (answers n).ending = .ok) →
        ∃ snapshot, snapshot.digest = digest ∧
          ((restoreLayer lib cfg id).outcome
            ⟨(events.foldl (World.next lib cfg) .fresh).restart, answers⟩).1 =
              some (.ok snapshot) := by
  have hbacked : Backed lib cfg (events.foldl (World.next lib cfg) .fresh) :=
    h.invariant (I := Backed lib cfg) (fun w event hw hintact => hw.next hlaw event hintact)
      (by constructor <;> first | constructor <;> simp [World.fresh, ObjectStore.empty] |
        simp [World.fresh])
  have hpublished := hbacked.published (hbacked.stored _ state hstate) hremote
  exact ⟨hpublished, fun answers hok =>
    outcome_restoreLayer (w := World.restart _) hlaw rfl hstate hremote hpublished hok⟩

/-! ## One layer, read whole and read in part -/

namespace ReadExample

open PendingExample (container)

def config : LayerStorageConfig := ⟨"layers/", 64, 3⟩

def layer : FsNode :=
  .dir ⟨493, 0, 0, 0⟩ [("a", .file ⟨420, 0, 0, 0⟩ [104, 105])]

/-- A file system whose reads return at most `readLen` bytes. -/
def answers (readLen : Nat) : ℕ → Answer :=
  fun _ => ⟨.ok, "", 0, "tag", readLen⟩

def run (readLen : Nat) : List LayerEvent :=
  [.register container (answers readLen) none,
    .sync container layer layer (answers readLen) none]

def final (readLen : Nat) : World :=
  (run readLen).foldl (World.next .plain config) .fresh

def digest : String := LayerLib.plain.sha256 (LayerLib.plain.tar layer)

end ReadExample

open PendingExample (container) in
open ReadExample in
theorem restorable_of_read_whole :
    Machine.Along (World.next .plain config) (IntactAt .plain config) .fresh (run 64) ∧
      Published .plain config (final 64).s3 digest ∧
        ∀ answers : ℕ → Answer, (∀ n, (answers n).ending = .ok) →
          ∃ snapshot, snapshot.digest = digest ∧
            ((restoreLayer .plain config container).outcome ⟨(final 64).restart, answers⟩).1 =
              some (.ok snapshot) := by
  have hpending : ((World.fresh.next .plain config
      (.register container (answers 64) none)).states[container.toKey]?.bind
        SyncState.pendingUpload).isNone = true := by decide +kernel
  have hrun : Machine.Along (World.next .plain config) (IntactAt .plain config) .fresh
      (run 64) := by
    refine ⟨trivial, ?_, trivial⟩
    simp only [IntactAt, Intact, Option.isNone_iff_eq_none.mp hpending]
    exact ⟨fun _ => Nat.min_le_left _ _, by decide +kernel⟩
  have hremote : (final 64).db[container.toKey]?.bind SyncState.remoteDigest = some digest := by
    decide +kernel
  obtain ⟨state, hstate, hdigest⟩ := Option.bind_eq_some_iff.mp hremote
  exact ⟨hrun, restorable_of_intact .plain LayerLib.plain_lawful config (run 64) hrun container
    state digest hstate hdigest⟩

open PendingExample (container) in
open ReadExample in
/-- A read returns the first 8 of the 12 bytes of the tarball: the part is cut short, the digest is
recorded, and the layer cannot be restored. -/
theorem short_read_recorded :
    (final 8).db[container.toKey]?.bind SyncState.remoteDigest = some digest ∧
      (final 8).s3.objects[config.objectKey digest]? =
        some ((LayerLib.plain.tar layer).take 8) ∧
      ((restoreLayer .plain config container).outcome ⟨(final 8).restart, answers 64⟩).1 =
        some (.error (.checksumMismatch digest
          (LayerLib.plain.sha256 ((LayerLib.plain.tar layer).take 8)))) := by
  decide +kernel

end ZLayer.Storage
