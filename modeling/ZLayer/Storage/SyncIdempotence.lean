import ZLayer.Storage.ResumeDeadlock

/-!
# SyncIdempotence — the digest that is stored and the digest that is compared

A successful `sync_layer` stores the digest of the archive as the local and the remote digest.
`check_for_changes` and the next `sync_layer` compare the stored digest with that of the directory
walk.  The two are hashes of different texts, so an unchanged layer counts as synced only if its
archive and its walk happen to be the same bytes.
-/

namespace ZLayer.Storage

open Lib

/-! ## What a successful call leaves in memory -/

section Post

variable {lib : LayerLib} {cfg : LayerStorageConfig} {id : ContainerLayerId} {s : Session}

/-- The container has a state in memory, or has none. -/
def RegisteredIs (key : String) (b : Bool) (w : World) : Prop :=
  w.states[key]?.isSome = b

lemma RegisteredIs.modify {key : String} {b : Bool} {w : World} (h : RegisteredIs key b w)
    (f : SyncState → SyncState) :
    RegisteredIs key b { w with states := w.states.modify key f } := by
  simpa [RegisteredIs, HashMap.lookup_modify] using h

lemma updates_registered (id : ContainerLayerId) (b : Bool) :
    Stable.Updates (fun states _ => states[id.toKey]?.isSome = b) id :=
  fun _ _ => Stable.withWrite fun s (h : RegisteredIs id.toKey b s.world) =>
    keeps_updateState h (fun _ => h.modify _) (fun _ _ _ => h.modify _) fun _ _ _ _ _ _ _ => trivial

/-- What the next call reads: no write guard is alive, and the state, if there is one, is that of
a layer synced with this digest. -/
structure SyncedAs (key digest : String) (w : World) : Prop where
  free : w.guards.writer = false
  localDigest : ∀ state, w.states[key]? = some state → state.localDigest = some digest
  remoteDigest : ∀ state, w.states[key]? = some state → state.remoteDigest = some digest
  pendingUpload : ∀ state, w.states[key]? = some state → state.pendingUpload = none

lemma syncedAs_modify (w : World) (key digest : String) (now : Int) (db : HashMap String SyncState)
    (readers : Nat) :
    SyncedAs key digest
      { w with
        states := w.states.modify key (SyncState.synced digest now)
        db := db
        guards := ⟨readers, false⟩ } := by
  have hstate : ∀ state, (w.states.modify key (SyncState.synced digest now))[key]? = some state →
      ∃ old, SyncState.synced digest now old = state := by
    intro state h
    rw [HashMap.lookup_modify, if_pos rfl] at h
    obtain ⟨old, -, hold⟩ := Option.map_eq_some_iff.mp h
    exact ⟨old, hold⟩
  refine ⟨rfl, ?_, ?_, ?_⟩ <;>
    · intro state h
      obtain ⟨old, rfl⟩ := hstate state h
      rfl

variable (lib cfg) in
/-- The path without a pending upload. -/
lemma keeps_syncLayer_fresh {b : Bool} (hashed archived : FsNode)
    (h : RegisteredIs id.toKey b s.world)
    (hpending : s.world.states[id.toKey]?.bind SyncState.pendingUpload = none) :
    Keeps (RegisteredIs id.toKey b)
      (fun result s => RegisteredIs id.toKey b s.world ∧
        (result.isSome → SyncedAs id.toKey (lib.sha256 (lib.tar archived)) s.world))
      (syncLayer lib cfg id hashed archived) s := by
  have hresume : Keeps (RegisteredIs id.toKey b)
      (fun result s => result = none ∧ RegisteredIs id.toKey b s.world)
      (resumePending lib cfg id) s := by
    refine keeps_withRead (fun _ _ hw => hw) h fun _ => ?_
    refine keeps_bind (keeps_getState _ h ?_)
    have hnone : (setGuards (fun g => { g with readers := g.readers + 1 }) s).world.states[
        id.toKey]?.bind SyncState.pendingUpload = none := hpending
    simp only [hnone]
    exact keeps_pure h ⟨rfl, h⟩
  refine keeps_bind (hresume.mono ?_)
  rintro result s₁ - ⟨rfl, h₁⟩
  refine keeps_bind (keeps_external h₁ h₁ fun current _ => ?_)
  refine keeps_bind (keeps_withRead (fun _ _ hw => hw) h₁ fun _ => ?_)
  refine keeps_bind (keeps_getState _ h₁ (keeps_pure h₁ ?_))
  split
  · exact keeps_pure h₁ ⟨h₁, by simp⟩
  · -- the archive is written twice: created, then filled
    refine keeps_bind (keeps_bind (keeps_external h₁ h₁ fun _ _ => ?_))
    refine keeps_external h₁ h₁ fun snapshot hsnapshot => ?_
    have hdigest : snapshot.digest = lib.sha256 (lib.tar archived) := by
      cases hsnapshot
      rfl
    have hupload := Stable.uploadSnapshot (updates_registered id b) lib cfg
    refine keeps_bind (Keeps.mono (hupload _ snapshot _ h₁)
      fun _ s₂ (h₂ : RegisteredIs _ b _) _ => ?_)
    refine keeps_bind (keeps_withWrite (fun _ _ hw => hw) h₂ fun _ => ?_)
    refine keeps_updateState h₂ (fun _ => h₂.modify _) (fun _ _ _ => h₂.modify _) ?_
    intro now db k s₃ h₃ hs₃ _
    have hsynced : SyncedAs id.toKey snapshot.digest
        (setGuards (fun g => { g with writer := false }) s₃).world := by
      have hsync := syncedAs_modify s₂.world id.toKey snapshot.digest now db
        s₃.world.guards.readers
      simpa only [setGuards, hs₃] using hsync
    rw [hdigest] at hsynced
    refine keeps_bind (keeps_removeTarball h₃ h₃ fun staging => ?_)
    refine keeps_pure h₃ ⟨h₃, fun _ => ?_⟩
    exact ⟨hsynced.free, hsynced.localDigest, hsynced.remoteDigest, hsynced.pendingUpload⟩

/-- A call that resumes an upload does not return a value, so a call that does has taken the path
without a pending upload. -/
lemma syncedAs_of_outcome {hashed archived : FsNode} {s' : Session} {snapshot : LayerSnapshot}
    (hout : (syncLayer lib cfg id hashed archived).outcome s = (some (.ok (some snapshot)), s')) :
    s'.world.states[id.toKey]?.isSome = s.world.states[id.toKey]?.isSome ∧
      SyncedAs id.toKey (lib.sha256 (lib.tar archived)) s'.world := by
  have hpending : s.world.states[id.toKey]?.bind SyncState.pendingUpload = none := by
    by_contra hsome
    obtain ⟨pending, hbind⟩ := Option.ne_none_iff_exists'.mp hsome
    obtain ⟨state, hstate, hpending⟩ := Option.bind_eq_some_iff.mp hbind
    cases hread : s.world.guards.canRead with
    | false =>
      have hwaits : (resumePending lib cfg id).outcome s = (none, s) := by
        simp only [resumePending, withRead, Call.outcome, Call.toProc, Call.ofProc]
        exact Proc.outcome_bind_none (by rw [Proc.outcome_await, hread]; rfl) _
      unfold syncLayer at hout
      rw [Call.outcome_bind_none hwaits] at hout
      cases hout
    | true =>
      have hresume := outcome_resumePending lib cfg hread hstate hpending
      unfold syncLayer at hout
      rw [Call.outcome_bind, hresume] at hout
      by_cases hreaches : ReachesLock pending
          (setGuards (fun g => { g with readers := g.readers + 1 }) s)
      · have hnone := outcome_resumeUpload_waits lib cfg id
          (Nat.succ_ne_zero _) hreaches
        rcases hcall : (resumeUpload lib cfg id pending).outcome
            (setGuards (fun g => { g with readers := g.readers + 1 }) s) with ⟨result, s₁⟩
        rw [hcall] at hnone hout
        cases hnone
        cases hout
      · obtain ⟨e, s₁, herror⟩ := resumeUpload_fails lib cfg id
          hreaches
        rw [herror] at hout
        cases hout
  have hpost := (keeps_syncLayer_fresh lib cfg hashed archived rfl
    hpending).of_outcome hout
  exact ⟨hpost.1, hpost.2 rfl⟩

end Post

/-! ## The next call -/

section Next

variable {lib : LayerLib} {cfg : LayerStorageConfig} {id : ContainerLayerId} {w : World}
  {answers : ℕ → Answer} {digest : String}

lemma outcome_checkForChanges (hfree : w.guards.writer = false)
    (hok : (answers 0).ending = .ok) (upper : FsNode) :
    ((checkForChanges lib id upper).outcome ⟨w, answers⟩).1 =
      match w.states[id.toKey]? with
      | none => some (.error (.notFound id.toKey))
      | some state =>
        some (.ok (state.localDigest ≠ some (calculateDirectoryDigest lib upper))) := by
  unfold checkForChanges
  rw [outcome_withRead _ (by simp [Guards.canRead, hfree]),
    Call.outcome_bind_ok (outcome_getState _ _)]
  cases hstate : w.states[id.toKey]? with
  | none =>
    simp only [setGuards, hstate]
    rfl
  | some state =>
    simp only [setGuards, hstate]
    rw [Call.outcome_bind_ok (outcome_external_ok hok rfl)]
    rfl

/-- Nothing is created or uploaded if the remote digest is that of the walk. -/
lemma outcome_syncLayer_same (hsynced : SyncedAs id.toKey digest w)
    (hregistered : w.states[id.toKey]?.isSome) (hok : (answers 0).ending = .ok)
    (hashed archived : FsNode) (hsame : calculateDirectoryDigest lib hashed = digest) :
    (syncLayer lib cfg id hashed archived).outcome ⟨w, answers⟩ =
      (some (.ok none), ⟨w, fun n => answers (n + 1)⟩) := by
  obtain ⟨state, hstate⟩ := Option.isSome_iff_exists.mp hregistered
  have hresume : (resumePending lib cfg id).outcome ⟨w, answers⟩ =
      (some (.ok none), ⟨w, answers⟩) := by
    refine outcome_withRead_ok hsynced.free ?_
    rw [Call.outcome_bind_ok (outcome_getState _ _)]
    simp only [setGuards, hstate, Option.bind_some, hsynced.pendingUpload state hstate]
    rfl
  have hremote : (withRead do
      return (← getState id.toKey).bind SyncState.remoteDigest : SyncCall _).outcome
        ⟨w, fun n => answers (n + 1)⟩ =
      (some (.ok (some digest)), ⟨w, fun n => answers (n + 1)⟩) := by
    refine outcome_withRead_ok hsynced.free ?_
    rw [Call.outcome_bind_ok (outcome_getState _ _)]
    simp only [setGuards, hstate, Option.bind_some, hsynced.remoteDigest state hstate]
    rfl
  have hdigest : (external .io fun _ w => (w, .ok (calculateDirectoryDigest lib hashed)) :
      SyncCall String).outcome ⟨w, answers⟩ =
      (some (.ok digest), ⟨w, fun n => answers (n + 1)⟩) := by
    rw [hsame]
    exact outcome_external_ok hok rfl
  unfold syncLayer
  rw [Call.outcome_bind_ok hresume, Call.outcome_bind_ok hdigest, Call.outcome_bind_ok hremote,
    if_pos rfl]
  rfl

/-- After a successful sync, an unchanged layer counts as synced exactly if its container is
registered and the bytes of its archive are the bytes of its walk. -/
theorem unchanged_iff (lib : LayerLib) (hsha : Function.Injective lib.sha256)
    (cfg : LayerStorageConfig) (id : ContainerLayerId) (layer : FsNode) (s s' : Session)
    (snapshot : LayerSnapshot)
    (hout : (syncLayer lib cfg id layer layer).outcome s = (some (.ok (some snapshot)), s')) :
    (∀ answers : ℕ → Answer, (∀ n, (answers n).ending = .ok) →
      ((checkForChanges lib id layer).outcome ⟨s'.world, answers⟩).1 = some (.ok false) ∧
        ∃ rest, (syncLayer lib cfg id layer layer).outcome ⟨s'.world, answers⟩ =
          (some (.ok none), ⟨s'.world, rest⟩)) ↔
      id.toKey ∈ s.world.states ∧ lib.tar layer = directoryStream layer := by
  obtain ⟨hregistered, hsynced⟩ := syncedAs_of_outcome hout
  have hmem : id.toKey ∈ s.world.states ↔ s'.world.states[id.toKey]?.isSome := by
    rw [hregistered]
    simp
  rw [hmem]
  constructor
  · intro hunchanged
    have hcheck := (hunchanged (fun _ => ⟨.ok, "", 0, "", 0⟩) fun _ => rfl).1
    rw [outcome_checkForChanges hsynced.free rfl] at hcheck
    cases hstate : s'.world.states[id.toKey]? with
    | none =>
      rw [hstate] at hcheck
      cases hcheck
    | some state =>
      refine ⟨rfl, hsha ?_⟩
      rw [hstate] at hcheck
      have hsame : state.localDigest = some (calculateDirectoryDigest lib layer) := by
        simpa using hcheck
      rw [hsynced.localDigest state hstate] at hsame
      exact Option.some.inj hsame
  · rintro ⟨hsome, hsame⟩ answers hok
    have hdigest : calculateDirectoryDigest lib layer = lib.sha256 (lib.tar layer) := by
      rw [calculateDirectoryDigest, hsame]
    refine ⟨?_, _, outcome_syncLayer_same hsynced hsome (hok 0) layer layer hdigest⟩
    obtain ⟨state, hstate⟩ := Option.isSome_iff_exists.mp hsome
    rw [outcome_checkForChanges hsynced.free (hok 0), hstate]
    simp [hsynced.localDigest state hstate, hdigest]

end Next

/-! ## A layer with one file -/

namespace OneFile

open PendingExample (container config answer)

def layer : FsNode :=
  .dir ⟨493, 0, 0, 0⟩ [("a", .file ⟨420, 0, 0, 0⟩ [104, 105])]

def registered : Session :=
  ((registerContainer container).outcome ⟨.fresh, fun _ => answer .ok⟩).2

def synced : Session :=
  ((syncLayer .plain config container layer layer).outcome registered).2

end OneFile

open PendingExample (container config) in
open OneFile in
theorem unchanged_iff_oneFile : (syncLayer .plain config container layer layer).outcome registered =
        (some (.ok (some (createSnapshot .plain 3 0 layer).1)), synced) ∧
      ((∀ answers : ℕ → Answer, (∀ n, (answers n).ending = .ok) →
        ((checkForChanges .plain container layer).outcome ⟨synced.world, answers⟩).1 =
            some (.ok false) ∧
          ∃ rest, (syncLayer .plain config container layer layer).outcome
              ⟨synced.world, answers⟩ = (some (.ok none), ⟨synced.world, rest⟩)) ↔
        container.toKey ∈ registered.world.states ∧
          LayerLib.plain.tar layer = directoryStream layer) :=
  have hout : (syncLayer .plain config container layer layer).outcome registered =
      (some (.ok (some (createSnapshot .plain 3 0 layer).1)), synced) :=
    Prod.ext (by decide +kernel) rfl
  ⟨hout, unchanged_iff .plain LayerLib.byteString_injective config container layer registered
    synced _ hout⟩

open PendingExample (container config) in
open OneFile in
/-- The layer is synced, nothing changes, and it is found changed and uploaded again. -/
theorem unchanged_layer_uploaded_again :
    (((syncLayer .plain config container layer layer).outcome registered).1.map
        (·.toOption.join.isSome)) = some true ∧
      ((checkForChanges .plain container layer).outcome synced).1 = some (.ok true) ∧
      (((syncLayer .plain config container layer layer).outcome synced).1.map
        (·.toOption.join.isSome)) = some true ∧
      ((syncLayer .plain config container layer layer).outcome synced).2.world.s3.nextId = 2 := by
  decide +kernel

end ZLayer.Storage
