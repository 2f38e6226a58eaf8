import ZLayer.Storage.SyncRules

/-!
# ResumeDeadlock — resuming an upload under its own read guard

`sync_layer` looks for a pending upload inside a block that holds a read guard, and it resumes the
upload from inside that block.  Both ends of `resume_upload` that change the state ask for the write
lock, which is granted only when no guard is alive.  So the call returns exactly when something
fails before it gets there.
-/

namespace ZLayer.Storage

open Lib Call HashMap List

/-! ## Uploading parts -/

/-- The next `n` external calls are answered with success. -/
def Session.Answered (s : Session) (n : ℕ) : Prop :=
  ∀ i < n, (s.answers i).ending = .ok

lemma answered_add {s : Session} {m n : ℕ} :
    s.Answered (m + n) ↔ s.Answered m ∧ ∀ i < n, (s.answers (i + m)).ending = .ok := by
  refine ⟨fun h => ⟨fun i hi => h i (by omega), fun i hi => h _ (by omega)⟩, fun h i hi => ?_⟩
  by_cases hfirst : i < m
  · exact h.1 i hfirst
  · simpa [Nat.sub_add_cancel (Nat.not_lt.mp hfirst)] using h.2 (i - m) (by omega)

lemma answered_two {s : Session} (hfirst : (s.answers 0).ending = .ok)
    (hsecond : (s.answers 1).ending = .ok) : s.Answered 2
  | 0, _ => hfirst
  | 1, _ => hsecond

section Parts

variable {s : Session} {name key : String} {uploadId : Nat} (partSize : Nat)
  {file : List UInt8} {upload : ObjectStore.Upload}

lemma outcome_readPart_ok (hfile : s.world.staging[name]? = some file) (number : Nat)
    (h : (s.answers 0).ending = .ok) :
    (readPart name partSize number).outcome s =
      (some (.ok (s.nextPart partSize file number).data), s.answered s.world) :=
  outcome_external_ok h (by rw [World.onFile, hfile]; rfl)

lemma outcome_uploadPart_ok (hfile : s.world.staging[name]? = some file)
    (hfind : s.world.s3.find uploadId key = some upload) (number : Nat) (h : s.Answered 2) :
    (uploadPart name uploadId key partSize number).outcome s =
      (some (.ok (s.answers 1).eTag),
        s.afterPart uploadId key number (s.nextPart partSize file number)) := by
  have hread := outcome_readPart_ok partSize hfile number (h 0 (by decide))
  refine (outcome_bind_ok hread _).trans ?_
  refine outcome_external_ok (s := s.answered s.world) (h 1 (by decide)) ?_
  simp [Session.answered, Session.nextPart, ObjectStore.uploadPart, hfind]

lemma uploadPart_fails (hfile : s.world.staging[name]? = some file) (number : Nat)
    (h : s.Answered 2 → s.world.s3.find uploadId key = none) :
    (uploadPart name uploadId key partSize number).Fails s := by
  by_cases hfirst : (s.answers 0).ending = .ok
  · refine Fails.bind_ok ?_ (outcome_readPart_ok partSize hfile number hfirst)
    refine external_fails fun hsecond => ⟨"NoSuchUpload", ?_⟩
    simp [Session.answered, ObjectStore.uploadPart, h (answered_two hfirst hsecond)]
  · exact Fails.bind (external_fails fun hok => absurd hok hfirst) _

/-- An uploaded part leaves the upload open, with at least that part. -/
lemma find_uploadPart {s3 : ObjectStore} (hfind : s3.find uploadId key = some upload)
    (number : Nat) (part : ObjectStore.Part) :
    (s3.uploadPart uploadId key number part).1.find uploadId key =
      some { upload with parts := upload.parts.insert number part } := by
  have hkey : upload.key = key := (ObjectStore.find_eq_some.mp hfind).2
  refine ObjectStore.find_eq_some.mpr ⟨?_, hkey⟩
  simp [ObjectStore.uploadPart, hfind]

/-- The whole loop goes through if everything is answered. -/
lemma outcome_uploadParts_ok (parts : List Nat) {s : Session} {upload : ObjectStore.Upload}
    (hfile : s.world.staging[name]? = some file)
    (hfind : s.world.s3.find uploadId key = some upload) (h : s.Answered (2 * parts.length)) :
    ∃ completed s3 upload', (uploadParts name uploadId key partSize parts).outcome s =
        (some (.ok completed),
          ⟨{ s.world with s3 := s3 }, fun n => s.answers (n + 2 * parts.length)⟩) ∧
      s3.find uploadId key = some upload' ∧
      (parts ≠ [] ∨ entries upload.parts ≠ [] → entries upload'.parts ≠ []) ∧
      (parts.Nodup → ∀ n, upload'.parts[n]? = if n ∈ parts then
          some (Session.nextPart ⟨s.world, fun k => s.answers (k + 2 * parts.idxOf n)⟩
            partSize file n)
        else upload.parts[n]?) := by
  induction parts generalizing s upload with
  | nil =>
    exact ⟨[], s.world.s3, upload, rfl, hfind, fun hne => hne.resolve_left (by simp), by simp⟩
  | cons number rest ih =>
    rw [length_cons, Nat.mul_succ, Nat.add_comm, answered_add] at h
    rcases h with ⟨htwo, hrest⟩
    have hfirst := outcome_uploadPart_ok partSize hfile hfind number htwo
    obtain ⟨completed, s3, upload', hout, hfind', hne, hparts⟩ :=
      ih (s := s.afterPart uploadId key number (s.nextPart partSize file number)) hfile
        (find_uploadPart hfind number _) hrest
    refine ⟨(number, (s.answers 1).eTag) :: completed, s3, upload', ?_, hfind', fun _ => ?_, ?_⟩
    · unfold uploadParts
      rw [outcome_bind_ok hfirst, outcome_bind_ok hout, outcome_pure]
      simp [Session.afterPart, Nat.mul_add, Nat.add_assoc]
    · refine hne (.inr ?_)
      have hmem : (number, s.nextPart partSize file number) ∈
          entries (upload.parts.insert number (s.nextPart partSize file number)) :=
        (mem_entries _).mpr (by simp)
      exact ne_nil_of_mem hmem
    · intro hnodup n
      rw [nodup_cons] at hnodup
      rw [hparts hnodup.2 n]
      by_cases hn : number = n
      · subst hn
        simp [hnodup.1, Session.nextPart]
      · simp [hn, Ne.symm hn, idxOf_cons_ne _ hn, lookup_insert, Session.nextPart,
          Session.afterPart, Nat.mul_add, Nat.add_assoc]

/-- It ends with an error at the first part that fails. -/
lemma uploadParts_fails (parts : List Nat) {s : Session}
    (hfile : s.world.staging[name]? = some file) (hparts : parts ≠ [])
    (h : s.Answered (2 * parts.length) → s.world.s3.find uploadId key = none) :
    (uploadParts name uploadId key partSize parts).Fails s := by
  induction parts generalizing s with
  | nil => exact absurd rfl hparts
  | cons number rest ih =>
    unfold uploadParts
    by_cases hpart : s.Answered 2 → s.world.s3.find uploadId key = none
    · exact (uploadPart_fails partSize hfile number hpart).bind _
    · obtain ⟨htwo, hsome⟩ := Classical.not_imp.mp hpart
      obtain ⟨upload, hfind⟩ := Option.ne_none_iff_exists'.mp hsome
      have hfirst := outcome_uploadPart_ok partSize hfile hfind number htwo
      -- the failure is further on, so something is left to upload
      have hlater : ¬ (s.afterPart uploadId key number
          (s.nextPart partSize file number)).Answered (2 * rest.length) := by
        intro hrest
        rw [length_cons, Nat.mul_succ, Nat.add_comm, answered_add] at h
        exact hsome (h ⟨htwo, hrest⟩)
      have hne : rest ≠ [] := by
        rintro rfl
        exact hlater fun i hi => absurd hi (by simp)
      refine Fails.bind_ok (Fails.bind ?_ _) hfirst
      exact ih hfile hne fun hrest => absurd hrest hlater

end Parts

/-! ## The resumed upload -/

section Resume

variable {s : Session} {lib : LayerLib} {cfg : LayerStorageConfig} {id : ContainerLayerId}
  {pending : PendingUpload}

/-- Everything before the first write request succeeds: S3 still has the upload, and it answers
each call; if no part is missing, S3 has some part. -/
def ReachesLock (pending : PendingUpload) (s : Session) : Prop :=
  ∃ upload, s.world.s3.find pending.uploadId pending.objectKey = some upload ∧
    if pending.missingParts = [] then
      entries upload.parts ≠ [] ∧ s.Answered 2
    else if s.world.staging.contains pending.localTarballPath then
      s.Answered (2 * pending.missingParts.length + 2)
    else
      s.Answered 1

lemma outcome_listParts {upload : ObjectStore.Upload} (hok : (s.answers 0).ending = .ok)
    (hfind : s.world.s3.find pending.uploadId pending.objectKey = some upload) :
    (callS3 fun _ s3 => s3.listParts pending.uploadId pending.objectKey).outcome s =
      (some (.ok (upload.page.map fun p => (p.1, p.2.eTag))), s.answered s.world) :=
  outcome_external_ok hok (by simp [ObjectStore.listParts, hfind])

/-- Listing and completing succeed for an upload that has parts. -/
lemma outcome_completeListed_ok {upload : ObjectStore.Upload}
    (hfind : s.world.s3.find pending.uploadId pending.objectKey = some upload)
    (hparts : entries upload.parts ≠ []) (h : s.Answered 2) :
    ∃ s', (completeListed pending).outcome s = (some (.ok ()), s') ∧
      s'.world.guards = s.world.guards := by
  have hcomplete : (callS3 fun _ s3 => s3.completeMultipartUpload pending.uploadId
      pending.objectKey (upload.page.map fun p => (p.1, p.2.eTag))).outcome
        (s.answered s.world) = (some (.ok ()), _) :=
    outcome_external_ok (h 1 (by decide)) (by
      simp only [Session.answered, ObjectStore.completeMultipartUpload_page hfind hparts]
      rfl)
  exact ⟨_, (outcome_bind_ok (outcome_listParts (h 0 (by decide)) hfind) _).trans hcomplete,
    rfl⟩

variable (pending) in
lemma completeListed_fails (h : s.Answered 2 → ∀ upload,
      s.world.s3.find pending.uploadId pending.objectKey = some upload →
        entries upload.parts = []) :
    (completeListed pending).Fails s := by
  by_cases hlisted : (s.answers 0).ending = .ok ∧
      (s.world.s3.find pending.uploadId pending.objectKey).isSome
  · rcases hlisted with ⟨hfirst, hsome⟩
    obtain ⟨upload, hfind⟩ := Option.isSome_iff_exists.mp hsome
    refine Fails.bind_ok (external_fails fun hsecond => ⟨"InvalidPartOrder", ?_⟩)
      (outcome_listParts hfirst hfind)
    have hempty := h (answered_two hfirst hsecond) upload hfind
    simp [Session.answered, ObjectStore.completeMultipartUpload, hfind, hempty,
      ObjectStore.Upload.page, ObjectStore.Ascending]
  · refine Fails.bind (external_fails fun hok => ⟨"NoSuchUpload", ?_⟩) _
    have hnone : s.world.s3.find pending.uploadId pending.objectKey = none :=
      Option.not_isSome_iff_eq_none.mp fun hsome => hlisted ⟨hok, hsome⟩
    simp [ObjectStore.listParts, hnone]

lemma outcome_uploadMissing_nil (hmissing : pending.missingParts = []) :
    (uploadMissing id pending).outcome s = (some (.ok ()), s) := by
  unfold uploadMissing
  rw [if_pos (by simpa using hmissing)]
  rfl

/-- Without the tarball the upload is aborted, and the record is cleared under the write lock. -/
lemma outcome_uploadMissing_cons (hmissing : pending.missingParts ≠ []) {present : Bool}
    (hpresent : s.world.staging.contains pending.localTarballPath = present) :
    (uploadMissing id pending).outcome s =
      match present with
      | false => outcome (do
          callS3 fun _ s3 => s3.abortMultipartUpload pending.uploadId pending.objectKey
          withWrite (updateState id.toKey fun _ state => { state with pendingUpload := none })
          throw (.uploadInterrupted "Local tarball missing")) s
      | true => outcome (do
          let _ ← uploadParts pending.localTarballPath pending.uploadId pending.objectKey
            pending.partSize pending.missingParts
          return ()) s := by
  have hexists : (tarballExists pending.localTarballPath).outcome s = (some (.ok present), s) := by
    simp only [tarballExists, internal, outcome, toProc, ofProc, Proc.outcome_act, hpresent]
  unfold uploadMissing
  rw [if_neg (by simpa using hmissing), outcome_bind_ok hexists]
  cases present <;> rfl

variable (lib cfg id) in
/-- If it is not stopped before, a resumed upload waits for a lock that its caller holds. -/
lemma outcome_resumeUpload_waits (hread : s.world.guards.readers ≠ 0)
    (h : ReachesLock pending s) : ((resumeUpload lib cfg id pending).outcome s).1 = none := by
  rcases h with ⟨upload, hfind, h⟩
  by_cases hmissing : pending.missingParts = []
  · -- nothing to upload: list, complete, and wait
    rw [if_pos hmissing] at h
    obtain ⟨s', hcomplete, hguards⟩ := outcome_completeListed_ok hfind h.1 h.2
    unfold resumeUpload
    rw [outcome_bind_ok (outcome_uploadMissing_nil hmissing), outcome_bind_ok hcomplete,
      outcome_bind_none (outcome_withWrite_of_reader _ (hguards ▸ hread))]
  · rw [if_neg hmissing] at h
    cases hstaged : s.world.staging.contains pending.localTarballPath with
    | false =>
      simp only [hstaged, Bool.false_eq_true, if_false] at h
      have habort : (callS3 fun _ s3 => s3.abortMultipartUpload pending.uploadId
          pending.objectKey).outcome s = (some (.ok ()), _) :=
        outcome_external_ok (h 0 (by decide)) (by
          simp only [ObjectStore.abortMultipartUpload, hfind]
          rfl)
      unfold resumeUpload
      rw [outcome_bind_none]
      rw [outcome_uploadMissing_cons hmissing hstaged, outcome_bind_ok habort]
      refine outcome_bind_none (outcome_withWrite_of_reader _ ?_) _
      exact hread
    | true =>
      simp only [hstaged, if_true] at h
      obtain ⟨file, hfile⟩ : ∃ file, s.world.staging[pending.localTarballPath]? = some file :=
        Option.isSome_iff_exists.mp (by simpa using hstaged)
      rw [answered_add] at h
      obtain ⟨completed, s3, upload', hparts, hfind', hne, -⟩ :=
        outcome_uploadParts_ok pending.partSize pending.missingParts hfile hfind h.1
      have huploaded : (uploadMissing id pending).outcome s = (some (.ok ()), _) :=
        (outcome_uploadMissing_cons hmissing hstaged).trans (outcome_bind_ok hparts _)
      obtain ⟨s', hcomplete, hguards⟩ := outcome_completeListed_ok
        (s := ⟨{ s.world with s3 := s3 },
          fun n => s.answers (n + 2 * pending.missingParts.length)⟩)
        hfind' (hne (.inl hmissing)) h.2
      unfold resumeUpload
      rw [outcome_bind_ok huploaded, outcome_bind_ok hcomplete,
        outcome_bind_none (outcome_withWrite_of_reader _ (hguards ▸ hread))]

variable (lib cfg id) in
/-- If it is stopped before, it returns an error. -/
lemma resumeUpload_fails (h : ¬ ReachesLock pending s) :
    (resumeUpload lib cfg id pending).Fails s := by
  unfold resumeUpload
  by_cases hmissing : pending.missingParts = []
  · refine Fails.bind_ok (Fails.bind ?_ _) (outcome_uploadMissing_nil hmissing)
    refine completeListed_fails pending fun hanswered upload hfind => ?_
    by_contra hparts
    exact h ⟨upload, hfind, by rw [if_pos hmissing]; exact ⟨hparts, hanswered⟩⟩
  cases hstaged : s.world.staging.contains pending.localTarballPath with
  | false =>
    refine Fails.bind ?_ _
    rw [Fails, outcome_uploadMissing_cons hmissing hstaged]
    refine Fails.bind (external_fails fun hok => ⟨"NoSuchUpload", ?_⟩) _
    have hnone : s.world.s3.find pending.uploadId pending.objectKey = none := by
      refine Option.eq_none_iff_forall_ne_some.mpr fun upload hfind => h ⟨upload, hfind, ?_⟩
      simp only [hmissing, hstaged, if_false, Bool.false_eq_true]
      intro i hi
      rw [Nat.lt_one_iff.mp hi]
      exact hok
    simp [ObjectStore.abortMultipartUpload, hnone]
  | true =>
    obtain ⟨file, hfile⟩ : ∃ file, s.world.staging[pending.localTarballPath]? = some file :=
      Option.isSome_iff_exists.mp (by simpa using hstaged)
    by_cases hparts : s.Answered (2 * pending.missingParts.length) →
        s.world.s3.find pending.uploadId pending.objectKey = none
    · refine Fails.bind ?_ _
      rw [Fails, outcome_uploadMissing_cons hmissing hstaged]
      exact (uploadParts_fails pending.partSize _ hfile hmissing hparts).bind _
    · obtain ⟨hanswered, hsome⟩ := Classical.not_imp.mp hparts
      obtain ⟨upload, hfind⟩ := Option.ne_none_iff_exists'.mp hsome
      obtain ⟨completed, s3, upload', hout, hfind', -⟩ :=
        outcome_uploadParts_ok pending.partSize pending.missingParts hfile hfind
          hanswered
      have huploaded : (uploadMissing id pending).outcome s = (some (.ok ()), _) :=
        (outcome_uploadMissing_cons hmissing hstaged).trans (outcome_bind_ok hout _)
      refine Fails.bind_ok (Fails.bind (completeListed_fails pending fun hlast => ?_) _) huploaded
      -- then every call would have been answered
      refine absurd ⟨upload, hfind, ?_⟩ h
      simp only [hmissing, hstaged, if_false, if_true]
      exact answered_add.mpr ⟨hanswered, hlast⟩

end Resume

/-! ## `sync_layer` -/

section Sync

variable {lib : LayerLib} {cfg : LayerStorageConfig} {id : ContainerLayerId}
  {hashed archived : FsNode} {state : SyncState} {pending : PendingUpload} {s : Session}

variable (lib cfg) in
/-- With a pending upload, the first block of `sync_layer` resumes it under the read guard. -/
lemma outcome_resumePending (hfree : s.world.guards.canRead = true)
    (hstate : s.world.states[id.toKey]? = some state)
    (hpending : state.pendingUpload = some pending) :
    (resumePending lib cfg id).outcome s =
      match (resumeUpload lib cfg id pending).outcome
          (setGuards (fun g => { g with readers := g.readers + 1 }) s) with
      | (some (.ok result), s') =>
        (some (.ok (some result)), setGuards (fun g => { g with readers := g.readers - 1 }) s')
      | (some (.error e), s') =>
        (some (.error e), setGuards (fun g => { g with readers := g.readers - 1 }) s')
      | (none, s') => (none, s') := by
  unfold resumePending
  rw [outcome_withRead _ hfree, outcome_bind_ok (outcome_getState _ _)]
  simp only [setGuards, hstate, Option.bind_some, hpending]
  rw [outcome_bind]
  rcases outcome (resumeUpload lib cfg id pending) _ with ⟨_ | (_ | _), s'⟩ <;> rfl

/-- A call that finds a pending upload returns exactly when the upload is stopped by a failure
before it asks for the write lock. -/
theorem syncLayer_returns_iff (lib : LayerLib) (cfg : LayerStorageConfig) (id : ContainerLayerId)
    (hashed archived : FsNode) (s : Session) (state : SyncState) (pending : PendingUpload)
    (hfree : s.world.guards = ⟨0, false⟩) (hstate : s.world.states[id.toKey]? = some state)
    (hpending : state.pendingUpload = some pending) :
    ((syncLayer lib cfg id hashed archived).outcome s).1.isSome ↔ ¬ ReachesLock pending s := by
  have hread : s.world.guards.canRead = true := by rw [hfree]; rfl
  have hresume := outcome_resumePending lib cfg hread hstate hpending
  -- the guard changes nothing of what the condition speaks about
  have hguard : ReachesLock pending (setGuards (fun g => { g with readers := g.readers + 1 }) s) ↔
      ReachesLock pending s := Iff.rfl
  have hheld : (setGuards (fun g => { g with readers := g.readers + 1 }) s).world.guards.readers ≠
      0 := Nat.succ_ne_zero _
  unfold syncLayer
  rw [outcome_bind, hresume]
  constructor
  · intro hreturns hreaches
    have hwaits := outcome_resumeUpload_waits lib cfg id hheld
      (hguard.mpr hreaches)
    cases hout : (resumeUpload lib cfg id pending).outcome
        (setGuards (fun g => { g with readers := g.readers + 1 }) s) with
    | mk result s' =>
      rw [hout] at hwaits
      cases hwaits
      simp [hout] at hreturns
  · intro hstopped
    obtain ⟨e, s', herror⟩ := resumeUpload_fails lib cfg id (mt hguard.mp hstopped)
    simp [herror]

end Sync

/-! ## A pending upload of one part -/

namespace PendingExample

def container : ContainerLayerId := ⟨"web", "1"⟩

def config : LayerStorageConfig := ⟨"layers/", 8, 3⟩

def layer : FsNode := .dir ⟨493, 0, 0, 0⟩ []

def pending : PendingUpload where
  uploadId := 0
  objectKey := "layers/d.tar.zst"
  totalParts := 1
  completedParts := ∅
  partSize := 8
  localTarballPath := "c.tar.zst"
  startedAt := 0
  digest := "d"

def world : World where
  guards := ⟨0, false⟩
  states := (∅ : HashMap String SyncState).insert container.toKey
    { SyncState.new container with pendingUpload := some pending }
  db := ∅
  s3 := (ObjectStore.empty.createMultipartUpload "layers/d.tar.zst").1
  staging := (∅ : HashMap String (List UInt8)).insert "c.tar.zst" [1, 2, 3]

def answer (ending : Ending) : Answer := ⟨ending, "", 0, "tag", 8⟩

def session : Session := ⟨world, fun _ => answer .ok⟩

def refused : Session := ⟨world, fun _ => answer .failed⟩

end PendingExample

open PendingExample in
/-- The upload whose part S3 refuses ends with an error. -/
theorem syncLayer_returns_refused : world.guards = ⟨0, false⟩ ∧
      (((syncLayer .plain config container layer layer).outcome refused).1.isSome ↔
        ¬ ReachesLock pending refused) :=
  ⟨rfl, syncLayer_returns_iff .plain config container layer layer refused
    { SyncState.new container with pendingUpload := some pending } pending rfl
    (by simp [refused, world]) rfl⟩

open PendingExample in
/-- The upload goes through and the call never returns. -/
theorem syncLayer_waits_for_itself :
    ((syncLayer .plain config container layer layer).outcome session).1 = none ∧
      ((syncLayer .plain config container layer layer).outcome session).2.world.guards =
        ⟨1, false⟩ := by
  decide +kernel

end ZLayer.Storage
