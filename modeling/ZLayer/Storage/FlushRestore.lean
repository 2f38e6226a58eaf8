import ZLayer.Storage.CapturedSegments

/-!
# FlushRestore — what a flushed replica restores to

`restore` lays one WAL segment over one snapshot.  The snapshot is the last one uploaded, and the
segment should be the last one captured; but it is the one with the greatest number, and numbers
are frame counts, which start over after every checkpoint.

When numbers do increase the pair is consistent: a segment that has been captured after the last
commit turns the database file into the committed contents, before a checkpoint and after it, since
laying frames over a file that already has them changes nothing.
-/

namespace ZLayer.Storage

open Lib WriteLog WriteCache List HashMap

namespace Replicator

variable {Page : Type}

/-! ## The newest segment and the database file -/

section Covered

variable (lib : SqliteLib Page) (json : EntryJson)

/-- The frames `restore` should lay over the snapshot. -/
def newestFrames (r : Replicator Page) : List (Frame Page) :=
  ((newest r.captures).map fun segment => lib.recover segment.2).getD []

/-- The newest segment turns these pages into the committed contents, if it was captured after the
last commit. -/
def Covers (r : Replicator Page) (pages : Pages Page) : Prop :=
  r.captured = true → overlay pages (r.newestFrames lib) = r.committed

variable {lib json} {r : Replicator Page}

lemma committed_checkpoint (r : Replicator Page) (mode : CheckpointMode) :
    (r.checkpoint mode).committed = r.committed := by
  have hframes : (r.checkpoint mode).walFrames = r.walFrames ∨
      (r.checkpoint mode).walFrames = [] := by
    unfold walFrames checkpoint
    cases r.wal with
    | none => exact .inl rfl
    | some file =>
      cases mode with
      | restart => exact .inl rfl
      | truncate | remove => exact .inr rfl
  rcases hframes with hsame | hnone
  · calc (r.checkpoint mode).committed
        = overlay (overlay r.db r.walFrames) r.walFrames := by rw [committed, hsame]; rfl
      _ = r.committed := overlay_idem r.db r.walFrames
  · calc (r.checkpoint mode).committed
        = overlay r.committed [] := by rw [committed, hnone]; rfl
      _ = r.committed := overlay_nil r.committed

variable {pages : Pages Page}

lemma Covers.checkpoint (h : r.Covers lib pages) (mode : CheckpointMode) :
    (r.checkpoint mode).Covers lib pages := by
  intro hcaptured
  rw [committed_checkpoint]
  exact h hcaptured

lemma Covers.commit (h : r.Covers lib pages) (frames : List (Frame Page)) :
    (r.commit frames).Covers lib pages := by
  unfold Replicator.commit
  split
  · exact h
  · exact fun hcaptured => absurd hcaptured (by simp)

/-- A capture takes the place of the newest segment, or finds nothing to capture. -/
lemma covers_db_pollRead {now : Int} (h : r.Covers lib r.db)
    (horderly : r.Orderly (.pollRead now)) :
    (r.pollRead lib json now).Covers lib (r.pollRead lib json now).db := by
  unfold Replicator.pollRead
  split
  · rename_i frameCount file hpoll hwal
    have hnumber : frameCount = 0 → file.frames = [] := by
      have hcapture : r.CaptureOrderly := horderly
      simp only [CaptureOrderly, hpoll, hwal] at hcapture
      exact hcapture.1
    have hframes : r.walFrames = file.frames := by simp [walFrames, hwal]
    intro hcaptured
    change overlay r.db (((newest _).map _).getD []) = overlay r.db r.walFrames
    rw [newest_append_singleton]
    by_cases hpos : 0 < frameCount
    · simp [hpos, lib.recover_walBytes, hframes]
    · -- number 0 is passed over, but there are no frames either
      have hzero : frameCount = 0 := UInt64.le_zero_iff.mp (UInt64.not_lt.mp hpos)
      have hnone : file.frames = [] := hnumber hzero
      have hbefore : r.captured = true := by simpa [hnone] using hcaptured
      simpa [hpos, newestFrames, committed] using h hbefore
  · exact h
  · exact h

end Covered

end Replicator

/-! ## The snapshot `flush` uploads -/

namespace SnapshotUpload

variable {Page : Type} {s3 : Bucket Page} {answer : S3Answer}

/-- No metadata in preparation names a WAL sequence. -/
def Unnumbered : SnapshotUpload Page → Prop
  | .putting _ | .reading => True
  | .listing metadata | .updating metadata => metadata.latestWalSequence = none

lemma Unnumbered.step {upload upload' : SnapshotUpload Page} (h : upload.Unnumbered)
    (hs3 : s3.getMetadata.latestWalSequence = none)
    (hstep : (upload.step s3 answer).2 = .continues upload') : upload'.Unnumbered := by
  cases upload with
  | putting pages =>
    simp only [SnapshotUpload.step] at hstep
    split at hstep <;> cases hstep
    trivial
  | reading =>
    cases hstep
    change (if answer.ok then _ else _ : ReplicationMetadata).latestWalSequence = none
    split
    · exact hs3
    · rfl
  | listing metadata =>
    simp only [SnapshotUpload.step] at hstep
    split at hstep <;> cases hstep
    exact h
  | updating metadata =>
    simp only [SnapshotUpload.step] at hstep
    split at hstep <;> cases hstep

lemma Unnumbered.metadata_step {upload : SnapshotUpload Page} (h : upload.Unnumbered)
    (hs3 : s3.getMetadata.latestWalSequence = none) :
    (upload.step s3 answer).1.getMetadata.latestWalSequence = none := by
  cases upload with
  | putting pages =>
    simp only [SnapshotUpload.step, Bucket.putSnapshot]
    split <;> exact hs3
  | reading | listing => exact hs3
  | updating metadata =>
    simp only [SnapshotUpload.step, Bucket.putMetadata]
    split
    · exact h
    · exact hs3

/-- What is known of the pages that the upload is about to make the latest snapshot. -/
def Carries (P : Pages Page → Prop) (s3 : Bucket Page) : SnapshotUpload Page → Prop
  | .putting pages => P pages
  | .reading | .listing _ => ∃ key pages, BTreeMap.last? s3.snapshots = some (key, pages) ∧ P pages
  | .updating metadata => ∃ key pages, metadata.latestSnapshot = some key ∧
      s3.snapshots[key]? = some pages ∧ P pages

lemma Carries.mono {P Q : Pages Page → Prop} (hPQ : ∀ pages, P pages → Q pages)
    {upload : SnapshotUpload Page} (h : upload.Carries P s3) : upload.Carries Q s3 := by
  cases upload with
  | putting pages => exact hPQ pages h
  | reading | listing =>
    rcases h with ⟨key, pages, hlast, hpages⟩
    exact ⟨key, pages, hlast, hPQ pages hpages⟩
  | updating metadata =>
    rcases h with ⟨key, pages, hkey, hlookup, hpages⟩
    exact ⟨key, pages, hkey, hlookup, hPQ pages hpages⟩

variable {P : Pages Page → Prop} {upload upload' : SnapshotUpload Page}

lemma Carries.step (h : upload.Carries P s3) (hlatest : ∀ pages, upload = .putting pages →
      ∀ snapshot ∈ entries s3.snapshots, snapshot.1 ≤ answer.now)
    (hstep : (upload.step s3 answer).2 = .continues upload') :
    upload'.Carries P (upload.step s3 answer).1 := by
  cases upload with
  | putting pages =>
    simp only [SnapshotUpload.step] at hstep ⊢
    split at hstep
    · rename_i hok
      cases hstep
      refine ⟨answer.now, pages, ?_, h⟩
      have hwritten : answer.written = true := by simp [S3Answer.written, hok]
      simp only [Bucket.putSnapshot, hwritten, if_true]
      refine BTreeMap.last?_insert pages fun key other hkey => ?_
      exact Std.isLE_compare.mpr
        (hlatest pages rfl (key, other) ((mem_entries _).mpr hkey))
    · cases hstep
  | reading =>
    cases hstep
    exact h
  | listing metadata =>
    simp only [SnapshotUpload.step] at hstep ⊢
    split at hstep
    · cases hstep
      rcases h with ⟨key, pages, hlast, hpages⟩
      refine ⟨key, pages, ?_, BTreeMap.lookup_last hlast, hpages⟩
      simp [listed, Bucket.lastSnapshot, hlast]
    · cases hstep
  | updating metadata =>
    simp only [SnapshotUpload.step] at hstep
    split at hstep <;> cases hstep

lemma Carries.returned (h : upload.Carries P s3) (hstep : (upload.step s3 answer).2 = .returned) :
    ∃ pages, (upload.step s3 answer).1.downloadLatestSnapshot = .ok (some pages) ∧ P pages := by
  cases upload with
  | putting | listing =>
    simp only [SnapshotUpload.step] at hstep
    split at hstep <;> cases hstep
  | reading => cases hstep
  | updating metadata =>
    simp only [SnapshotUpload.step] at hstep ⊢
    split at hstep
    · rename_i hok
      rcases h with ⟨key, pages, hkey, hlookup, hpages⟩
      refine ⟨pages, ?_, hpages⟩
      have hwritten : answer.written = true := by simp [S3Answer.written, hok]
      simp [Bucket.putMetadata, hwritten, Bucket.downloadLatestSnapshot, Bucket.getMetadata,
        hkey, hlookup]
    · cases hstep

end SnapshotUpload

namespace Replicator

variable {Page : Type} {lib : SqliteLib Page} {json : EntryJson} {r r' : Replicator Page}

/-- Nobody has written a WAL sequence into the metadata, or is about to. -/
structure Unnumbered (r : Replicator Page) : Prop where
  stored : r.s3.getMetadata.latestWalSequence = none
  snapshot : ∀ upload, r.snapshot = .uploading upload → upload.Unnumbered
  flush : ∀ upload, r.flush = .snapshot upload → upload.Unnumbered

lemma getMetadata_uploadWalSegment (s3 : Bucket Page) (answer : S3Answer) (entry : CacheEntry) :
    (s3.uploadWalSegment answer entry).getMetadata = s3.getMetadata := by
  unfold Bucket.uploadWalSegment
  split <;> rfl

namespace Unnumbered

lemma of_eq (h : r.Unnumbered) (hs3 : r'.s3.getMetadata = r.s3.getMetadata)
    (hsnapshot : r'.snapshot = r.snapshot) (hflush : r'.flush = r.flush) : r'.Unnumbered where
  stored := hs3 ▸ h.stored
  snapshot := hsnapshot ▸ h.snapshot
  flush := hflush ▸ h.flush

/-- `flush` moves to a stage without an upload. -/
lemma of_flush (h : r.Unnumbered) (hs3 : r'.s3.getMetadata = r.s3.getMetadata)
    (hsnapshot : r'.snapshot = r.snapshot) (hflush : ∀ upload, r'.flush ≠ .snapshot upload) :
    r'.Unnumbered where
  stored := hs3 ▸ h.stored
  snapshot := hsnapshot ▸ h.snapshot
  flush upload hupload := absurd hupload (hflush upload)

lemma flushStep (h : r.Unnumbered) (answer : S3Answer) : (r.flushStep answer).Unnumbered := by
  unfold Replicator.flushStep
  split
  case h_1 =>
    refine ⟨h.stored, h.snapshot, fun upload hupload => ?_⟩
    cases hupload
    trivial
  case h_2 upload hflush =>
    have hupload := h.flush upload hflush
    refine ⟨hupload.metadata_step h.stored, h.snapshot, fun upload' hupload' => ?_⟩
    cases hresult : (upload.step r.s3 answer).2 with
    | continues rest =>
      simp only [hresult, FlushStage.snapshot.injEq] at hupload'
      exact hupload' ▸ hupload.step h.stored hresult
    | returned | failed => simp [hresult] at hupload'
  case h_3 => split <;> exact h.of_flush rfl rfl (by simp)
  case h_4 entry _ =>
    refine h.of_flush (getMetadata_uploadWalSegment ..) rfl fun upload => ?_
    split <;> simp
  case h_5 => exact h.of_flush rfl rfl (by simp)
  all_goals exact h

lemma next (h : r.Unnumbered) (event : Event Page) : (r.next lib json event).Unnumbered := by
  cases event with
  | commit frames =>
    simp only [Replicator.next, commit]
    split <;> exact h.of_eq rfl rfl rfl
  | checkpoint | monitorStep | workerStep => exact h.of_eq rfl rfl rfl
  | pollBegin | pollCheck | pollCount | workerBegin | workerPop | pollRead =>
    simp only [Replicator.next, pollRead]
    split <;> exact h.of_eq rfl rfl rfl
  | workerUpload answer =>
    simp only [Replicator.next, workerUpload]
    split
    · exact h.of_eq (getMetadata_uploadWalSegment ..) rfl rfl
    · exact h
  | snapshotBegin =>
    simp only [Replicator.next]
    split
    · split
      · exact ⟨h.stored, fun _ hupload => absurd hupload (by simp), h.flush⟩
      · exact h
    · exact h
  | snapshotRead =>
    simp only [Replicator.next]
    split
    · refine ⟨h.stored, fun upload hupload => ?_, h.flush⟩
      cases hupload
      trivial
    · exact h
  | snapshotStep answer =>
    simp only [Replicator.next, snapshotStep]
    split
    · rename_i upload hsnapshot
      have hupload := h.snapshot upload hsnapshot
      refine ⟨hupload.metadata_step h.stored, fun upload' hupload' => ?_, h.flush⟩
      cases hresult : (upload.step r.s3 answer).2 with
      | continues rest =>
        simp only [hresult, SnapshotStage.uploading.injEq] at hupload'
        exact hupload' ▸ hupload.step h.stored hresult
      | returned | failed => simp [hresult] at hupload'
    · exact h
  | flushBegin =>
    simp only [Replicator.next]
    split
    case h_4 => exact h
    all_goals exact h.of_flush rfl rfl (by simp)
  | flushStep answer => exact h.flushStep answer

end Unnumbered

/-! ## The stages of `flush` -/

/-- `flush` runs alone: the tasks are at rest and will not start again. -/
def Stopped (r : Replicator Page) : Prop :=
  r.running = false ∧ r.AtRest

def Event.isTask : Event Page → Bool
  | .commit _ | .checkpoint _ | .flushBegin | .flushStep _ => false
  | .pollBegin | .pollCheck | .pollCount | .pollRead _ | .monitorStep | .workerBegin | .workerPop
  | .workerUpload _ | .workerStep | .snapshotBegin | .snapshotRead | .snapshotStep _ => true

variable {event : Event Page}

lemma next_of_stopped (h : r.Stopped) (hevent : event.isTask = true) :
    r.next lib json event = r := by
  rcases r with ⟨db, wal, running, monitor, poll, tasks, popping, snapshot, flush, s3, captures,
    captured⟩
  rcases tasks with ⟨cache, add, worker, numbers, uploaded⟩
  rcases h with ⟨hrunning, hpoll, hadd, hworker, hpopping, hsnapshot⟩
  cases hrunning
  cases hpoll
  cases hadd
  cases hpopping
  cases worker with
  | idle =>
    cases snapshot with
    | waiting => cases event <;> first | rfl | cases hevent
    | reading | uploading => cases hsnapshot
  | uploading | removing | readding => cases hworker

variable (lib json) in
lemma flush_next_of_isTask (r : Replicator Page) {event : Event Page}
    (hevent : event.isTask = true) : (r.next lib json event).flush = r.flush := by
  cases event with
  | commit | checkpoint | flushBegin | flushStep => cases hevent
  | monitorStep | workerStep => rfl
  | pollBegin | pollCheck | pollCount | workerBegin | workerPop | snapshotRead | pollRead
  | workerUpload | snapshotStep =>
    simp only [next, pollRead, workerUpload, snapshotStep]
    split <;> rfl
  | snapshotBegin =>
    simp only [next]
    split
    · split <;> rfl
    · rfl

/-- The latest snapshot in S3 is one the newest segment completes. -/
def SnapshotCovered (lib : SqliteLib Page) (r : Replicator Page) : Prop :=
  ∃ pages, r.s3.downloadLatestSnapshot = .ok (some pages) ∧ r.Covers lib pages

def Flushed (lib : SqliteLib Page) (r : Replicator Page) : Prop :=
  match r.flush with
  | .idle | .failed => True
  | .reading => r.Stopped
  | .snapshot upload => r.Stopped ∧ upload.Carries (r.Covers lib) r.s3
  | .draining | .uploading _ | .removing _ => r.Stopped ∧ r.SnapshotCovered lib
  | .done => r.Stopped ∧ r.SnapshotCovered lib ∧ r.tasks.cache.entries = []

namespace Flushed

/-- Steps of the database while `flush` runs. -/
lemma of_covers (h : r.Flushed lib) (hflush : r'.flush = r.flush) (hs3 : r'.s3 = r.s3)
    (htasks : r'.tasks = r.tasks) (hstopped : r.Stopped → r'.Stopped)
    (hcovers : ∀ pages, r.Covers lib pages → r'.Covers lib pages) : r'.Flushed lib := by
  have hsnapshot : r.SnapshotCovered lib → r'.SnapshotCovered lib := by
    rintro ⟨pages, hlatest, hpages⟩
    exact ⟨pages, hs3 ▸ hlatest, hcovers pages hpages⟩
  unfold Flushed at h ⊢
  rw [hflush]
  generalize r.flush = stage at h ⊢
  cases stage with
  | idle | failed => trivial
  | reading => exact hstopped h
  | snapshot upload => exact ⟨hstopped h.1, hs3 ▸ h.2.mono hcovers⟩
  | draining | uploading | removing => exact ⟨hstopped h.1, hsnapshot h.2⟩
  | done => exact ⟨hstopped h.1, hsnapshot h.2.1, htasks ▸ h.2.2⟩

/-- Before `flush` and after a failed one nothing is known; otherwise it runs alone. -/
lemma idle_or_stopped (h : r.Flushed lib) : r.flush = .idle ∨ r.flush = .failed ∨ r.Stopped := by
  unfold Flushed at h
  split at h
  · rename_i hflush
    exact .inl hflush
  · rename_i hflush
    exact .inr (.inl hflush)
  · exact .inr (.inr h)
  all_goals exact .inr (.inr h.1)

/-- Steps of the tasks: none of them does anything while `flush` runs. -/
lemma of_isTask (h : r.Flushed lib) {event : Event Page} (hevent : event.isTask = true) :
    (r.next lib json event).Flushed lib := by
  have hflush := flush_next_of_isTask lib json r hevent
  rcases h.idle_or_stopped with hidle | hfailed | hstopped
  · simp [Flushed, hflush, hidle]
  · simp [Flushed, hflush, hfailed]
  · rwa [next_of_stopped hstopped hevent]

lemma flushStep (h : r.Flushed lib) (hcovers : r.Covers lib r.db) {answer : S3Answer}
    (horderly : r.FlushStepOrderly answer) : (r.flushStep answer).Flushed lib := by
  have hstage := h
  unfold Flushed at hstage
  unfold Replicator.flushStep
  split
  all_goals
    rename_i hflush
    simp only [hflush] at hstage
  case h_1 => exact ⟨hstage, hcovers⟩
  case h_2 upload =>
    have hlatest : ∀ pages, upload = .putting pages →
        ∀ snapshot ∈ entries r.s3.snapshots, snapshot.1 ≤ answer.now := by
      rintro pages rfl
      simpa only [FlushStepOrderly, hflush] using horderly
    unfold Flushed
    cases hresult : (upload.step r.s3 answer).2 with
    | continues rest => exact ⟨hstage.1, hstage.2.step hlatest hresult⟩
    | returned => exact ⟨hstage.1, hstage.2.returned hresult⟩
    | failed => trivial
  case h_3 =>
    simp only [WriteCache.popOldest]
    cases hentries : r.tasks.cache.entries with
    | nil => exact ⟨hstage.1, hstage.2, hentries⟩
    | cons entry rest => exact hstage
  case h_4 entry =>
    by_cases hok : answer.ok = true
    · rcases hstage.2 with ⟨pages, hlatest, hpages⟩
      simp only [hok, if_true]
      refine ⟨hstage.1, pages, Eq.trans ?_ hlatest, hpages⟩
      unfold Bucket.uploadWalSegment
      split <;> rfl
    · simp [Flushed, hok]
  case h_5 => exact hstage
  all_goals exact h

end Flushed

/-! ## Every run -/

structure Sound (lib : SqliteLib Page) (r : Replicator Page) : Prop where
  accounted : r.Accounted
  unnumbered : r.Unnumbered
  covered : r.Covers lib r.db
  flushed : r.Flushed lib

/-- The database, its WAL and the captures change by commits, checkpoints and captures only. -/
lemma covers_db_next (h : r.Covers lib r.db) (horderly : r.Orderly event) :
    (r.next lib json event).Covers lib (r.next lib json event).db := by
  cases event with
  | commit frames =>
    have hdb : (r.commit frames).db = r.db := by
      unfold commit
      split <;> rfl
    change (r.commit frames).Covers lib (r.commit frames).db
    rw [hdb]
    exact h.commit frames
  | checkpoint mode =>
    intro hcaptured
    change overlay _ _ = (r.checkpoint mode).committed
    rw [committed_checkpoint]
    exact overlay_of_overlay_eq (h hcaptured)
  | pollRead now => exact covers_db_pollRead h horderly
  | monitorStep | workerStep => exact h
  | pollBegin | pollCheck | pollCount | workerBegin | workerPop | snapshotRead | flushBegin
  | workerUpload | snapshotStep =>
    simp only [next, workerUpload, snapshotStep]
    split <;> exact h
  | snapshotBegin =>
    simp only [next]
    split
    · split <;> exact h
    · exact h
  | flushStep answer =>
    simp only [next, flushStep]
    split
    case h_3 => split <;> exact h
    all_goals exact h

lemma flushed_next (h : r.Sound lib) (horderly : r.Orderly event) :
    (r.next lib json event).Flushed lib := by
  cases event with
  | commit frames =>
    have hcovers : ∀ pages, r.Covers lib pages → (r.commit frames).Covers lib pages :=
      fun pages hpages => hpages.commit frames
    simp only [next]
    by_cases hempty : frames.isEmpty = true
    · simpa [commit, hempty] using h.flushed
    · simp only [commit, hempty] at hcovers ⊢
      exact h.flushed.of_covers rfl rfl rfl id hcovers
  | checkpoint mode =>
    exact h.flushed.of_covers rfl rfl rfl id fun pages hpages => hpages.checkpoint mode
  | flushBegin =>
    simp only [next]
    split
    case h_4 => exact h.flushed
    all_goals exact ⟨rfl, horderly⟩
  | flushStep answer => exact h.flushed.flushStep h.covered horderly
  | pollBegin | pollCheck | pollCount | pollRead | monitorStep | workerBegin | workerPop
  | workerUpload | workerStep | snapshotBegin | snapshotRead | snapshotStep =>
    exact h.flushed.of_isTask rfl

lemma Sound.next (h : r.Sound lib) (horderly : r.Orderly event) :
    (r.next lib json event).Sound lib where
  accounted := h.accounted.next horderly
  unnumbered := h.unnumbered.next event
  covered := covers_db_next h.covered horderly
  flushed := flushed_next h horderly

lemma sound_start (lib : SqliteLib Page) (db : Pages Page) (wal : Option (WalFile Page))
    (dir : CacheDir) (maxSize : Nat) : (start lib db wal dir maxSize).Sound lib where
  accounted := ⟨Tracked.nil, fun hpoll => absurd rfl hpoll⟩
  unnumbered := ⟨rfl, fun _ h => absurd h (by simp [start]), fun _ h => absurd h (by simp [start])⟩
  covered hcaptured := by
    have hnone : (start lib db wal dir maxSize).walFrames = [] := isEmpty_iff.mp hcaptured
    rw [committed, hnone]
    rfl
  flushed := trivial

/-! ## What `restore` finds -/

/-- The last segment downloaded is the newest one, if it is stored and no other has a greater
number. -/
lemma getLast?_downloadWalSegmentsSince {captures held : List Segment} {s3 : Bucket Page}
    (h : Tracked captures held s3.wal)
    (hstored : ∀ segment, newest captures = some segment →
      s3.wal[segment.1]? = some segment.2) :
    (s3.downloadWalSegmentsSince 0).getLast? = newest captures := by
  have hmem (segment : Segment) : segment ∈ s3.downloadWalSegmentsSince 0 ↔
      s3.wal[segment.1]? = some segment.2 ∧ 0 < segment.1 := by
    rw [Bucket.downloadWalSegmentsSince, mem_insertionSort, mem_filter,
      mem_entries]
    simp
  have htotal : Std.Total fun a b : Segment => a.1 ≤ b.1 :=
    ⟨fun a b => UInt64.le_total a.1 b.1⟩
  have htrans : IsTrans Segment fun a b => a.1 ≤ b.1 := ⟨fun _ _ _ => UInt64.le_trans⟩
  have hsorted : (s3.downloadWalSegmentsSince 0).Pairwise fun a b => a.1 ≤ b.1 :=
    pairwise_insertionSort _ _
  cases hnewest : newest captures with
  | none =>
    -- nothing with a positive number was captured, so nothing is stored
    have hnil := getLast?_eq_none_iff.mp hnewest
    refine getLast?_eq_none_iff.mpr (eq_nil_iff_forall_not_mem.mpr fun segment hin => ?_)
    have hfound := (hmem segment).mp hin
    have hnot := filter_eq_nil_iff.mp hnil segment (h.stored_captured hfound.1)
    exact hnot (by simpa using hfound.2)
  | some segment =>
    have hpos := (mem_of_newest hnewest).2
    have hin := (hmem segment).mpr ⟨hstored segment hnewest, hpos⟩
    cases hlast : (s3.downloadWalSegmentsSince 0).getLast? with
    | none =>
      rw [getLast?_eq_none_iff.mp hlast] at hin
      cases hin
    | some last =>
      have hfound := (hmem last).mp (mem_of_getLast? hlast)
      rcases h.le_newest hnewest (h.stored_captured hfound.1) hfound.2 with rfl | hlt
      · rfl
      · rcases getLast?_eq_some_iff.mp hlast with ⟨before, hbefore⟩
        rw [hbefore] at hin hsorted
        rcases mem_append.mp hin with hearlier | hsame
        · have hle := (pairwise_append.mp hsorted).2.2 segment hearlier last (by simp)
          exact absurd hlt (UInt64.not_lt.mpr hle)
        · exact congrArg some (mem_singleton.mp hsame).symm

/-- After a successful `flush` no segment is left in anyone's hands. -/
lemma held_of_done (h : r.Flushed lib) (hdone : r.flush = .done) : r.held = [] := by
  unfold Flushed at h
  simp only [hdone] at h
  rcases h with ⟨⟨_, _, hmonitor, hworker, _⟩, _, hentries⟩
  have hidle : r.tasks.worker = .idle := by
    cases hstage : r.tasks.worker <;> simp_all [WorkerStage.isIdle]
  simp [held, FlushStage.segments, UploadTasks.held, UploadTasks.WorkerStage.segments,
    UploadTasks.queuedSegments, UploadTasks.callSegments, hdone, hidle, hmonitor, hentries]

lemma Sound.restore_eq (h : r.Sound lib) (hdone : r.flush = .done)
    (hcaptured : r.captured = true) : r.s3.restore lib = .ok (some r.committed) := by
  have hflushed := h.flushed
  unfold Flushed at hflushed
  simp only [hdone] at hflushed
  rcases hflushed.2.1 with ⟨pages, hlatest, hpages⟩
  have hlast : (r.s3.downloadWalSegmentsSince 0).getLast? = newest r.captures := by
    refine getLast?_downloadWalSegmentsSince h.accounted.tracked fun segment hnewest => ?_
    rcases h.accounted.tracked.newest_kept segment hnewest with hheld | hstored
    · rw [held_of_done h.flushed hdone] at hheld
      cases hheld
    · exact hstored
  have hrestored : Bucket.applyWalSegments lib pages (r.s3.downloadWalSegmentsSince 0) =
      overlay pages (r.newestFrames lib) := by
    rw [Bucket.applyWalSegments, hlast, newestFrames]
    cases newest r.captures <;> rfl
  simp only [Bucket.restore, hlatest, h.unnumbered.stored, Option.getD_none]
  rw [hrestored, hpages hcaptured]

/-- In a run in which frame counts keep increasing, nothing is lost from the cache and `flush`
starts while the tasks are at rest, `restore` gives back what was committed when `flush`
returned. -/
theorem restore_of_orderly (lib : SqliteLib Page) (json : EntryJson) (db : Pages Page)
    (wal : Option (WalFile Page)) (dir : CacheDir) (maxSize : Nat) (events : List (Event Page))
    (h : Machine.Along (next lib json) Orderly (start lib db wal dir maxSize) events)
    (hdone : (events.foldl (next lib json) (start lib db wal dir maxSize)).flush = .done)
    (hcaptured : (events.foldl (next lib json) (start lib db wal dir maxSize)).captured = true) :
    (events.foldl (next lib json) (start lib db wal dir maxSize)).s3.restore lib =
      .ok (some (events.foldl (next lib json) (start lib db wal dir maxSize)).committed) := by
  have hsound : (events.foldl (next lib json) (start lib db wal dir maxSize)).Sound lib :=
    h.invariant (I := Sound lib) (fun _ _ hs horderly => hs.next horderly)
      (sound_start lib db wal dir maxSize)
  exact hsound.restore_eq hdone hcaptured

end Replicator

/-! ## Pages of one byte value

SQLite's format for databases whose pages are filled with one byte each: a header of 32 bytes, then
frames of a header with the page number and a salt, and 512 bytes of contents.  Frames with a salt
other than the header's belong to an earlier log.
-/

namespace FilledPages

def walHeader : List UInt8 :=
  [0x37, 0x7f, 0x06, 0x82, 0x00, 0x2d, 0xe2, 0x18, 0x00, 0x00, 0x02, 0x00] ++
    replicate 7 0 ++ [1] ++ replicate 12 0

def toBeBytes (n : UInt32) : List UInt8 :=
  [UInt8.ofNat (n.toNat / 2 ^ 24), UInt8.ofNat (n.toNat / 2 ^ 16), UInt8.ofNat (n.toNat / 2 ^ 8),
    UInt8.ofNat n.toNat]

lemma u32At_toBeBytes (n : UInt32) (rest : List UInt8) :
    u32At (toBeBytes n ++ rest) 0 = n.toNat := by
  have hn : n.toNat < 2 ^ 32 := n.toNat_lt
  simp only [u32At, toBeBytes, drop_zero, cons_append, nil_append,
    take_succ_cons,
    take_zero, foldl_cons, foldl_nil, UInt8.toNat_ofNat']
  omega

def frameBytes (salt : UInt8) (frame : Frame UInt8) : List UInt8 :=
  toBeBytes frame.1 ++ (replicate 7 0 ++ (salt :: (replicate 12 0 ++
    replicate 512 frame.2)))

lemma length_frameBytes (salt : UInt8) (frame : Frame UInt8) :
    (frameBytes salt frame).length = 536 := by
  simp only [frameBytes, toBeBytes, length_append, length_cons, length_replicate,
    length_nil]

def walBytes (wal : WalFile UInt8) : List UInt8 :=
  if wal.frames.isEmpty && wal.leftover.isEmpty then
    []
  else
    walHeader ++ (wal.frames.flatMap (frameBytes 1) ++ wal.leftover.flatMap (frameBytes 0))

def recoverFrames : Nat → List UInt8 → List (Frame UInt8)
  | 0, _ => []
  | fuel + 1, bytes =>
    match bytes.drop 11, bytes.drop 24 with
    | salt :: _, content :: _ =>
      if salt = 1 then
        (UInt32.ofNat (u32At bytes 0), content) :: recoverFrames fuel (bytes.drop 536)
      else
        []
    | _, _ => []

def recover (bytes : List UInt8) : List (Frame UInt8) :=
  recoverFrames bytes.length (bytes.drop 32)

lemma recoverFrames_cons (fuel : Nat) (salt : UInt8) (frame : Frame UInt8) (rest : List UInt8) :
    recoverFrames (fuel + 1) (frameBytes salt frame ++ rest) =
      if salt = 1 then frame :: recoverFrames fuel rest else [] := by
  have hnumber : UInt32.ofNat (u32At (frameBytes salt frame ++ rest) 0) = frame.1 := by
    rw [frameBytes, append_assoc, u32At_toBeBytes, UInt32.ofNat_toNat]
  have hrest : (frameBytes salt frame ++ rest).drop 536 = rest :=
    drop_left' (length_frameBytes salt frame)
  rw [recoverFrames, hnumber, hrest]
  rfl

lemma recoverFrames_flatMap (frames leftover : List (Frame UInt8)) (fuel : Nat)
    (hfuel : frames.length < fuel) :
    recoverFrames fuel (frames.flatMap (frameBytes 1) ++ leftover.flatMap (frameBytes 0)) =
      frames := by
  induction frames generalizing fuel with
  | nil =>
    cases fuel with
    | zero => cases hfuel
    | succ fuel =>
      cases leftover with
      | nil => rfl
      | cons frame leftover =>
        rw [flatMap_nil, nil_append, flatMap_cons, recoverFrames_cons]
        rfl
  | cons frame frames ih =>
    cases fuel with
    | zero => cases hfuel
    | succ fuel =>
      rw [flatMap_cons, append_assoc, recoverFrames_cons, if_pos rfl]
      exact congrArg (frame :: ·) (ih fuel (Nat.lt_of_succ_lt_succ hfuel))

lemma length_le_flatMap (frames : List (Frame UInt8)) :
    frames.length ≤ (frames.flatMap (frameBytes 1)).length := by
  induction frames with
  | nil => exact Nat.le_refl 0
  | cons frame frames ih =>
    simp only [flatMap_cons, length_append, length_cons, length_frameBytes]
    omega

lemma recover_walBytes (wal : WalFile UInt8) : recover (walBytes wal) = wal.frames := by
  unfold walBytes
  split
  · rename_i hempty
    have hframes : wal.frames = [] := by
      simp only [Bool.and_eq_true, List.isEmpty_iff] at hempty
      exact hempty.1
    rw [hframes]
    rfl
  · have hdrop (body : List UInt8) : (walHeader ++ body).drop 32 = body := by
      simp [walHeader]
    have hheader : walHeader.length = 32 := by simp [walHeader]
    have hlength := length_le_flatMap wal.frames
    rw [recover, hdrop]
    refine recoverFrames_flatMap _ _ _ ?_
    simp only [length_append, hheader]
    omega

def sqlite : SqliteLib UInt8 where
  walBytes := walBytes
  recover := recover
  recover_walBytes := recover_walBytes

end FilledPages

namespace Replicator

/-! ## Runs -/

def FlushStage.isDone {Page : Type} : FlushStage Page → Bool
  | .done => true
  | _ => false

lemma eq_done_of_isDone {Page : Type} {stage : FlushStage Page} (h : FlushStage.isDone stage) :
    stage = .done := by
  cases stage with
  | done => rfl
  | _ => cases h

def polled : List (Event UInt8) :=
  [.pollBegin, .pollCheck, .pollCount, .pollRead 0] ++ replicate 4 .monitorStep

def stored (now : Int) : S3Answer where
  ok := true
  stored := true
  now := now

def uploaded : List (Event UInt8) :=
  [.workerBegin, .workerPop, .workerUpload (stored 0), .workerStep]

def flushed (now : Int) (segments : Nat) : List (Event UInt8) :=
  .flushBegin :: replicate (6 + 3 * segments) (.flushStep (stored now))

def freshPages : Pages UInt8 :=
  ((∅ : Pages UInt8).insert 1 0).insert 2 0

abbrev fresh : Replicator UInt8 :=
  start FilledPages.sqlite freshPages none ∅ 10000

/-- Two commits, captured as segments 1 and 2; a checkpoint that keeps the file; a periodic
snapshot; and `flush` with the second segment still in the queue. -/
def growingLog : List (Event UInt8) :=
  .commit [(1, 5)] :: (polled ++ (uploaded ++ .commit [(2, 6)] :: (polled ++
    .checkpoint .restart :: .snapshotBegin :: .snapshotRead ::
      (replicate 4 (.snapshotStep (stored 1)) ++ flushed 2 1))))

theorem restore_of_growingLog :
    Machine.Along (next FilledPages.sqlite .first) Orderly fresh growingLog ∧
      (growingLog.foldl (next FilledPages.sqlite .first) fresh).flush = .done ∧
      (growingLog.foldl (next FilledPages.sqlite .first) fresh).captured = true ∧
      (growingLog.foldl (next FilledPages.sqlite .first) fresh).s3.restore FilledPages.sqlite =
        .ok (some (growingLog.foldl (next FilledPages.sqlite .first) fresh).committed) :=
  have horderly : Machine.Along (next FilledPages.sqlite .first) Orderly fresh growingLog := by
    decide +kernel
  have hdone : (growingLog.foldl (next FilledPages.sqlite .first) fresh).flush = .done :=
    eq_done_of_isDone (by decide +kernel)
  have hcaptured : (growingLog.foldl (next FilledPages.sqlite .first) fresh).captured = true := by
    decide +kernel
  ⟨horderly, hdone, hcaptured,
    restore_of_orderly FilledPages.sqlite .first freshPages none ∅ 10000 growingLog horderly hdone
      hcaptured⟩

/-- A commit of two pages is captured as segment 2.  A checkpoint removes the log, and the next
commit, of one page, is captured as segment 1. -/
def restartedLog : List (Event UInt8) :=
  .commit [(1, 5), (2, 6)] :: (polled ++ (uploaded ++
    .checkpoint .remove :: .pollBegin :: .pollCheck :: .pollRead 0 :: .commit [(1, 7)] ::
      (polled ++ (uploaded ++ flushed 2 0))))

def restarted : Replicator UInt8 :=
  restartedLog.foldl (next FilledPages.sqlite .first) fresh

/-- Segment 2 is laid over the snapshot and page 1 goes back to what it was before the last
commit. -/
theorem restarted_log_loses_commit : restarted.flush = .done ∧ restarted.captured = true ∧
      (restarted.s3.restore FilledPages.sqlite).map
          (Option.map fun pages => pages[(1 : UInt32)]?) = .ok (some (some 5)) ∧
      restarted.committed[(1 : UInt32)]? = some 7 :=
  ⟨eq_done_of_isDone (by decide +kernel), by decide +kernel, by decide +kernel, by decide +kernel⟩

end Replicator

end ZLayer.Storage
