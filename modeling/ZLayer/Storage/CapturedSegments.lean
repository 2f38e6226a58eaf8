import ZLayer.Storage.Replicator

/-!
# CapturedSegments — where the segments of the replicator are

A segment that the monitor has captured is in its hands, in the queue, with the upload worker, with
`flush` or in S3.  It leaves that circle only by an eviction or a `flush` that fails on it.  As long
as frame counts keep increasing, the segment captured last stays the one with the greatest number.

`Tracked` says this of any list of captures, of what is held and of what is stored; the steps of
the tasks and of `flush` are then moves between the hands, uploads and new captures.
-/

namespace ZLayer.Storage

open Lib WriteLog WriteCache List HashMap

abbrev Segment := UInt64 × List UInt8

def CacheEntry.segment (entry : CacheEntry) : Segment :=
  (entry.sequence, entry.data)

/-- The segment captured last among those `restore` looks at; number 0 is passed over. -/
def newest (captures : List Segment) : Option Segment :=
  (captures.filter fun segment => 0 < segment.1).getLast?

lemma newest_append_singleton (captures : List Segment) (segment : Segment) :
    newest (captures ++ [segment]) = if 0 < segment.1 then some segment else newest captures := by
  by_cases hpos : 0 < segment.1
  · simp [newest, filter_append, hpos]
  · simp [newest, filter_append, hpos]

lemma mem_of_newest {captures : List Segment} {segment : Segment}
    (h : newest captures = some segment) : segment ∈ captures ∧ 0 < segment.1 := by
  have hmem := mem_of_getLast? h
  simpa using mem_filter.mp hmem

/-! ## Where the captured segments are -/

/-- Captured segments have different, increasing numbers, nothing else is held or stored, and the
newest is not lost. -/
structure Tracked (captures held : List Segment) (stored : HashMap UInt64 (List UInt8)) :
    Prop where
  increasing : (captures.filter fun segment => 0 < segment.1).Pairwise fun a b => a.1 < b.1
  held_captured : ∀ segment ∈ held, segment ∈ captures
  stored_captured : ∀ {number data}, stored[number]? = some data → (number, data) ∈ captures
  newest_kept : ∀ segment, newest captures = some segment →
    segment ∈ held ∨ stored[segment.1]? = some segment.2

/-- Segments move between the tasks; those that are not spared may be dropped. -/
structure Moves (spared : Segment → Prop) (held held' : List Segment) : Prop where
  sub : ∀ segment ∈ held', segment ∈ held
  keep : ∀ segment ∈ held, spared segment → segment ∈ held'

namespace Moves

variable {spared : Segment → Prop} {held held' : List Segment}

lemma of_eq (h : held' = held) : Moves spared held held' :=
  ⟨fun _ => h ▸ id, fun _ hmem _ => h ▸ hmem⟩

lemma append_left (h : Moves spared held held') (front : List Segment) :
    Moves spared (front ++ held) (front ++ held') where
  sub segment hmem := mem_append.mpr ((mem_append.mp hmem).imp_right (h.sub segment))
  keep segment hmem hspared :=
    mem_append.mpr ((mem_append.mp hmem).imp_right fun hheld => h.keep segment hheld hspared)

end Moves

namespace Tracked

variable {captures held held' : List Segment} {stored : HashMap UInt64 (List UInt8)}

lemma nil : Tracked [] [] ∅ where
  increasing := List.Pairwise.nil
  held_captured _ hmem := absurd hmem not_mem_nil
  stored_captured h := by simp at h
  newest_kept _ h := by cases h

/-- A captured segment is the newest one or has a smaller number. -/
lemma le_newest (h : Tracked captures held stored) {segment other : Segment}
    (hnewest : newest captures = some segment) (hmem : other ∈ captures) (hpos : 0 < other.1) :
    other = segment ∨ other.1 < segment.1 := by
  rcases List.getLast?_eq_some_iff.mp hnewest with ⟨before, hbefore⟩
  have hother : other ∈ before ++ [segment] := by
    rw [← hbefore]
    exact mem_filter.mpr ⟨hmem, by simpa using hpos⟩
  have hincreasing := h.increasing
  rw [hbefore, pairwise_append] at hincreasing
  rcases mem_append.mp hother with hearlier | hlast
  · exact .inr (hincreasing.2.2 other hearlier segment (by simp))
  · exact .inl (mem_singleton.mp hlast)

variable {segment : Segment}

/-- A segment that is captured joins those held. -/
lemma capture (h : Tracked captures held stored)
    (hnumber : 0 < segment.1 → ∀ earlier ∈ captures, earlier.1 < segment.1)
    (hheld : ∀ other, other ∈ held' ↔ other ∈ held ∨ other = segment) :
    Tracked (captures ++ [segment]) held' stored where
  increasing := by
    rw [filter_append, pairwise_append]
    refine ⟨h.increasing, by by_cases hpos : 0 < segment.1 <;> simp [hpos], ?_⟩
    intro earlier hearlier later hlater
    have hnew : later = segment ∧ 0 < later.1 := by simpa using hlater
    rcases hnew with ⟨rfl, hpos⟩
    exact hnumber hpos earlier (mem_filter.mp hearlier).1
  held_captured other hother := by
    rcases (hheld other).mp hother with hold | hnew
    · exact mem_append_left _ (h.held_captured other hold)
    · exact mem_append_right _ (mem_singleton.mpr hnew)
  stored_captured hstored := mem_append_left _ (h.stored_captured hstored)
  newest_kept other hother := by
    rw [newest_append_singleton] at hother
    by_cases hpos : 0 < segment.1
    · rw [if_pos hpos] at hother
      have hsame : other = segment := (Option.some.inj hother).symm
      exact .inl ((hheld other).mpr (.inr hsame))
    · rw [if_neg hpos] at hother
      rcases h.newest_kept other hother with hold | hstored
      · exact .inl ((hheld other).mpr (.inl hold))
      · exact .inr hstored

lemma move (h : Tracked captures held stored) {spared : Segment → Prop}
    (hmoves : Moves spared held held')
    (hspared : ∀ segment, newest captures = some segment → spared segment) :
    Tracked captures held' stored where
  increasing := h.increasing
  held_captured segment hmem := h.held_captured segment (hmoves.sub segment hmem)
  stored_captured hstored := h.stored_captured hstored
  newest_kept segment hnewest := by
    rcases h.newest_kept segment hnewest with hheld | hstored
    · exact .inl (hmoves.keep segment hheld (hspared segment hnewest))
    · exact .inr hstored

/-- A held segment is stored; nobody has to hold it any longer. -/
lemma store (h : Tracked captures held stored)
    (hheld : ∀ other, other ∈ held ↔ other ∈ held' ∨ other = segment) :
    Tracked captures held' (stored.insert segment.1 segment.2) where
  increasing := h.increasing
  held_captured other hother := h.held_captured other ((hheld other).mpr (.inl hother))
  stored_captured := by
    intro number data hstored
    rcases of_lookup_insert hstored with ⟨rfl, rfl⟩ | ⟨-, hold⟩
    · exact h.held_captured segment ((hheld segment).mpr (.inr rfl))
    · exact h.stored_captured hold
  newest_kept other hother := by
    by_cases hnumber : segment.1 = other.1
    · -- numbers are different, so it is the newest that has just been stored
      have hpos : 0 < segment.1 := hnumber ▸ (mem_of_newest hother).2
      have hmem : segment ∈ captures := h.held_captured segment ((hheld segment).mpr (.inr rfl))
      rcases h.le_newest hother hmem hpos with rfl | hlt
      · exact .inr (by rw [lookup_insert, if_pos rfl])
      · exact absurd hnumber (UInt64.ne_of_lt hlt)
    · rw [lookup_insert_of_ne _ _ hnumber]
      rcases h.newest_kept other hother with hold | hstored
      · rcases (hheld other).mp hold with hheld' | rfl
        · exact .inl hheld'
        · exact absurd rfl hnumber
      · exact .inr hstored

end Tracked

/-! ## The segments in the hands of the tasks -/

namespace UploadTasks

def queuedSegments (cache : WriteCache) : List Segment :=
  cache.entries.map CacheEntry.segment

def callSegments : Option Adding → List Segment
  | some call => [call.entry.segment]
  | none => []

def WorkerStage.segments : WorkerStage → List Segment
  | .uploading entry => [entry.segment]
  | .readding call => [call.entry.segment]
  | .idle | .removing _ => []

def held (s : UploadTasks) : List Segment :=
  WorkerStage.segments s.worker ++ (queuedSegments s.cache ++ callSegments s.monitor)

/-- An `add` call that finds the cache full does not evict the given segment. -/
def Spares (segment : Option Segment) (cache : WriteCache) (call : Adding) : Prop :=
  call.stage = .evicting → cache.currentSize + call.entry.size > cache.maxSize →
    ∀ entry ∈ cache.entries.head?, some entry.segment ≠ segment

instance (segment : Option Segment) (cache : WriteCache) (call : Adding) :
    Decidable (Spares segment cache call) :=
  inferInstanceAs (Decidable (_ → _ → _))

variable (json : EntryJson)

/-- A step of an `add` call drops at most the segment it evicts. -/
lemma addStep_moves (cache : WriteCache) (call : Adding) :
    Moves (fun segment => Spares (some segment) cache call)
      (queuedSegments cache ++ [call.entry.segment])
      (queuedSegments (cache.addStep json call).1 ++ callSegments (cache.addStep json call).2) := by
  rcases call with ⟨entry, stage⟩
  cases stage with
  | evicting =>
    simp only [addStep, popOldestInternal, popOldest]
    split
    next hfull =>
      cases hentries : cache.entries with
      | nil => exact .of_eq (by simp [hentries, queuedSegments, callSegments])
      | cons oldest rest =>
        rw [queuedSegments, hentries]
        refine ⟨fun _ => mem_cons_of_mem _, fun segment hmem hspares => ?_⟩
        rcases mem_cons.mp hmem with rfl | hrest
        · exact absurd rfl (hspares rfl hfull oldest (by simp [hentries]))
        · exact hrest
    · exact .of_eq rfl
  | dropping | creating | writing => exact .of_eq rfl
  | queueing => exact .of_eq (by simp [addStep, pushBack, queuedSegments, callSegments])

/-- A segment that the worker pops goes from the queue into its hands. -/
lemma next_pop (s : UploadTasks) :
    (s.next json .pop).held = s.held ∧ (s.next json .pop).monitor = s.monitor := by
  rcases s with ⟨cache, monitor, worker, captured, uploaded⟩
  cases worker with
  | idle =>
    simp only [next, popOldest]
    cases hentries : cache.entries with
    | nil => exact ⟨rfl, rfl⟩
    | cons entry rest => simp [held, queuedSegments, hentries, WorkerStage.segments]
  | uploading | removing | readding => exact ⟨rfl, rfl⟩

lemma monitorStep_moves (s : UploadTasks) :
    Moves (fun segment => ∀ call ∈ s.monitor, Spares (some segment) s.cache call) s.held
      (s.next json .monitorStep).held := by
  cases hmonitor : s.monitor with
  | none => exact .of_eq (by simp [next, hmonitor])
  | some call =>
    have hadd := (addStep_moves json s.cache call).append_left (WorkerStage.segments s.worker)
    simpa [next, hmonitor, held, callSegments] using hadd

lemma workerStep_moves (s : UploadTasks) :
    Moves (fun segment => ∀ call ∈ WorkerStage.call s.worker, Spares (some segment) s.cache call)
      s.held (s.next json .workerStep).held := by
  cases hworker : s.worker with
  | idle | uploading => exact .of_eq (by simp [next, hworker])
  | removing entry =>
    exact .of_eq (by simp [next, hworker, held, remove, removeFromDisk, queuedSegments,
      WorkerStage.segments])
  | readding call =>
    have hadd := addStep_moves json s.cache call
    have hheld : (s.next json .workerStep).held = callSegments (s.cache.addStep json call).2 ++
        (queuedSegments (s.cache.addStep json call).1 ++ callSegments s.monitor) := by
      simp only [next, hworker, held]
      cases (s.cache.addStep json call).2 <;> rfl
    rw [hheld]
    refine ⟨fun segment => ?_, fun segment => ?_⟩
    · have hsub := hadd.sub segment
      simp only [held, hworker, WorkerStage.segments, mem_append] at hsub ⊢
      grind
    · have hkeep := hadd.keep segment
      simp only [held, hworker, WorkerStage.segments, WorkerStage.call, mem_append] at hkeep ⊢
      grind

end UploadTasks

/-! ## What the runs are restricted to -/

def WorkerStage.isIdle : WorkerStage → Bool
  | .idle => true
  | .uploading _ | .removing _ | .readding _ => false

def SnapshotStage.isWaiting {Page : Type} : SnapshotStage Page → Bool
  | .waiting => true
  | .reading | .uploading _ => false

namespace Replicator

variable {Page : Type}

def AtRest (r : Replicator Page) : Prop :=
  r.poll = .waiting ∧ r.tasks.monitor = none ∧ r.tasks.worker.isIdle ∧ r.popping = false ∧
    r.snapshot.isWaiting

/-- What a capture must find: a frame count greater than those of all segments so far, or no frames
at all. -/
def CaptureOrderly (r : Replicator Page) : Prop :=
  match r.poll, r.wal with
  | .event frameCount, some file =>
    (frameCount = 0 → file.frames = []) ∧
      (0 < frameCount → ∀ earlier ∈ r.captures, earlier.1 < frameCount)
  | _, _ => True

/-- What a step of `flush` must find: no snapshot is from a later second than the one to be
uploaded, and the newest segment is not the one whose upload fails. -/
def FlushStepOrderly (r : Replicator Page) (answer : S3Answer) : Prop :=
  match r.flush with
  | .snapshot (.putting _) =>
    ∀ snapshot ∈ entries r.s3.snapshots, snapshot.1 ≤ answer.now
  | .uploading entry => answer.written = true ∨ newest r.captures ≠ some entry.segment
  | _ => True

/-- Frame counts keep increasing, the newest segment is not evicted, and `flush` starts while the
tasks are at rest. -/
def Orderly (r : Replicator Page) : Event Page → Prop
  | .pollRead _ => r.CaptureOrderly
  | .monitorStep => ∀ call ∈ r.tasks.monitor,
      UploadTasks.Spares (newest r.captures) r.tasks.cache call
  | .workerStep => ∀ call ∈ UploadTasks.WorkerStage.call r.tasks.worker,
      UploadTasks.Spares (newest r.captures) r.tasks.cache call
  | .flushBegin => r.AtRest
  | .flushStep answer => r.FlushStepOrderly answer
  | .commit _ | .checkpoint _ | .pollBegin | .pollCheck | .pollCount | .workerBegin | .workerPop
  | .workerUpload _ | .snapshotBegin | .snapshotRead | .snapshotStep _ => True

instance (r : Replicator Page) : Decidable r.AtRest :=
  inferInstanceAs (Decidable (_ ∧ _ ∧ _ ∧ _ ∧ _))

instance (r : Replicator Page) : Decidable r.CaptureOrderly := by
  unfold CaptureOrderly
  split <;> infer_instance

instance (r : Replicator Page) (answer : S3Answer) : Decidable (r.FlushStepOrderly answer) := by
  unfold FlushStepOrderly
  split <;> infer_instance

instance (r : Replicator Page) (event : Event Page) : Decidable (r.Orderly event) :=
  match event with
  | .pollRead _ => inferInstanceAs (Decidable r.CaptureOrderly)
  | .monitorStep => inferInstanceAs (Decidable (∀ call ∈ r.tasks.monitor, _))
  | .workerStep =>
    inferInstanceAs (Decidable (∀ call ∈ UploadTasks.WorkerStage.call r.tasks.worker, _))
  | .flushBegin => inferInstanceAs (Decidable r.AtRest)
  | .flushStep answer => inferInstanceAs (Decidable (r.FlushStepOrderly answer))
  | .commit _ | .checkpoint _ | .pollBegin | .pollCheck | .pollCount | .workerBegin | .workerPop
  | .workerUpload _ | .snapshotBegin | .snapshotRead | .snapshotStep _ => isTrue trivial

/-! ## Captured segments along a run -/

def FlushStage.segments : FlushStage Page → List Segment
  | .uploading entry => [entry.segment]
  | _ => []

def held (r : Replicator Page) : List Segment :=
  FlushStage.segments r.flush ++ r.tasks.held

/-- The captured segments are accounted for, and the monitor adds one at a time. -/
structure Accounted (r : Replicator Page) : Prop where
  tracked : Tracked r.captures r.held r.s3.wal
  polling : r.poll ≠ .waiting → r.tasks.monitor = none

namespace Accounted

variable {r r' : Replicator Page}

lemma of_eq (h : r.Accounted) (hcaptures : r'.captures = r.captures) (hheld : r'.held = r.held)
    (hwal : r'.s3.wal = r.s3.wal) (hpoll : r'.poll ≠ .waiting → r'.tasks.monitor = none) :
    r'.Accounted where
  tracked := by
    rw [hcaptures, hheld, hwal]
    exact h.tracked
  polling := hpoll

/-- Uploading a segment from the hands of a task that lets go of it if the answer is Ok, or if the
segment may be lost. -/
lemma upload (h : r.Accounted) (answer : S3Answer) (entry : CacheEntry)
    (hcaptures : r'.captures = r.captures)
    (hwal : r'.s3.wal = (r.s3.uploadWalSegment answer entry).wal)
    (hheld : ∀ segment, segment ∈ r.held ↔ segment ∈ r'.held ∨ segment = entry.segment)
    (hlost : answer.written = true ∨ newest r.captures ≠ some entry.segment ∨
      entry.segment ∈ r'.held)
    (hpoll : r'.poll ≠ .waiting → r'.tasks.monitor = none) : r'.Accounted where
  tracked := by
    rw [hcaptures, hwal, Bucket.uploadWalSegment]
    by_cases hwritten : answer.written = true
    · rw [if_pos hwritten]
      exact h.tracked.store hheld
    · rw [if_neg hwritten]
      refine h.tracked.move ⟨fun segment hmem => (hheld segment).mpr (.inl hmem),
        fun segment hmem hnewest => ?_⟩ fun _ => id
      rcases (hheld segment).mp hmem with hheld' | rfl
      · exact hheld'
      · rcases hlost with hwritten' | hother | hheld'
        · exact absurd hwritten' hwritten
        · exact absurd hnewest hother
        · exact hheld'
  polling := hpoll

variable {lib : SqliteLib Page} {json : EntryJson}

lemma pollRead (h : r.Accounted) {now : Int} (horderly : r.Orderly (.pollRead now)) :
    (r.pollRead lib json now).Accounted := by
  unfold Replicator.pollRead
  split
  · rename_i frameCount file hpoll hwal
    have hmonitor : r.tasks.monitor = none := h.polling (by simp [hpoll])
    have hnumber : (frameCount = 0 → file.frames = []) ∧
        (0 < frameCount → ∀ earlier ∈ r.captures, earlier.1 < frameCount) := by
      simpa only [Orderly, CaptureOrderly, hpoll, hwal] using horderly
    refine ⟨h.tracked.capture hnumber.2 fun other => ?_, fun hnot => absurd rfl hnot⟩
    simp only [held, UploadTasks.next, hmonitor, UploadTasks.held, UploadTasks.callSegments,
      Adding.start, CacheEntry.new, CacheEntry.segment, mem_append, mem_singleton]
    grind
  · exact h.of_eq rfl rfl rfl fun hnot => absurd rfl hnot
  · exact h

lemma moved (h : r.Accounted) {tasks : UploadTasks} {spared : Segment → Prop}
    (hmoves : Moves spared r.tasks.held tasks.held)
    (hspared : ∀ segment, newest r.captures = some segment → spared segment)
    (hmonitor : r.tasks.monitor = none → tasks.monitor = none) :
    Accounted { r with tasks := tasks } where
  tracked := h.tracked.move (hmoves.append_left _) hspared
  polling hpoll := hmonitor (h.polling hpoll)

lemma monitorStep (h : r.Accounted) (horderly : r.Orderly .monitorStep) :
    (r.next lib json .monitorStep).Accounted := by
  refine h.moved (UploadTasks.monitorStep_moves json r.tasks) ?_ fun hmonitor => ?_
  · exact fun segment hnewest => hnewest ▸ horderly
  · simp [UploadTasks.next, hmonitor]

lemma workerStep (h : r.Accounted) (horderly : r.Orderly .workerStep) :
    (r.next lib json .workerStep).Accounted := by
  refine h.moved (UploadTasks.workerStep_moves json r.tasks) ?_ fun hmonitor => ?_
  · exact fun segment hnewest => hnewest ▸ horderly
  · simp only [UploadTasks.next]
    split <;> exact hmonitor

lemma workerUpload (h : r.Accounted) (answer : S3Answer) :
    (r.workerUpload json answer).Accounted := by
  unfold Replicator.workerUpload
  split
  · rename_i entry hworker
    by_cases hok : answer.ok = true
    · refine h.upload answer entry rfl rfl (fun segment => ?_) ?_ fun hpoll => ?_
      · simp only [held, UploadTasks.held, UploadTasks.next, UploadTasks.WorkerStage.segments,
          hworker, hok, if_true, mem_append, mem_singleton, not_mem_nil]
        grind
      · exact .inl (by simp [S3Answer.written, hok])
      · simpa [UploadTasks.next, hworker, hok] using h.polling hpoll
    · -- a failed upload leaves the segment with the worker
      refine h.upload answer entry rfl rfl (fun segment => ?_) (.inr (.inr ?_)) fun hpoll => ?_
      · simp only [held, UploadTasks.held, UploadTasks.next, UploadTasks.WorkerStage.segments,
          hworker, hok, mem_append, mem_singleton]
        grind [Adding.start, CacheEntry.new, CacheEntry.segment]
      · simp [held, UploadTasks.held, UploadTasks.next, UploadTasks.WorkerStage.segments, hworker,
          hok, Adding.start, CacheEntry.new, CacheEntry.segment]
      · simpa [UploadTasks.next, hworker, hok] using h.polling hpoll
  · exact h

lemma wal_step (upload : SnapshotUpload Page) (s3 : Bucket Page) (answer : S3Answer) :
    (upload.step s3 answer).1.wal = s3.wal := by
  cases upload with
  | putting pages =>
    simp only [SnapshotUpload.step, Bucket.putSnapshot]
    split <;> rfl
  | reading => rfl
  | listing metadata => rfl
  | updating metadata =>
    simp only [SnapshotUpload.step, Bucket.putMetadata]
    split <;> rfl

lemma flushStep (h : r.Accounted) {answer : S3Answer}
    (horderly : r.Orderly (.flushStep answer)) : (r.flushStep answer).Accounted := by
  simp only [Orderly, FlushStepOrderly] at horderly
  unfold Replicator.flushStep
  split
  case h_1 hflush => exact h.of_eq rfl (by simp [held, hflush, FlushStage.segments]) rfl h.polling
  case h_2 upload hflush =>
    refine h.of_eq rfl ?_ (wal_step ..) h.polling
    simp only [held, hflush]
    cases (upload.step r.s3 answer).2 <;> rfl
  case h_3 hflush =>
    simp only [WriteCache.popOldest]
    cases hentries : r.tasks.cache.entries with
    | nil => exact h.of_eq rfl (by simp [held, hflush, FlushStage.segments]) rfl h.polling
    | cons entry rest =>
      -- the entry goes from the queue to `flush`
      refine ⟨h.tracked.move ⟨fun segment hmem => ?_, fun segment hmem _ => ?_⟩ fun _ => id,
        h.polling⟩
      all_goals
        simp only [held, hflush, FlushStage.segments, UploadTasks.held,
          UploadTasks.queuedSegments, hentries, map_cons, mem_append, mem_cons,
          not_mem_nil] at hmem ⊢
        grind
  case h_4 entry hflush =>
    simp only [hflush] at horderly
    refine h.upload answer entry rfl rfl (fun segment => ?_) (horderly.imp_right .inl) h.polling
    by_cases hok : answer.ok = true <;> simp [held, hflush, hok, FlushStage.segments, or_comm]
  case h_5 entry hflush =>
    refine h.of_eq rfl ?_ rfl h.polling
    simp [hflush, held, FlushStage.segments, UploadTasks.held, UploadTasks.queuedSegments,
      WriteCache.remove, WriteCache.removeFromDisk]
  all_goals exact h

lemma snapshotStep (h : r.Accounted) (answer : S3Answer) : (r.snapshotStep answer).Accounted := by
  unfold Replicator.snapshotStep
  split
  · exact h.of_eq rfl rfl (wal_step ..) h.polling
  · exact h

lemma next (h : r.Accounted) {event : Event Page} (horderly : r.Orderly event) :
    (r.next lib json event).Accounted := by
  cases event with
  | commit frames =>
    simp only [Replicator.next, commit]
    split <;> exact h.of_eq rfl rfl rfl h.polling
  | checkpoint mode => exact h.of_eq rfl rfl rfl h.polling
  | pollBegin =>
    simp only [Replicator.next]
    split
    · rename_i hbegin
      exact h.of_eq rfl rfl rfl fun _ => hbegin.2.2
    · exact h
  | pollCheck | pollCount =>
    simp only [Replicator.next]
    split
    · rename_i hpoll
      exact h.of_eq rfl rfl rfl fun _ => h.polling (by simp [hpoll])
    · exact h
  | pollRead now => exact h.pollRead horderly
  | monitorStep => exact h.monitorStep horderly
  | workerBegin | snapshotRead =>
    simp only [Replicator.next]
    split <;> exact h.of_eq rfl rfl rfl h.polling
  | workerPop =>
    simp only [Replicator.next]
    split
    · have hpop := UploadTasks.next_pop json r.tasks
      exact h.of_eq rfl (by rw [held, hpop.1]; rfl) rfl fun hpoll => hpop.2.trans (h.polling hpoll)
    · exact h
  | workerUpload answer => exact h.workerUpload answer
  | workerStep => exact h.workerStep horderly
  | snapshotBegin =>
    simp only [Replicator.next]
    split
    · split <;> exact h.of_eq rfl rfl rfl h.polling
    · exact h
  | snapshotStep answer => exact h.snapshotStep answer
  | flushBegin =>
    simp only [Replicator.next]
    split
    all_goals
      rename_i hflush
      first
      | exact h
      | exact h.of_eq rfl (by simp [held, hflush, FlushStage.segments]) rfl h.polling
  | flushStep answer => exact h.flushStep horderly

end Accounted

end Replicator

end ZLayer.Storage
