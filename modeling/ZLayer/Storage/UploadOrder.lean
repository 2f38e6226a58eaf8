import ZLayer.Lib.Machine
import ZLayer.Storage.WriteCache

/-!
# UploadOrder — the monitor and the upload worker on one cache

Two tasks share the write cache.  The WAL monitor adds each segment it captures; the upload worker
takes the oldest entry, uploads it, and on failure adds it again like a new one.  A run is any
interleaving of their steps with any outcome of each upload.

All the segments a run still has to account for stand in one line: those uploaded, the one in the
worker's hands, those queued, and the one the monitor is adding.  Every step keeps this line as it
is, or appends a newer segment, except one: a failed segment put back behind a queue that is not
empty.
-/

namespace ZLayer.Storage

open Lib WriteCache List

inductive WorkerStage
  /-- Before `pop_oldest`. -/
  | idle
  /-- `upload_wal_segment` is under way. -/
  | uploading (entry : CacheEntry)
  /-- The upload succeeded and `remove` comes next. -/
  | removing (entry : CacheEntry)
  /-- The upload failed and the segment is added again. -/
  | readding (call : Adding)

/-- The cache, the two tasks that use it, and what has happened so far. -/
structure UploadTasks where
  cache : WriteCache
  monitor : Option Adding
  worker : WorkerStage
  /-- Sequence numbers of the monitor's `add` calls. -/
  captured : List UInt64
  /-- Sequence numbers of the successful uploads, in order. -/
  uploaded : List UInt64

namespace UploadTasks

def start (cache : WriteCache) : UploadTasks where
  cache := cache
  monitor := none
  worker := .idle
  captured := []
  uploaded := []

inductive Event
  /-- The monitor calls `add`. -/
  | capture (now : Int) (sequence : UInt64) (data : List UInt8)
  /-- The monitor's `add` takes its next step. -/
  | monitorStep
  /-- The worker calls `pop_oldest`. -/
  | pop
  /-- The upload returns Ok. -/
  | uploadOk
  /-- The upload returns an error. -/
  | uploadErr (now : Int)
  /-- The worker's `remove` or `add` takes its next step. -/
  | workerStep

variable (json : EntryJson) (s : UploadTasks)

/-- What an event does; one that does not fit the stage of its task does nothing. -/
def next : Event → UploadTasks
  | .capture now sequence data =>
    match s.monitor with
    | none =>
      { s with
        monitor := some (Adding.start now sequence data)
        captured := s.captured ++ [sequence] }
    | some _ => s
  | .monitorStep =>
    match s.monitor with
    | some call =>
      { s with
        cache := (s.cache.addStep json call).1
        monitor := (s.cache.addStep json call).2 }
    | none => s
  | .pop =>
    match s.worker with
    | .idle =>
      match s.cache.popOldest with
      | (some entry, cache) => { s with cache := cache, worker := .uploading entry }
      | (none, cache) => { s with cache := cache }
    | _ => s
  | .uploadOk =>
    match s.worker with
    | .uploading entry =>
      { s with
        worker := .removing entry
        uploaded := s.uploaded ++ [entry.sequence] }
    | _ => s
  | .uploadErr now =>
    match s.worker with
    | .uploading entry =>
      { s with worker := .readding (Adding.start now entry.sequence entry.data) }
    | _ => s
  | .workerStep =>
    match s.worker with
    | .removing entry => { s with cache := s.cache.remove entry, worker := .idle }
    | .readding call =>
      { s with
        cache := (s.cache.addStep json call).1
        worker :=
          match (s.cache.addStep json call).2 with
          | some call => .readding call
          | none => .idle }
    | _ => s

/-! ## What the runs are restricted to -/

/-- An `add` call that is at its loop head finds room. -/
abbrev Roomy (cache : WriteCache) (call : Adding) : Prop :=
  call.stage = .evicting → cache.currentSize + call.entry.size ≤ cache.maxSize

/-- The `add` call of a worker that puts a failed segment back. -/
def WorkerStage.call : WorkerStage → Option Adding
  | .readding call => some call
  | _ => none

/-- The monitor's sequence numbers increase and nothing is evicted. -/
def Increasing : Event → Prop
  | .capture _ sequence _ => ∀ earlier ∈ s.captured, earlier < sequence
  | .monitorStep => ∀ call ∈ s.monitor, Roomy s.cache call
  | .workerStep => ∀ call ∈ WorkerStage.call s.worker, Roomy s.cache call
  | .pop | .uploadOk | .uploadErr _ => True

/-- A failed segment goes back into the queue only when the queue is empty. -/
def RequeuedAlone : Event → Prop
  | .workerStep =>
    ∀ call ∈ WorkerStage.call s.worker, call.stage = .queueing → s.cache.entries = []
  | .capture .. | .monitorStep | .pop | .uploadOk | .uploadErr _ => True

instance (s : UploadTasks) (event : Event) : Decidable (s.Increasing event) :=
  match event with
  | .capture _ sequence _ =>
    -- the instance search would enumerate all 64-bit numbers
    decidableBAll (· < sequence) s.captured
  | .monitorStep => inferInstanceAs (Decidable (∀ call ∈ s.monitor, _))
  | .workerStep => inferInstanceAs (Decidable (∀ call ∈ WorkerStage.call s.worker, _))
  | .pop | .uploadOk | .uploadErr _ => isTrue trivial

instance (s : UploadTasks) (event : Event) : Decidable (s.RequeuedAlone event) :=
  match event with
  | .workerStep => inferInstanceAs (Decidable (∀ call ∈ WorkerStage.call s.worker, _))
  | .capture .. | .monitorStep | .pop | .uploadOk | .uploadErr _ => isTrue trivial

/-! ## The line of segments -/

def WorkerStage.carried : WorkerStage → List UInt64
  | .uploading entry => [entry.sequence]
  | .readding call => [call.entry.sequence]
  | .idle | .removing _ => []

def carried : Option Adding → List UInt64
  | some call => [call.entry.sequence]
  | none => []

@[simp] lemma carried_some (call : Adding) : carried (some call) = [call.entry.sequence] := rfl

def queued (c : WriteCache) : List UInt64 :=
  c.entries.map CacheEntry.sequence

def line : List UInt64 :=
  s.uploaded ++ (WorkerStage.carried s.worker ++ (queued s.cache ++ carried s.monitor))

structure InOrder (s : UploadTasks) : Prop where
  increasing : s.line.Pairwise (· < ·)
  captured : ∀ sequence ∈ s.line, sequence ∈ s.captured

lemma InOrder.of_line_eq {s s' : UploadTasks} (h : s.InOrder) (hline : s'.line = s.line)
    (hcaptured : s'.captured = s.captured) : s'.InOrder where
  increasing := hline ▸ h.increasing
  captured := by
    rw [hline, hcaptured]
    exact h.captured

/-- Without eviction, an `add` call hands its entry over to the back of the queue. -/
lemma queued_addStep {c : WriteCache} {call : Adding} (h : Roomy c call) :
    queued (c.addStep json call).1 ++ carried (c.addStep json call).2 =
      queued c ++ [call.entry.sequence] := by
  rcases call with ⟨entry, stage⟩
  cases stage with
  | evicting =>
    have hroom : ¬ c.currentSize + entry.size > c.maxSize := Nat.not_lt.mpr (h rfl)
    simp [addStep, hroom, carried]
  | dropping | creating | writing => rfl
  | queueing => simp [addStep, queued, pushBack, carried]

lemma captured_next (event : Event)
    (h : ∀ now sequence data, event ≠ .capture now sequence data) :
    (s.next json event).captured = s.captured := by
  rcases s with ⟨cache, monitor, worker, captured, uploaded⟩
  cases event with
  | capture now sequence data => exact absurd rfl (h now sequence data)
  | monitorStep => cases monitor <;> rfl
  | pop =>
    cases worker with
    | idle =>
      simp only [next]
      cases cache.popOldest with
      | mk popped cache => cases popped <;> rfl
    | uploading | removing | readding => rfl
  | uploadOk | uploadErr | workerStep => cases worker <;> rfl

lemma line_next_pop : (s.next json .pop).line = s.line := by
  rcases s with ⟨cache, monitor, worker, captured, uploaded⟩
  cases worker with
  | idle =>
    simp only [next, popOldest]
    cases hentries : cache.entries with
    | nil => rfl
    | cons entry rest => simp [line, queued, hentries, WorkerStage.carried]
  | uploading | removing | readding => rfl

lemma line_next_workerStep {s : UploadTasks} (hroom : s.Increasing .workerStep)
    (halone : s.RequeuedAlone .workerStep) :
    (s.next json .workerStep).line = s.line := by
  rcases s with ⟨cache, monitor, worker, captured, uploaded⟩
  cases worker with
  | idle | uploading | removing => rfl
  | readding call =>
    rcases call with ⟨entry, stage⟩
    cases stage with
    | evicting =>
      have hfits : ¬ cache.currentSize + entry.size > cache.maxSize :=
        Nat.not_lt.mpr (hroom ⟨entry, .evicting⟩ rfl rfl)
      simp [next, addStep, hfits, line, WorkerStage.carried]
    | dropping evicted => rfl
    | creating => rfl
    | writing => rfl
    | queueing =>
      -- the only step that could move a segment past another one
      have hempty : cache.entries = [] := halone ⟨entry, .queueing⟩ rfl rfl
      simp [next, addStep, pushBack, line, queued, hempty, WorkerStage.carried]

lemma InOrder.next {json : EntryJson} {s : UploadTasks} {event : Event} (h : s.InOrder)
    (hincreasing : s.Increasing event) (halone : s.RequeuedAlone event) :
    (s.next json event).InOrder := by
  cases event with
  | capture now sequence data =>
    cases hmonitor : s.monitor with
    | some call =>
      have hsame : s.next json (.capture now sequence data) = s := by
        simp [UploadTasks.next, hmonitor]
      rwa [hsame]
    | none =>
      have hline : (s.next json (.capture now sequence data)).line = s.line ++ [sequence] := by
        simp [UploadTasks.next, hmonitor, line, carried, Adding.start, CacheEntry.new]
      have hcaptured : (s.next json (.capture now sequence data)).captured =
          s.captured ++ [sequence] := by
        simp [UploadTasks.next, hmonitor]
      constructor
      · rw [hline]
        refine pairwise_append.mpr ⟨h.increasing, pairwise_singleton _ _, ?_⟩
        intro earlier hearlier newest hnewest
        rw [mem_singleton.mp hnewest]
        exact hincreasing earlier (h.captured earlier hearlier)
      · rw [hline, hcaptured]
        intro segment hsegment
        rcases mem_append.mp hsegment with hold | hnew
        · exact mem_append_left _ (h.captured segment hold)
        · exact mem_append_right _ hnew
  | monitorStep =>
    refine h.of_line_eq ?_ (captured_next json s .monitorStep (by simp))
    cases hmonitor : s.monitor with
    | none => simp [UploadTasks.next, hmonitor]
    | some call =>
      have hhandover := queued_addStep json (hincreasing call hmonitor)
      simp only [UploadTasks.next, hmonitor, line, hhandover, carried_some]
  | pop => exact h.of_line_eq (line_next_pop json s) (captured_next json s .pop (by simp))
  | uploadOk =>
    refine h.of_line_eq ?_ (captured_next json s .uploadOk (by simp))
    cases hworker : s.worker <;> simp [UploadTasks.next, hworker, line, WorkerStage.carried]
  | uploadErr now =>
    refine h.of_line_eq ?_ (captured_next json s (.uploadErr now) (by simp))
    cases hworker : s.worker <;>
      simp [UploadTasks.next, hworker, line, WorkerStage.carried, Adding.start, CacheEntry.new]
  | workerStep =>
    exact h.of_line_eq (line_next_workerStep json hincreasing halone)
      (captured_next json s .workerStep (by simp))

/-- As long as failed segments are put back into an empty queue, uploads succeed in the order of
capture. -/
theorem uploaded_increasing (dir : CacheDir) (maxSize : Nat) (events : List Event)
    (h : Machine.Along (next json) (fun s event => s.Increasing event ∧ s.RequeuedAlone event)
      (start (WriteCache.new dir maxSize)) events) :
    (events.foldl (next json) (start (WriteCache.new dir maxSize))).uploaded.Pairwise (· < ·) := by
  have hstart : (start (WriteCache.new dir maxSize)).InOrder :=
    ⟨Pairwise.nil, fun _ hmem => absurd hmem not_mem_nil⟩
  have hend : (events.foldl (next json) (start (WriteCache.new dir maxSize))).InOrder :=
    h.invariant (I := InOrder) (fun _ _ hs hcond => hs.next hcond.1 hcond.2) hstart
  exact (pairwise_append.mp hend.increasing).1

def captureAlone (sequence : UInt64) : List Event :=
  .capture 0 sequence [7] :: replicate 4 .monitorStep

def retryAlone : List Event :=
  .uploadErr 0 :: replicate 4 .workerStep

def retriedFirst : List Event :=
  captureAlone 1 ++ [.pop] ++ retryAlone ++ [.pop, .uploadOk, .workerStep] ++ captureAlone 2 ++
    [.pop, .uploadOk]

theorem uploaded_increasing_retry :
    Machine.Along (next .first) (fun s event => s.Increasing event ∧ s.RequeuedAlone event)
        (start (WriteCache.new ∅ 100))
        retriedFirst ∧
      (retriedFirst.foldl (next .first)
        (start (WriteCache.new ∅ 100))).uploaded.Pairwise (· < ·) :=
  have h : Machine.Along (next .first)
      (fun s event => s.Increasing event ∧ s.RequeuedAlone event) (start (WriteCache.new ∅ 100))
      retriedFirst := by decide +kernel
  ⟨h, uploaded_increasing .first ∅ 100 _ h⟩

def overtaken : List Event :=
  captureAlone 1 ++ [.pop] ++ captureAlone 2 ++ retryAlone ++
    [.pop, .uploadOk, .workerStep, .pop, .uploadOk]

theorem retried_segment_overtaken :
    Machine.Along (next .first) Increasing (start (WriteCache.new ∅ 100))
        overtaken ∧
      (overtaken.foldl (next .first) (start (WriteCache.new ∅ 100))).uploaded = [2, 1] := by
  decide +kernel

end UploadTasks

end ZLayer.Storage
