import ZLayer.Storage.FlushRestore

/-!
# WalChanges — which changes of the WAL file are noticed

`check_for_changes` compares the size of the file with the one it saw last, and counts frames only
when it differs.  A log that restarts after a checkpoint is written over from the front, so its
contents change while its size does not: exactly these changes go unnoticed.
-/

namespace ZLayer.Storage

open Lib

variable {Page : Type}

/-- Frames in the file, those left over from an earlier log included. -/
def WalFile.stored (file : WalFile Page) : Nat := file.frames.length + file.leftover.length

/-- What SQLite's files look like: nothing, or a header with the page size and whole frames. -/
structure SqliteLib.Sized (lib : SqliteLib Page) (pageSize : Nat) : Prop where
  pageSize_pos : 0 < pageSize
  size : ∀ file, (lib.walBytes file).length =
    if file.stored = 0 then 0 else 32 + (24 + pageSize) * file.stored
  header : ∀ file, file.stored ≠ 0 →
    ∃ magic, WalHeader.fromBytes (lib.walBytes file) = some ⟨magic, pageSize⟩

/-- The size of the file, 0 if there is none. -/
def walSize (lib : SqliteLib Page) (wal : Option (WalFile Page)) : Nat :=
  (WalMonitor.new lib wal).lastFileSize

/-- The contents of the file when the monitor is made, at its first call, and at the others. -/
structure WalHistory (Page : Type) where
  lib : SqliteLib Page
  pageSize : Nat
  sized : lib.Sized pageSize
  before : Option (WalFile Page)
  first : Option (WalFile Page)
  later : List (Option (WalFile Page))
  fits : ∀ wal ∈ first :: later, walSize lib wal < 2 ^ 64

section Calls

variable (lib : SqliteLib Page)

/-- A call during which the file does not change, with the frame count of its event. -/
def WalMonitor.checkForChanges (m : WalMonitor) (wal : Option (WalFile Page)) :
    WalMonitor × Option UInt64 :=
  let (m, stage) :=
    match m.checkSize lib wal with
    | (m, .counting size) => m.count lib size wal
    | checked => checked
  match stage with
  | .event frameCount => (m, some frameCount)
  | _ => (m, none)

/-- Every call that finds other contents than the call before returns an event. -/
def ChangesNoticed : WalMonitor → Option (WalFile Page) → List (Option (WalFile Page)) → Prop
  | _, _, [] => True
  | m, last, wal :: rest =>
    (wal.map lib.walBytes ≠ last.map lib.walBytes → (m.checkForChanges lib wal).2.isSome) ∧
      ChangesNoticed (m.checkForChanges lib wal).1 wal rest

end Calls

variable {lib : SqliteLib Page} {pageSize : Nat}

namespace SqliteLib.Sized

variable (h : lib.Sized pageSize) {a b : Option (WalFile Page)}

include h

lemma count (wal : Option (WalFile Page)) :
    countFramesFromFile lib wal = UInt64.ofNat ((wal.map WalFile.stored).getD 0) := by
  cases wal with
  | none => rfl
  | some file =>
    simp only [countFramesFromFile, Option.bind_some, countFrames, Option.map_some,
      Option.getD_some]
    by_cases hnone : file.stored = 0
    · simp [h.size, hnone]
    · rcases h.header file hnone with ⟨magic, hheader⟩
      have hframe : 0 < 24 + pageSize := by omega
      simp [h.size, hnone, hheader, h.pageSize_pos.ne', Nat.mul_div_cancel_left _ hframe]

lemma walSize_eq (wal : Option (WalFile Page)) : walSize lib wal =
    if (wal.map WalFile.stored).getD 0 = 0 then 0
    else 32 + (24 + pageSize) * (wal.map WalFile.stored).getD 0 := by
  cases wal <;> simp [walSize, WalMonitor.new, h.size]

/-- The size says how many frames there are. -/
lemma count_eq (hsize : walSize lib a = walSize lib b) :
    countFramesFromFile lib a = countFramesFromFile lib b := by
  rw [h.walSize_eq, h.walSize_eq] at hsize
  rw [h.count, h.count]
  congr 1
  split at hsize <;> split at hsize
  · omega
  · omega
  · omega
  · exact Nat.eq_of_mul_eq_mul_left (by omega : 0 < 24 + pageSize) (by omega)

lemma size_eq (ha : walSize lib a < 2 ^ 64) (hb : walSize lib b < 2 ^ 64)
    (hcount : countFramesFromFile lib a = countFramesFromFile lib b) :
    walSize lib a = walSize lib b := by
  have hstored {wal : Option (WalFile Page)} (hwal : walSize lib wal < 2 ^ 64) :
      (wal.map WalFile.stored).getD 0 < 2 ^ 64 := by
    rw [h.walSize_eq] at hwal
    split at hwal
    · omega
    · nlinarith
  rw [h.count, h.count] at hcount
  have := congrArg UInt64.toNat hcount
  rw [UInt64.toNat_ofNat_of_lt' (hstored ha), UInt64.toNat_ofNat_of_lt' (hstored hb)] at this
  rw [h.walSize_eq, h.walSize_eq, this]

/-- A call leaves the monitor as one made for the contents it has found. -/
lemma checkForChanges_fst :
    ((WalMonitor.new lib a).checkForChanges lib b).1 = .new lib b := by
  have hsame (hsize : walSize lib a = walSize lib b) : WalMonitor.new lib a = .new lib b := by
    have := h.count_eq hsize
    simp_all [WalMonitor.new, walSize]
  unfold WalMonitor.checkForChanges WalMonitor.checkSize
  cases b with
  | none =>
    by_cases hpos : (WalMonitor.new lib a).lastFileSize > 0
    · simp [hpos]; rfl
    · simpa [hpos] using hsame (Nat.eq_zero_of_not_pos hpos)
  | some file =>
    by_cases hsize : (lib.walBytes file).length = (WalMonitor.new lib a).lastFileSize
    · simpa [hsize] using hsame hsize.symm
    · simp only [hsize, if_false, WalMonitor.count]
      split <;> rfl

lemma event_iff (ha : walSize lib a < 2 ^ 64) (hb : walSize lib b < 2 ^ 64) :
    ((WalMonitor.new lib a).checkForChanges lib b).2.isSome ↔ walSize lib b ≠ walSize lib a := by
  cases b with
  | none =>
    have hnone : walSize lib none = 0 := rfl
    rw [hnone]
    by_cases hpos : 0 < (WalMonitor.new lib a).lastFileSize
    · simp [WalMonitor.checkForChanges, WalMonitor.checkSize, hpos, walSize, hpos.ne]
    · simp [WalMonitor.checkForChanges, WalMonitor.checkSize, hpos, walSize]
      omega
  | some file =>
    by_cases hsize : walSize lib (some file) = walSize lib a
    · have : (lib.walBytes file).length = (WalMonitor.new lib a).lastFileSize := hsize
      simp [WalMonitor.checkForChanges, WalMonitor.checkSize, this, hsize]
    · have : ¬ (lib.walBytes file).length = (WalMonitor.new lib a).lastFileSize := hsize
      have hcount : ¬ countFramesFromFile lib (some file) = (WalMonitor.new lib a).lastFrameCount :=
        mt (h.size_eq hb ha) hsize
      simp [WalMonitor.checkForChanges, WalMonitor.checkSize, this, hsize, WalMonitor.count, hcount]

end SqliteLib.Sized

theorem changesNoticed_iff (h : WalHistory Page) :
    ChangesNoticed h.lib ((WalMonitor.new h.lib h.before).checkForChanges h.lib h.first).1 h.first
        h.later ↔
      (h.first :: h.later).IsChain fun last wal =>
        wal.map h.lib.walBytes ≠ last.map h.lib.walBytes →
          walSize h.lib wal ≠ walSize h.lib last := by
  obtain ⟨lib, pageSize, hlib, before, first, later, fits⟩ := h
  rw [hlib.checkForChanges_fst]
  -- After each call the monitor is the one made for the contents the call has found.
  induction later generalizing first with
  | nil => simp [ChangesNoticed]
  | cons wal rest ih =>
    have hevent := hlib.event_iff (fits first (by simp)) (fits wal (by simp))
    rw [ChangesNoticed, hlib.checkForChanges_fst, hevent, List.isChain_cons_cons]
    exact and_congr_right fun _ => ih wal fun other hother => fits other (.tail _ hother)

lemma FilledPages.sqlite_sized : FilledPages.sqlite.Sized 512 where
  pageSize_pos := by decide
  size file := by
    simp only [sqlite, walBytes, WalFile.stored, Nat.add_eq_zero_iff, List.length_eq_zero_iff,
      Bool.and_eq_true, List.isEmpty_iff]
    split
    · rfl
    · simp only [List.length_append, List.length_flatMap, length_frameBytes, List.map_const',
        List.sum_replicate, smul_eq_mul]
      have : walHeader.length = 32 := rfl
      omega
  header file hstored := by
    have : ¬ (file.frames.isEmpty && file.leftover.isEmpty) = true := by
      simpa [WalFile.stored] using hstored
    refine ⟨0x377f0682, ?_⟩
    simp only [sqlite, walBytes, if_neg this]
    rfl

/-- A commit of one page. -/
def onePageLog : WalFile UInt8 := WalFile.empty.append [(1, 5)]

/-- The log starts again after a checkpoint, and a commit of one page fills it to the same size. -/
def restartedLogs : WalHistory UInt8 where
  lib := FilledPages.sqlite
  pageSize := 512
  sized := FilledPages.sqlite_sized
  before := none
  first := some onePageLog
  later := [(CheckpointMode.restart.walAfter onePageLog).map (·.append [(1, 6)])]
  fits := by decide +kernel

theorem same_size_unnoticed :
    ¬ ChangesNoticed restartedLogs.lib
      ((WalMonitor.new restartedLogs.lib restartedLogs.before).checkForChanges restartedLogs.lib
        restartedLogs.first).1 restartedLogs.first restartedLogs.later := by
  intro hnoticed
  have hchanged : some (FilledPages.walBytes ⟨[(1, 6)], [], false⟩) ≠
    some (FilledPages.walBytes onePageLog) := by decide +kernel
  have hnone := hnoticed.1 hchanged
  revert hnone
  decide +kernel

end ZLayer.Storage
