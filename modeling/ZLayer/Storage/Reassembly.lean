import ZLayer.Storage.ResumeDeadlock

/-!
# Reassembly — the bodies that an upload sends, in the order of the parts

The number of parts and their offsets come from the size of the file, while the body of a part is
what one `read` returns.  A short read is not continued, so the bodies add up to the file exactly
when every part was read whole the last time it was sent, and the number of parts fits a `u32`.
-/

namespace ZLayer.Storage

open Lib List

/-- A staged file that is sent by two runs of the loop: that of `upload_parts`, as far as it got,
and that of `resume_upload`, which may send parts again. -/
structure PartsRun where
  file : List UInt8
  partSize : Nat
  total : Nat
  total_eq : totalParts partSize file.length = some total
  name : String
  uploadId : Nat
  key : String
  session : Session
  staged : session.world.staging[name]? = some file
  opened : session.world.s3.find uploadId key = some ⟨key, ∅⟩
  earlier : List Nat
  missing : List Nat
  earlier_nodup : earlier.Nodup
  missing_nodup : missing.Nodup
  covers : ∀ n, n ∈ earlier ∨ n ∈ missing ↔ n ∈ range' 1 total
  answered : session.Answered (2 * (earlier.length + missing.length))
  reads_pos : ∀ i, 0 < (session.answers i).readLen

namespace PartsRun

variable (r : PartsRun)

def send : SyncCall (List (Nat × String)) := do
  let _ ← uploadParts r.name r.uploadId r.key r.partSize r.earlier
  uploadParts r.name r.uploadId r.key r.partSize r.missing

/-- The bodies that S3 has then, in part order. -/
def bodies : List UInt8 :=
  let s3 := (r.send.outcome r.session).2.world.s3
  (range' 1 r.total).flatMap fun n =>
    (((s3.find r.uploadId r.key).bind (·.parts[n]?)).map (·.data)).getD []

/-- How many bytes the last read of a part may return; every part takes two answers. -/
def lastRead (n : Nat) : Nat :=
  (r.session.answers (2 * if n ∈ r.missing then r.earlier.length + r.missing.idxOf n
    else r.earlier.idxOf n)).readLen

lemma bodies_eq : r.bodies = (range' 1 r.total).flatMap fun n =>
    (Chunks.chunk r.partSize r.file n).take (r.lastRead n) := by
  obtain ⟨_, s3, upload, hfirst, hfind, -, hparts⟩ := outcome_uploadParts_ok r.partSize r.earlier
    r.staged r.opened fun i hi => r.answered i (by omega)
  obtain ⟨_, s3', upload', hsecond, hfind', -, hparts'⟩ := outcome_uploadParts_ok
    (s := ⟨{ r.session.world with s3 := s3 },
      fun n => r.session.answers (n + 2 * r.earlier.length)⟩)
    r.partSize r.missing r.staged hfind fun i hi => r.answered _ (by omega)
  have hsend : (r.send.outcome r.session).2.world.s3 = s3' := by
    rw [send, Call.outcome_bind_ok hfirst, hsecond]
  simp only [bodies, hsend, hfind', Option.bind_some]
  refine flatMap_congr fun n hn => ?_
  rw [hparts' r.missing_nodup, hparts r.earlier_nodup, lastRead, Chunks.chunk, take_take,
    Nat.min_comm]
  by_cases hmissing : n ∈ r.missing
  · simp [hmissing, Session.nextPart, Nat.mul_add, Nat.add_comm]
  · have hearlier : n ∈ r.earlier := ((r.covers n).mpr hn).resolve_right hmissing
    simp [hmissing, hearlier, Session.nextPart]

end PartsRun

/-- When the parts that were sent reassemble the file. -/
theorem bodies_eq_file_iff (r : PartsRun) :
    r.bodies = r.file ↔ Chunks.count r.partSize r.file.length < 2 ^ 32 ∧
      ∀ n ∈ range' 1 r.total,
        (Chunks.chunk r.partSize r.file n).length ≤ r.lastRead n := by
  obtain ⟨hzero, htotal⟩ := Option.dite_none_left_eq_some.mp r.total_eq
  have hcount : r.file.length ≤ r.total * r.partSize ↔
      Chunks.count r.partSize r.file.length < 2 ^ 32 := by
    rw [Chunks.length_le_mul_iff (Nat.pos_of_ne_zero hzero), ← Option.some.inj htotal]
    omega
  rw [r.bodies_eq, Chunks.flatMap_take_eq_iff, hcount, and_comm]

/-- Three bytes in two parts, the first of which is sent again.  A read returns at most `readLen`
bytes. -/
def sentAgain (readLen : Nat) (hpos : 0 < readLen) : PartsRun where
  file := [1, 2, 3]
  partSize := 2
  total := 2
  total_eq := rfl
  name := "layer.tar.zst"
  uploadId := 0
  key := "layer"
  session :=
    { world :=
        { World.fresh with
          s3 := (ObjectStore.empty.createMultipartUpload "layer").1
          staging := HashMap.ofEntries [("layer.tar.zst", [1, 2, 3])] }
      answers := fun _ => ⟨.ok, "", 0, "tag", readLen⟩ }
  staged := rfl
  opened := by simp [ObjectStore.find, ObjectStore.createMultipartUpload, ObjectStore.empty]
  earlier := [1]
  missing := [1, 2]
  earlier_nodup := nodup_singleton 1
  missing_nodup := by simp
  covers := by simp [range']
  answered := fun _ _ => rfl
  reads_pos := fun _ => hpos

theorem whole_reads_reassemble :
    (sentAgain 2 Nat.two_pos).bodies = (sentAgain 2 Nat.two_pos).file :=
  (bodies_eq_file_iff (sentAgain 2 Nat.two_pos)).mpr (by decide +kernel)

/-- The second byte is missing. -/
theorem short_read_drops_byte :
    (sentAgain 1 Nat.one_pos).bodies ≠ (sentAgain 1 Nat.one_pos).file := by
  decide +kernel

end ZLayer.Storage
