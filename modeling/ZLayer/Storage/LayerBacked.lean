import ZLayer.Lib.Machine
import ZLayer.Storage.SyncRules

/-!
# LayerBacked — a recorded digest and its objects in S3

A run is a sequence of calls of the sync manager, each of which may be cut off by a crash after any
of its steps; the next process starts from the database, the staging directory and S3.  `Backed` is
what every step preserves: each object, each open upload and each record belongs to one archive, and
a recorded remote digest has its two objects.
-/

namespace ZLayer.Storage

open Lib List HashMap

/-! ## Keys -/

section Keys

variable {cfg : LayerStorageConfig} {d d' : String}

lemma objectKey_inj (h : cfg.objectKey d = cfg.objectKey d') : d = d' := by
  have hchars := congrArg String.toList h
  simp only [LayerStorageConfig.objectKey, String.toList_append, append_assoc] at hchars
  exact String.toList_inj.mp (append_cancel_right (append_cancel_left hchars))

lemma metadataKey_inj (h : cfg.metadataKey d = cfg.metadataKey d') : d = d' := by
  have hchars := congrArg String.toList h
  simp only [LayerStorageConfig.metadataKey, String.toList_append, append_assoc] at hchars
  exact String.toList_inj.mp (append_cancel_right (append_cancel_left hchars))

lemma objectKey_ne_metadataKey (cfg : LayerStorageConfig) (d d' : String) :
    cfg.objectKey d ≠ cfg.metadataKey d' := by
  intro h
  have hlast := congrArg (fun key : String => key.toList.getLast?) h
  simp [LayerStorageConfig.objectKey, LayerStorageConfig.metadataKey] at hlast

end Keys

/-! ## Sound contents of S3 -/

section S3

variable (lib : LayerLib) (cfg : LayerStorageConfig)

def fileOf (archive : List UInt8) : List UInt8 :=
  lib.compress cfg.compressionLevel archive

def partCount (archive : List UInt8) : Nat :=
  Chunks.count cfg.partSizeBytes (fileOf lib cfg archive).length

def Staged (digest : String) (bytes : List UInt8) : Prop :=
  ∃ archive, lib.sha256 archive = digest ∧ bytes = fileOf lib cfg archive

/-- An upload of an archive: its parts are parts of the compressed file. -/
structure UploadSound (archive : List UInt8) (upload : ObjectStore.Upload) : Prop where
  key : upload.key = cfg.objectKey (lib.sha256 archive)
  parts : ∀ number part, upload.parts[number]? = some part →
    number ∈ range' 1 (partCount lib cfg archive) ∧
      part.data = Chunks.chunk cfg.partSizeBytes (fileOf lib cfg archive) number

structure S3Sound (s3 : ObjectStore) : Prop where
  objects : ∀ digest bytes, s3.objects[cfg.objectKey digest]? = some bytes →
    Staged lib cfg digest bytes
  metadata : ∀ digest bytes, s3.objects[cfg.metadataKey digest]? = some bytes →
    ∃ snapshot, bytes = lib.snapshotToVec snapshot ∧ snapshot.digest = digest
  uploads : ∀ (id : Nat) upload, s3.uploads[id]? = some upload →
    ∃ archive, UploadSound lib cfg archive upload

def Grows (s3 s3' : ObjectStore) : Prop :=
  ∀ key : String, key ∈ s3.objects → key ∈ s3'.objects

variable {lib cfg} {s3 : ObjectStore} {archive : List UInt8}

lemma Grows.refl (s3 : ObjectStore) : Grows s3 s3 := fun _ h => h

section

variable (h : S3Sound lib cfg s3)

include h

lemma S3Sound.create (archive : List UInt8) :
    S3Sound lib cfg (s3.createMultipartUpload (cfg.objectKey (lib.sha256 archive))).1 where
  objects := h.objects
  metadata := h.metadata
  uploads := by
    intro id upload hupload
    rcases of_lookup_insert hupload with ⟨-, rfl⟩ | ⟨-, hold⟩
    · exact ⟨archive, rfl, by simp⟩
    · exact h.uploads id upload hold

/-- An upload that is found under the key of an archive is an upload of that archive. -/
lemma S3Sound.uploadSound (hlaw : lib.Lawful) {id : Nat} {upload : ObjectStore.Upload}
    (hfind : s3.find id (cfg.objectKey (lib.sha256 archive)) = some upload) :
    UploadSound lib cfg archive upload := by
  obtain ⟨hupload, hkey⟩ := ObjectStore.find_eq_some.mp hfind
  obtain ⟨archive', hsound⟩ := h.uploads id upload hupload
  have hsame : archive' = archive :=
    hlaw.sha256_injective (objectKey_inj (hsound.key.symm.trans hkey))
  exact hsame ▸ hsound

lemma S3Sound.uploadPart (hlaw : lib.Lawful) {number : Nat}
    (hnumber : number ∈ range' 1 (partCount lib cfg archive)) {part : ObjectStore.Part}
    (hdata : part.data = Chunks.chunk cfg.partSizeBytes (fileOf lib cfg archive) number)
    (id : Nat) :
    S3Sound lib cfg
      (s3.uploadPart id (cfg.objectKey (lib.sha256 archive)) number part).1 := by
  unfold ObjectStore.uploadPart
  cases hfind : s3.find id (cfg.objectKey (lib.sha256 archive)) with
  | none => exact h
  | some upload =>
    have hupload := h.uploadSound hlaw hfind
    refine ⟨h.objects, h.metadata, ?_⟩
    intro id' upload' hupload'
    rcases of_lookup_insert hupload' with ⟨-, rfl⟩ | ⟨-, hold⟩
    · refine ⟨archive, hupload.key, ?_⟩
      intro n p hp
      rcases of_lookup_insert hp with ⟨rfl, rfl⟩ | ⟨-, hold⟩
      · exact ⟨hnumber, hdata⟩
      · exact hupload.parts n p hold
    · exact h.uploads id' upload' hold

lemma S3Sound.erase (id : Nat) :
    S3Sound lib cfg { s3 with uploads := s3.uploads.erase id } where
  objects := h.objects
  metadata := h.metadata
  uploads id' upload hupload := h.uploads id' upload (of_lookup_erase hupload).2

lemma S3Sound.abort (id : Nat) (key : String) :
    S3Sound lib cfg (s3.abortMultipartUpload id key).1 ∧
      Grows s3 (s3.abortMultipartUpload id key).1 := by
  unfold ObjectStore.abortMultipartUpload
  cases s3.find id key with
  | none => exact ⟨h, Grows.refl s3⟩
  | some upload => exact ⟨h.erase id, Grows.refl s3⟩

/-- An object under the key of an archive, if it is the file of that archive. -/
lemma S3Sound.putObject (archive : List UInt8) :
    S3Sound lib cfg (s3.putObject (cfg.objectKey (lib.sha256 archive))
      (fileOf lib cfg archive)).1 where
  objects := by
    intro digest bytes hbytes
    rcases of_lookup_insert hbytes with ⟨hkey, rfl⟩ | ⟨-, hold⟩
    · exact ⟨archive, objectKey_inj hkey, rfl⟩
    · exact h.objects digest bytes hold
  metadata := by
    intro digest bytes hbytes
    rw [ObjectStore.putObject, lookup_insert_of_ne _ _
      (objectKey_ne_metadataKey cfg _ digest)] at hbytes
    exact h.metadata digest bytes hbytes
  uploads := h.uploads

lemma S3Sound.putMetadata (snapshot : LayerSnapshot) :
    S3Sound lib cfg (s3.putObject (cfg.metadataKey snapshot.digest)
      (lib.snapshotToVec snapshot)).1 where
  objects := by
    intro digest bytes hbytes
    rw [ObjectStore.putObject, lookup_insert_of_ne _ _
      (objectKey_ne_metadataKey cfg digest _).symm] at hbytes
    exact h.objects digest bytes hbytes
  metadata := by
    intro digest bytes hbytes
    rcases of_lookup_insert hbytes with ⟨hkey, rfl⟩ | ⟨-, hold⟩
    · exact ⟨snapshot, rfl, metadataKey_inj hkey⟩
    · exact h.metadata digest bytes hold
  uploads := h.uploads

end

lemma grows_putObject (s3 : ObjectStore) (key : String) (body : List UInt8) :
    Grows s3 (s3.putObject key body).1 := by
  intro key' hkey'
  simp [ObjectStore.putObject, hkey']

variable {listed : List (Nat × String)}

section

variable (h : S3Sound lib cfg s3) (hlaw : lib.Lawful) (hsize : 0 < cfg.partSizeBytes) (id : Nat)
  (hlisted : listed.map Prod.fst = range' 1 (partCount lib cfg archive))

include h hlaw hsize id hlisted

/-- Completing with all part numbers publishes the file, or nothing. -/
lemma complete_cases :
    (∃ e, s3.completeMultipartUpload id (cfg.objectKey (lib.sha256 archive)) listed =
        (s3, .error e)) ∨
      s3.completeMultipartUpload id (cfg.objectKey (lib.sha256 archive)) listed =
        ({ (s3.putObject (cfg.objectKey (lib.sha256 archive)) (fileOf lib cfg archive)).1 with
            uploads := s3.uploads.erase id }, .ok ()) := by
  unfold ObjectStore.completeMultipartUpload
  cases hfind : s3.find id (cfg.objectKey (lib.sha256 archive)) with
  | none => exact .inl ⟨_, rfl⟩
  | some upload =>
    have hupload := h.uploadSound hlaw hfind
    simp only
    split
    · cases hdata : ObjectStore.assemble upload.parts listed with
      | none => exact .inl ⟨_, rfl⟩
      | some data =>
        have hfile : data = fileOf lib cfg archive := by
          rw [ObjectStore.assemble_eq (fun n part hpart => (hupload.parts n part hpart).2) hdata,
            hlisted]
          exact Chunks.flatMap_chunk_count hsize _
        rw [hfile]
        exact .inr rfl
    · exact .inl ⟨_, rfl⟩

lemma S3Sound.complete :
    S3Sound lib cfg
        (s3.completeMultipartUpload id (cfg.objectKey (lib.sha256 archive)) listed).1 ∧
      Grows s3 (s3.completeMultipartUpload id (cfg.objectKey (lib.sha256 archive)) listed).1 := by
  rcases complete_cases h hlaw hsize id hlisted with ⟨e, hsame⟩ | hpublished
  · rw [hsame]
    exact ⟨h, Grows.refl s3⟩
  · rw [hpublished]
    exact ⟨(h.putObject archive).erase id, grows_putObject s3 _ _⟩

end

end S3

/-! ## The invariant -/

section Invariant

variable (lib : LayerLib) (cfg : LayerStorageConfig)

/-- A pending record counts the parts of the archive whose digest it carries; no part is ever
recorded as completed. -/
structure PendingSound (pending : PendingUpload) (archive : List UInt8) : Prop where
  digest : pending.digest = lib.sha256 archive
  objectKey : pending.objectKey = cfg.objectKey (lib.sha256 archive)
  totalParts : pending.totalParts = partCount lib cfg archive
  completedParts : pending.completedParts = ∅
  partSize : pending.partSize = cfg.partSizeBytes
  partSize_pos : 0 < cfg.partSizeBytes

/-- What a recorded state says about S3. -/
structure StateSound (s3 : ObjectStore) (state : SyncState) : Prop where
  remote : ∀ digest, state.remoteDigest = some digest →
    cfg.objectKey digest ∈ s3.objects ∧ cfg.metadataKey digest ∈ s3.objects
  pending : ∀ pending, state.pendingUpload = some pending →
    ∃ archive, PendingSound lib cfg pending archive

structure Backed (w : World) : Prop where
  s3 : S3Sound lib cfg w.s3
  memory : ∀ (key : String) state, w.states[key]? = some state → StateSound lib cfg w.s3 state
  stored : ∀ (key : String) state, w.db[key]? = some state → StateSound lib cfg w.s3 state

variable {lib cfg} {w : World}

variable {state : SyncState}

lemma StateSound.grow {s3 s3' : ObjectStore} (h : StateSound lib cfg s3 state)
    (hgrow : Grows s3 s3') : StateSound lib cfg s3' state where
  remote digest hdigest := ⟨hgrow _ (h.remote digest hdigest).1,
    hgrow _ (h.remote digest hdigest).2⟩
  pending := h.pending

lemma Backed.withS3 (h : Backed lib cfg w) {s3 : ObjectStore} (hsound : S3Sound lib cfg s3)
    (hgrow : Grows w.s3 s3) : Backed lib cfg { w with s3 := s3 } where
  s3 := hsound
  memory key state hstate := (h.memory key state hstate).grow hgrow
  stored key state hstate := (h.stored key state hstate).grow hgrow

lemma Backed.withGuards (h : Backed lib cfg w) (guards : Guards) :
    Backed lib cfg { w with guards := guards } := ⟨h.s3, h.memory, h.stored⟩

lemma Backed.withStaging (h : Backed lib cfg w) (staging : HashMap String (List UInt8)) :
    Backed lib cfg { w with staging := staging } := ⟨h.s3, h.memory, h.stored⟩

lemma Backed.withStored (h : Backed lib cfg w) (hstate : StateSound lib cfg w.s3 state)
    (key : String) : Backed lib cfg { w with db := w.db.insert key state } where
  s3 := h.s3
  memory := h.memory
  stored := by
    intro key' state' h'
    rcases of_lookup_insert h' with ⟨-, rfl⟩ | ⟨-, hold⟩
    · exact hstate
    · exact h.stored key' state' hold

variable {key : String}

lemma Backed.withMemory (h : Backed lib cfg w) {f : SyncState → SyncState}
    (hf : ∀ state, StateSound lib cfg w.s3 state → StateSound lib cfg w.s3 (f state)) :
    Backed lib cfg { w with states := w.states.modify key f } where
  s3 := h.s3
  memory := by
    intro key' state' h'
    rcases of_lookup_modify h' with ⟨-, state, hstate, rfl⟩ | ⟨-, hold⟩
    · exact hf state (h.memory key' state hstate)
    · exact h.memory key' state' hold
  stored := h.stored

/-- A new process loads sound states from the database. -/
lemma Backed.restart (h : Backed lib cfg w) : Backed lib cfg w.restart where
  s3 := h.s3
  memory := h.stored
  stored := h.stored

/-- The rule for an update of a state that keeps it sound. -/
lemma keeps_update {Q : Unit → Session → Prop} {f : Int → SyncState → SyncState} {s : Session}
    (h : Backed lib cfg s.world)
    (hf : ∀ now state, StateSound lib cfg s.world.s3 state →
      StateSound lib cfg s.world.s3 (f now state))
    (hQ : ∀ k s', Backed lib cfg s'.world → s'.world.s3 = s.world.s3 →
      s'.world.staging = s.world.staging → s'.answers = (fun n => s.answers (n + k)) → Q () s') :
    Keeps (Backed lib cfg) Q (withWrite (updateState key f)) s := by
  refine keeps_withWrite (fun _ guards hw => hw.withGuards guards) h fun _ => ?_
  have hguarded := h.withGuards { s.world.guards with writer := true }
  refine keeps_updateState hguarded (fun now => hguarded.withMemory (hf now)) ?_ ?_
  · intro now state hstate
    exact (hguarded.withMemory (hf now)).withStored (hf now state (h.memory key state hstate)) _
  · intro now db k s' hs' hworld hanswers
    refine hQ k _ (hs'.withGuards _) ?_ ?_ hanswers
    · simp only [setGuards, hworld]
    · simp only [setGuards, hworld]

end Invariant

/-! ## Uploading parts -/

section Parts

variable {lib : LayerLib} {cfg : LayerStorageConfig} {archive : List UInt8}

/-- Every read of the file gets a whole part, or the rest of the file. -/
def FullReads (cfg : LayerStorageConfig) (file : List UInt8) (answers : ℕ → Answer) : Prop :=
  ∀ i, min cfg.partSizeBytes file.length ≤ (answers i).readLen

lemma FullReads.shift {file : List UInt8} {answers : ℕ → Answer} (h : FullReads cfg file answers)
    (k : ℕ) : FullReads cfg file fun n => answers (n + k) :=
  fun i => h (i + k)

def Sent (s3 : ObjectStore) (uploadId : Nat) (key : String) (number : Nat) : Prop :=
  ∃ upload, s3.find uploadId key = some upload ∧ number ∈ upload.parts

lemma sent_uploadPart {s3 : ObjectStore} {uploadId : Nat} {key : String}
    {upload : ObjectStore.Upload} (hfind : s3.find uploadId key = some upload) {n number : Nat}
    (part : ObjectStore.Part) (h : n = number ∨ Sent s3 uploadId key n) :
    Sent (s3.uploadPart uploadId key number part).1 uploadId key n := by
  have hkey : upload.key = key := (ObjectStore.find_eq_some.mp hfind).2
  refine ⟨{ upload with parts := upload.parts.insert number part },
    ObjectStore.find_eq_some.mpr ⟨by simp [ObjectStore.uploadPart, hfind], hkey⟩, ?_⟩
  rcases h with rfl | ⟨upload', hfind', hmem⟩
  · simp
  · rw [hfind] at hfind'
    cases hfind'
    simp [hmem]

/-- What the loop over the parts leaves: only S3 has changed, and it has every part. -/
structure PartsSent (uploadId : Nat) (key : String) (parts : List Nat) (s : Session)
    (completed : List (Nat × String)) (s' : Session) : Prop where
  numbers : completed.map Prod.fst = parts
  sent : ∀ n, n ∈ parts ∨ Sent s.world.s3 uploadId key n → Sent s'.world.s3 uploadId key n
  world : s'.world = { s.world with s3 := s'.world.s3 }
  answers : ∃ k, s'.answers = fun n => s.answers (n + k)

variable (archive) in
lemma keeps_uploadParts (hlaw : lib.Lawful) {name : String} {uploadId : Nat} (parts : List Nat)
    {s : Session} (h : Backed lib cfg s.world)
    (hfile : s.world.staging[name]? = some (fileOf lib cfg archive))
    (hreads : FullReads cfg (fileOf lib cfg archive) s.answers)
    (hparts : ∀ n ∈ parts, n ∈ range' 1 (partCount lib cfg archive)) :
    Keeps (Backed lib cfg)
      (PartsSent uploadId (cfg.objectKey (lib.sha256 archive)) parts s)
      (uploadParts name uploadId (cfg.objectKey (lib.sha256 archive)) cfg.partSizeBytes parts)
      s := by
  induction parts generalizing s with
  | nil =>
    refine keeps_pure h ⟨rfl, ?_, rfl, 0, rfl⟩
    rintro n (hmem | hsent)
    · exact absurd hmem not_mem_nil
    · exact hsent
  | cons number rest ih =>
    have hpart (file : List UInt8) (hfile' : s.world.staging[name]? = some file) :
        Backed lib cfg (s.afterPart uploadId (cfg.objectKey (lib.sha256 archive)) number
          (s.nextPart cfg.partSizeBytes file number)).world := by
      rw [hfile] at hfile'
      cases hfile'
      have hdata : (s.nextPart cfg.partSizeBytes (fileOf lib cfg archive) number).data =
          Chunks.chunk cfg.partSizeBytes (fileOf lib cfg archive) number :=
        Chunks.take_min_eq_chunk (hreads 0) number
      refine h.withS3 (h.s3.uploadPart hlaw (hparts number mem_cons_self) hdata uploadId) ?_
      unfold ObjectStore.uploadPart
      cases ObjectStore.find _ uploadId _ <;> exact Grows.refl _
    refine keeps_bind (keeps_uploadPart h hpart fun file upload hfile' hfind => ?_)
    refine keeps_bind (Keeps.mono (ih (hpart file hfile') hfile (hreads.shift 2)
      fun n hn => hparts n (mem_cons_of_mem number hn)) ?_)
    intro completed s' hs' hsent
    refine keeps_pure hs' ⟨?_, ?_, ?_, ?_⟩
    · rw [map_cons, hsent.numbers]
    · intro n hn
      refine hsent.sent n ?_
      rcases hn with hmem | hold
      · rcases mem_cons.mp hmem with hfirst | hlater
        · exact .inr (sent_uploadPart hfind _ (.inl hfirst))
        · exact .inl hlater
      · exact .inr (sent_uploadPart hfind _ (.inr hold))
    · rw [hsent.world]
      rfl
    · obtain ⟨k, hk⟩ := hsent.answers
      exact ⟨k + 2, by rw [hk]; rfl⟩

end Parts

/-! ## The upload of a new snapshot -/

section Upload

variable {lib : LayerLib} {cfg : LayerStorageConfig} {archive : List UInt8} {s : Session}

variable (archive) in
/-- A staged archive is uploaded whole, and its two objects are there when the upload returns. -/
lemma keeps_uploadSnapshot (hlaw : lib.Lawful) {id : ContainerLayerId} {name : String}
    {snapshot : LayerSnapshot} (h : Backed lib cfg s.world)
    (hdigest : snapshot.digest = lib.sha256 archive)
    (hfile : s.world.staging[name]? = some (fileOf lib cfg archive))
    (hreads : FullReads cfg (fileOf lib cfg archive) s.answers)
    (hcount : partCount lib cfg archive < 2 ^ 32) :
    Keeps (Backed lib cfg)
      (fun _ s' => cfg.objectKey (lib.sha256 archive) ∈ s'.world.s3.objects ∧
        cfg.metadataKey (lib.sha256 archive) ∈ s'.world.s3.objects)
      (uploadSnapshot lib cfg id name snapshot) s := by
  refine keeps_bind (keeps_external h (by rwa [World.onFile_fst]) fun fileSize hsize => ?_)
  obtain ⟨file, hfile', rfl⟩ := World.onFile_eq_ok hsize
  rw [World.onFile_fst]
  rw [hfile] at hfile'
  cases hfile'
  by_cases hpos : cfg.partSizeBytes = 0
  · simp only [totalParts, hpos, if_true]
    exact keeps_throw h
  have htotal : totalParts cfg.partSizeBytes (fileOf lib cfg archive).length =
      some (partCount lib cfg archive) := by
    rw [totalParts, if_neg hpos]
    exact congrArg some (Nat.mod_eq_of_lt hcount)
  simp only [htotal, hdigest]
  -- the upload is created and recorded
  have hcreated := h.withS3 (h.s3.create archive) fun _ hk => hk
  refine keeps_bind (keeps_callS3 h hcreated fun created _ => ?_)
  refine keeps_bind (keeps_update hcreated ?_ ?_)
  · intro now state hstate
    refine ⟨hstate.remote, fun pending hpending => ⟨archive, ?_⟩⟩
    cases hpending
    exact ⟨rfl, rfl, rfl, rfl, rfl, Nat.pos_of_ne_zero hpos⟩
  intro k s₁ h₁ hs3 hstaging hanswers
  -- the parts are uploaded, and the upload is completed with all of them
  refine keeps_bind (Keeps.mono (keeps_uploadParts archive hlaw _ h₁ ?_ ?_
    fun n hn => hn) ?_)
  · rw [hstaging]
    exact hfile
  · rw [hanswers]
    exact (hreads.shift 2).shift k
  intro completed s₂ h₂ hsent
  obtain ⟨hsound, hgrow⟩ := h₂.s3.complete hlaw (Nat.pos_of_ne_zero hpos) created.1 hsent.numbers
  have hcompleted := h₂.withS3 hsound hgrow
  refine keeps_bind (keeps_callS3 h₂ hcompleted fun _ hok => ?_)
  have hobject : cfg.objectKey (lib.sha256 archive) ∈ (s₂.world.s3.completeMultipartUpload
      created.1 (cfg.objectKey (lib.sha256 archive)) completed).1.objects := by
    rcases complete_cases h₂.s3 hlaw (Nat.pos_of_ne_zero hpos) created.1 hsent.numbers with
      ⟨e, herror⟩ | hpublished
    · rw [herror] at hok
      cases hok
    · rw [hpublished]
      simp [ObjectStore.putObject]
  have hmetadata := hsound.putMetadata snapshot
  rw [hdigest] at hmetadata
  refine keeps_callS3 hcompleted (hcompleted.withS3 hmetadata (grows_putObject _ _ _))
    fun _ _ => ⟨?_, ?_⟩
  · exact grows_putObject _ _ _ _ hobject
  · simp [Session.answered, ObjectStore.putObject]

end Upload

/-! ## A resumed upload -/

section Resume

variable {lib : LayerLib} {cfg : LayerStorageConfig} {archive : List UInt8} {s : Session}
  {pending : PendingUpload}

/-- The tarball of a pending upload, if it is still there, is the one that was recorded, it is read
whole, and its parts fit on one page of the listing. -/
def Resumable (lib : LayerLib) (cfg : LayerStorageConfig) (pending : PendingUpload)
    (s : Session) : Prop :=
  pending.totalParts ≤ ObjectStore.maxListed ∧
    ∀ file, s.world.staging[pending.localTarballPath]? = some file →
      Staged lib cfg pending.digest file ∧ FullReads cfg file s.answers

lemma PendingSound.missingParts (h : PendingSound lib cfg pending archive) :
    pending.missingParts = range' 1 (partCount lib cfg archive) := by
  rw [PendingUpload.missingParts, h.totalParts, h.completedParts]
  exact filter_eq_self.mpr fun _ _ => by simp

/-- When S3 has all parts and they fit on one page, the page lists all of them. -/
lemma page_numbers {upload : ObjectStore.Upload} (hupload : UploadSound lib cfg archive upload)
    (hall : ∀ n ∈ range' 1 (partCount lib cfg archive), n ∈ upload.parts)
    (hfits : partCount lib cfg archive ≤ ObjectStore.maxListed) :
    (upload.page.map fun p => (p.1, p.2.eTag)).map Prod.fst =
      range' 1 (partCount lib cfg archive) := by
  have hsorted : ((entries upload.parts).map Prod.fst).Pairwise (· < ·) :=
    pairwise_map.mpr (ObjectStore.pairwise_entries upload.parts)
  have hkeys : (entries upload.parts).map Prod.fst =
      range' 1 (partCount lib cfg archive) := by
    refine Perm.eq_of_pairwise
      (fun a b _ _ (hab : a < b) hba => absurd hba (Nat.lt_asymm hab))
      hsorted pairwise_lt_range' ?_
    · refine (perm_ext_iff_of_nodup (hsorted.imp Nat.ne_of_lt)
        (nodup_range' 1)).mpr fun n => ⟨?_, ?_⟩
      · intro hn
        obtain ⟨⟨m, part⟩, hmem, rfl⟩ := mem_map.mp hn
        exact (hupload.parts m part ((mem_entries _).mp hmem)).1
      · intro hn
        obtain ⟨part, hpart⟩ := Option.isSome_iff_exists.mp
          (Std.ExtTreeMap.isSome_getElem?_iff_mem.mpr (hall n hn))
        exact mem_map.mpr ⟨(n, part), (mem_entries _).mpr hpart, rfl⟩
  have hlength : (entries upload.parts).length ≤ ObjectStore.maxListed := by
    have hlengths := congrArg length hkeys
    rw [length_map, length_range'] at hlengths
    exact hlengths ▸ hfits
  rw [map_map, ObjectStore.Upload.page, take_of_length_le hlength]
  exact hkeys

/-- Under a read guard no write request is granted. -/
lemma keeps_withWrite_blocked {α : Type} {Q : α → Session → Prop} {body : SyncCall α}
    (h : Backed lib cfg s.world) (hread : s.world.guards.readers ≠ 0) :
    Keeps (Backed lib cfg) Q (withWrite body) s := by
  refine keeps_withWrite (fun _ guards hw => hw.withGuards guards) h fun hgranted => ?_
  simp [Guards.canWrite, hread] at hgranted

variable {id : ContainerLayerId}

section

variable (hlaw : lib.Lawful) (h : Backed lib cfg s.world) (hread : s.world.guards.readers ≠ 0)
  (hpending : PendingSound lib cfg pending archive)

include hlaw h hread hpending

/-- The missing parts are all parts, and they are uploaded again; without the tarball the call is
stuck. -/
lemma keeps_uploadMissing (hresumable : Resumable lib cfg pending s) :
    Keeps (Backed lib cfg)
      (fun _ s' => s'.world.guards.readers ≠ 0 ∧
        ∀ n ∈ range' 1 (partCount lib cfg archive),
          Sent s'.world.s3 pending.uploadId pending.objectKey n)
      (uploadMissing id pending) s := by
  unfold uploadMissing
  rw [hpending.missingParts]
  split
  · next hempty =>
      refine keeps_pure h ⟨hread, fun n hn => ?_⟩
      rw [isEmpty_iff.mp hempty] at hn
      exact absurd hn not_mem_nil
  · refine keeps_bind (keeps_internal h h ?_)
    cases hexists : s.world.staging.contains pending.localTarballPath with
    | false =>
      rcases h.s3.abort pending.uploadId pending.objectKey with ⟨hsound, hgrow⟩
      refine keeps_bind (keeps_callS3 h (h.withS3 hsound hgrow) fun _ _ => ?_)
      exact keeps_bind (keeps_withWrite_blocked (h.withS3 hsound hgrow) hread)
    | true =>
      obtain ⟨file, hfile⟩ : ∃ file, s.world.staging[pending.localTarballPath]? = some file :=
        Option.isSome_iff_exists.mp (by simpa using hexists)
      obtain ⟨⟨archive', hsha, rfl⟩, hreads⟩ := hresumable.2 file hfile
      have hsame : archive' = archive :=
        hlaw.sha256_injective (hsha.trans hpending.digest)
      subst hsame
      rw [hpending.objectKey, hpending.partSize]
      refine keeps_bind (Keeps.mono (keeps_uploadParts _ hlaw _ h hfile hreads fun _ hn => hn) ?_)
      intro completed s' hs' hsent
      refine keeps_pure hs' ⟨?_, fun n hn => hsent.sent n (.inl hn)⟩
      rw [hsent.world]
      exact hread

lemma keeps_completeListed (hfits : pending.totalParts ≤ ObjectStore.maxListed)
    (hsent : ∀ n ∈ range' 1 (partCount lib cfg archive),
      Sent s.world.s3 pending.uploadId pending.objectKey n) :
    Keeps (Backed lib cfg) (fun _ s' => s'.world.guards.readers ≠ 0) (completeListed pending)
      s := by
  rw [hpending.totalParts] at hfits
  unfold completeListed
  rw [hpending.objectKey] at hsent ⊢
  have hlist : (s.world.s3.listParts pending.uploadId
      (cfg.objectKey (lib.sha256 archive))).1 = s.world.s3 := by
    unfold ObjectStore.listParts
    cases s.world.s3.find pending.uploadId (cfg.objectKey (lib.sha256 archive)) <;> rfl
  refine keeps_bind (keeps_callS3 h (by rwa [hlist]) fun listed hlisted => ?_)
  rw [hlist]
  have hnumbers : listed.map Prod.fst = range' 1 (partCount lib cfg archive) := by
    unfold ObjectStore.listParts at hlisted
    cases hfind : s.world.s3.find pending.uploadId (cfg.objectKey (lib.sha256 archive)) with
    | none =>
      rw [hfind] at hlisted
      cases hlisted
    | some upload =>
      rw [hfind] at hlisted
      cases hlisted
      refine page_numbers (h.s3.uploadSound hlaw hfind) (fun n hn => ?_) hfits
      obtain ⟨upload', hfind', hmem⟩ := hsent n hn
      rw [hfind] at hfind'
      cases hfind'
      exact hmem
  obtain ⟨hsound, hgrow⟩ := h.s3.complete hlaw hpending.partSize_pos pending.uploadId hnumbers
  exact keeps_callS3 h (h.withS3 hsound hgrow) fun _ _ => hread

/-- A resumed upload publishes nothing wrong, and it never gets to record anything. -/
lemma keeps_resumeUpload (hresumable : Resumable lib cfg pending s) :
    Keeps (Backed lib cfg) (fun _ _ => False) (resumeUpload lib cfg id pending) s := by
  refine keeps_bind (Keeps.mono (keeps_uploadMissing hlaw h hread hpending hresumable) ?_)
  rintro - s₁ h₁ ⟨hread₁, hsent⟩
  refine keeps_bind (Keeps.mono
    (keeps_completeListed hlaw h₁ hread₁ hpending hresumable.1 hsent) ?_)
  intro _ s₂ h₂ hread₂
  exact keeps_bind (keeps_withWrite_blocked h₂ hread₂)

end

end Resume

/-! ## Whole calls -/

section Calls

variable {lib : LayerLib} {cfg : LayerStorageConfig} {s : Session}

/-- What a call of `sync_layer` needs: for a pending upload, that it can be resumed; for a new
snapshot, that its file is read whole and its parts are counted in 32 bits. -/
def Intact (lib : LayerLib) (cfg : LayerStorageConfig) (id : ContainerLayerId) (archived : FsNode)
    (s : Session) : Prop :=
  match s.world.states[id.toKey]?.bind SyncState.pendingUpload with
  | some pending => Resumable lib cfg pending s
  | none =>
    FullReads cfg (fileOf lib cfg (lib.tar archived)) s.answers ∧
      partCount lib cfg (lib.tar archived) < 2 ^ 32

variable {id : ContainerLayerId} {archived : FsNode}

lemma keeps_resumePending (hlaw : lib.Lawful) (h : Backed lib cfg s.world)
    (hintact : Intact lib cfg id archived s) :
    Keeps (Backed lib cfg)
      (fun result s' => result = none ∧ FullReads cfg (fileOf lib cfg (lib.tar archived))
        s'.answers ∧
        partCount lib cfg (lib.tar archived) < 2 ^ 32)
      (resumePending lib cfg id) s := by
  refine keeps_withRead (fun _ guards hw => hw.withGuards guards) h fun _ => ?_
  have hguarded := h.withGuards { s.world.guards with readers := s.world.guards.readers + 1 }
  refine keeps_bind (keeps_getState _ hguarded ?_)
  unfold Intact at hintact
  have hsame : (setGuards (fun g => { g with readers := g.readers + 1 }) s).world.states =
    s.world.states := rfl
  rw [hsame]
  cases hpending : s.world.states[id.toKey]?.bind SyncState.pendingUpload with
  | none =>
    rw [hpending] at hintact
    exact keeps_pure hguarded ⟨rfl, hintact⟩
  | some pending =>
    rw [hpending] at hintact
    obtain ⟨state, hstate, hrecord⟩ := Option.bind_eq_some_iff.mp hpending
    obtain ⟨archive, hsound⟩ := (h.memory _ state hstate).pending pending hrecord
    refine keeps_bind (Keeps.mono (keeps_resumeUpload hlaw hguarded (Nat.succ_ne_zero _) hsound
      hintact) ?_)
    intro _ _ _ hfalse
    exact hfalse.elim

lemma keeps_syncLayer (hlaw : lib.Lawful) {hashed archived : FsNode}
    (h : Backed lib cfg s.world) (hintact : Intact lib cfg id archived s) :
    Keeps (Backed lib cfg) (fun _ _ => True) (syncLayer lib cfg id hashed archived) s := by
  refine keeps_bind (Keeps.mono (keeps_resumePending hlaw h hintact) ?_)
  rintro result s₁ h₁ ⟨rfl, hreads, hcount⟩
  refine keeps_bind (keeps_external h₁ h₁ fun current _ => ?_)
  refine keeps_bind (keeps_withRead (fun _ guards hw => hw.withGuards guards) h₁ fun _ => ?_)
  have hguarded := h₁.withGuards { s₁.world.guards with readers := s₁.world.guards.readers + 1 }
  refine keeps_bind (keeps_getState _ hguarded (keeps_pure hguarded ?_))
  have h₂ := hguarded.withGuards { s₁.world.guards with readers := s₁.world.guards.readers + 1 - 1 }
  split
  · exact keeps_pure h₂ trivial
  · -- the staged file is that of the archive
    refine keeps_bind (keeps_bind (keeps_external h₂ (h₂.withStaging _) fun _ _ => ?_))
    refine keeps_external (h₂.withStaging _) ((h₂.withStaging _).withStaging _)
      fun snapshot hsnapshot => ?_
    cases hsnapshot
    refine keeps_bind (Keeps.mono (keeps_uploadSnapshot (lib.tar archived) hlaw
      ((h₂.withStaging _).withStaging _) rfl ?_ (hreads.shift 3) hcount) ?_)
    · simp [Session.answered, createSnapshot, fileOf]
    · rintro - s₃ h₃ ⟨hobject, hmetadata⟩
      refine keeps_bind (keeps_update h₃ ?_ ?_)
      · intro now state hstate
        refine ⟨fun digest hdigest => ?_, fun pending hpending => ?_⟩
        · cases hdigest
          exact ⟨hobject, hmetadata⟩
        · cases hpending
      · intro k s₄ h₄ _ _ _
        exact keeps_bind (keeps_removeTarball h₄ (h₄.withStaging _) fun staging =>
          keeps_pure (h₄.withStaging _) trivial)

lemma keeps_registerContainer (h : Backed lib cfg s.world) :
    Keeps (Backed lib cfg) (fun _ _ => True) (registerContainer id) s := by
  have hnew (s3 : ObjectStore) : StateSound lib cfg s3 (SyncState.new id) :=
    ⟨fun _ hdigest => (by cases hdigest), fun _ hpending => (by cases hpending)⟩
  refine keeps_withWrite (fun _ guards hw => hw.withGuards guards) h fun _ => ?_
  have hguarded := h.withGuards { s.world.guards with writer := true }
  refine keeps_bind (keeps_getState _ hguarded ?_)
  cases hstate : (setGuards (fun g => { g with writer := true }) s).world.states[id.toKey]? with
  | some state => exact keeps_pure hguarded trivial
  | none =>
    have hsaved := hguarded.withStored (hnew _) (SyncState.new id).containerId.toKey
    refine keeps_bind (keeps_saveState hguarded hsaved ?_)
    refine keeps_internal hsaved ⟨hsaved.s3, ?_, hsaved.stored⟩ trivial
    intro key state h'
    rcases of_lookup_insert h' with ⟨-, rfl⟩ | ⟨-, hold⟩
    · exact hnew _
    · exact hsaved.memory key state hold

end Calls

end ZLayer.Storage
