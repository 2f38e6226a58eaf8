import ZLayer.Builder.BuildCache
import ZLayer.Lib.Machine
import ZLayer.Lib.Wire

/-!
# SkipSoundness — when a skipped build is the build that was asked for

A build is skipped for the hash of the build file alone, under a name that several tags share.  So
it is the build that was asked for only if nothing else has changed since the build that left its
record there.  Which build that was is an invariant of the run: every record in the data directory
comes from one of the recordings made before, and lies in a directory that this recording has
written or that was copied from one.
-/

namespace ZLayer.Builder
namespace DataDir

open Lib HashMap List

variable {sha256 : List UInt8 → String} {d : DataDir}

/-! ## What is claimed of a skipped build -/

/-- The record was written by the build that the task asks for. -/
def SameBuild (d : DataDir) (t : Task) (record : ImageRecord) : Prop :=
  t.noCache = false ∧
    ∃ build ∈ d.builds[record.build]?, t.file = some build.file ∧
      build.vars = t.pipeline.vars ∧ build.buildArgs = t.buildArgs ∧
      build.platform = t.platform ∧ build.dependencies = d.dependencyBuilds t ∧
      ∀ tag ∈ t.expandedTags.head?, tag ∈ build.tags

/-- If the step makes `build_single_image` return without building, the record is of the build that
was asked for. -/
def SkipSound (sha256 : List UInt8 → String) (d : DataDir) : Step → Prop
  | .look t => ∀ record, d.skippedBy sha256 t = some record → d.SameBuild t record
  | .enter c => c.oneOf = none →
      ∀ record, d.unchangedFor sha256 c = some record → d.SameBuild c.task record
  | .startRun | .record .. | .tagImage .. => True

/-! ## Recordings -/

/-- A build that was recorded: its call, the bytes it read as build file, the builds of the images
it depends on, and the directories that may hold its record. -/
structure Recording where
  call : BuilderCall
  read : List UInt8
  dependencies : List (List Nat)
  dirs : List String

/-- A directory is copied for another tag, and overwritten by the next recording. -/
def Step.copies (dirs : List String) : Step → List String
  | .tagImage image newTag _ =>
    if sanitizeImageNameForCache image ∈ dirs then sanitizeImageNameForCache newTag :: dirs
    else dirs
  | .record c _ => dirs.filter (· ≠ c.imageDir)
  | .startRun | .look _ | .enter _ => dirs

/-- A data directory with the recordings of the steps that led to it. -/
structure History where
  dir : DataDir
  recordings : List Recording

namespace History

def start : History :=
  { dir := empty
    recordings := [] }

def next (sha256 : List UInt8 → String) (h : History) (step : Step) : History :=
  let kept := h.recordings.map fun w => { w with dirs := step.copies w.dirs }
  { dir := h.dir.next sha256 step
    recordings :=
      match step with
      | .record c read => ⟨c, read, h.dir.dependencyBuilds c.task, [c.imageDir]⟩ :: kept
      | _ => kept }

end History

/-! ## When it holds -/

/-- The directory a check looks into, the bytes whose hash it looks for, and the task that it may
skip.  The builder's check for one of several platforms skips no task. -/
def Step.check : Step → Option (String × List UInt8 × Task)
  | .look t =>
    match t.file, t.expandedTags.head? with
    | some bytes, some tag => some (sanitizeImageNameForCache tag, bytes, t)
    | _, _ => none
  | .enter c => if c.oneOf = none then some (c.imageDir, c.hashed, c.task) else none
  | .startRun | .record .. | .tagImage .. => none

/-- The task may use the recorded build: the cache is on, and it has the inputs of the recording. -/
def Recording.Serves (w : Recording) (d : DataDir) (t : Task) : Prop :=
  t.noCache = false ∧ t.file = some w.read ∧
    w.call.task.pipeline.vars = t.pipeline.vars ∧ w.call.task.buildArgs = t.buildArgs ∧
    w.call.platform = t.platform ∧ w.dependencies = d.dependencyBuilds t ∧
    ∀ tag ∈ t.expandedTags.head?, tag ∈ w.call.tags

/-- A name that is an entry of the directory of images. -/
def PlainName (name : String) : Prop :=
  name ≠ "" ∧ name ≠ "." ∧ name ≠ ".."

def Step.dirs : Step → List String
  | .look t => (t.expandedTags.take 1).map sanitizeImageNameForCache
  | .enter c | .record c _ => [c.imageDir]
  | .tagImage image newTag _ => [sanitizeImageNameForCache image, sanitizeImageNameForCache newTag]
  | .startRun => []

/-- The condition on a step and those before it: a check that meets the directory and the bytes of
an earlier recording is for a task that this recording serves. -/
def Unaffected (h : History) (step : Step) : Prop :=
  (∀ dir ∈ step.dirs, PlainName dir) ∧
    ∀ check ∈ step.check, ∀ w ∈ h.recordings, check.1 ∈ w.dirs → w.call.hashed = check.2.1 →
      w.Serves h.dir check.2.2

def Step.hashes : Step → List (List UInt8)
  | .look t => t.file.toList
  | .enter c | .record c _ => [c.hashed]
  | .startRun | .tagImage .. => []

/-- The hash function has no collision among the bytes that are hashed in the run. -/
def CollisionFree (sha256 : List UInt8 → String) (steps : List Step) : Prop :=
  ∀ a ∈ steps.flatMap Step.hashes, ∀ b ∈ steps.flatMap Step.hashes, sha256 a = sha256 b → a = b

instance (h : History) (step : Step) : Decidable (Unaffected h step) := by
  unfold Unaffected PlainName Recording.Serves
  infer_instance

instance (steps : List Step) : Decidable (CollisionFree sha256 steps) := by
  unfold CollisionFree
  infer_instance

/-! ## Every record comes from a recording -/

def Recording.build (w : Recording) : Build :=
  { file := w.read
    vars := w.call.task.pipeline.vars
    buildArgs := w.call.task.buildArgs
    platform := w.call.platform
    dependencies := w.dependencies
    tags := w.call.tags }

/-- The record of a directory was written by this recording, from bytes that the run has hashed. -/
structure Recording.Wrote (sha256 : List UInt8 → String) (steps : List Step) (d : DataDir)
    (imageDir : String) (record : ImageRecord) (w : Recording) : Prop where
  dir : imageDir ∈ w.dirs
  hashed : record.hashed = w.call.hashed
  sourceHash : record.sourceHash = sha256 record.hashed
  hashes : record.hashed ∈ steps.flatMap Step.hashes
  build : d.builds[record.build]? = some w.build

def Traced (sha256 : List UInt8 → String) (steps : List Step) (h : History) : Prop :=
  ∀ imageDir record, h.dir.images[imageDir]? = some record →
    ∃ w ∈ h.recordings, w.Wrote sha256 steps h.dir imageDir record

/-- Where the record of a directory comes from: it was there, was just written, or was copied. -/
lemma images_next {step : Step} {imageDir : String} {record : ImageRecord}
    (h : (d.next sha256 step).images[imageDir]? = some record) :
    (d.images[imageDir]? = some record ∧ ∀ dirs, imageDir ∈ dirs → imageDir ∈ step.copies dirs) ∨
      (∃ c read, step = .record c read ∧ imageDir = c.imageDir ∧
        record = ⟨sha256 c.hashed, c.hashed, d.builds.length⟩) ∨
      ∃ src, d.images[src]? = some record ∧ ∀ dirs, src ∈ dirs → imageDir ∈ step.copies dirs := by
  cases step with
  | startRun => exact .inl ⟨h, fun _ hdirs => hdirs⟩
  | look t =>
    refine .inl ⟨?_, fun _ hdirs => hdirs⟩
    rw [DataDir.next] at h
    split at h <;> exact h
  | enter c =>
    refine .inl ⟨?_, fun _ hdirs => hdirs⟩
    rw [DataDir.next] at h
    split at h
    · exact h
    · exact (of_lookup_erase h).2
  | record c read =>
    rcases of_lookup_insert h with ⟨rfl, rfl⟩ | ⟨hne, hold⟩
    · exact .inr (.inl ⟨c, read, rfl, rfl, rfl⟩)
    · exact .inl ⟨hold, fun dirs hdirs => mem_filter.mpr ⟨hdirs, by simpa using Ne.symm hne⟩⟩
  | tagImage image newTag dirExists =>
    have hkept : ∀ dirs, imageDir ∈ dirs →
        imageDir ∈ Step.copies dirs (.tagImage image newTag dirExists) := by
      intro dirs hdirs
      rw [Step.copies]
      split
      · exact mem_cons_of_mem _ hdirs
      · exact hdirs
    rw [DataDir.next] at h
    dsimp only at h
    split at h
    next found hfound =>
      rcases of_lookup_insert h with ⟨rfl, rfl⟩ | ⟨-, hold⟩
      · refine .inr (.inr ⟨_, (of_lookup_erase hfound).2, fun dirs hdirs => ?_⟩)
        rw [Step.copies, if_pos hdirs]
        exact mem_cons_self
      · exact .inl ⟨hold, hkept⟩
    · split at h
      · exact .inl ⟨(of_lookup_erase h).2, hkept⟩
      · exact .inl ⟨h, hkept⟩

lemma builds_next {step : Step} {i : Nat} {build : Build} (h : d.builds[i]? = some build) :
    (d.next sha256 step).builds[i]? = some build := by
  cases step with
  | startRun => exact h
  | look t =>
    rw [DataDir.next]
    split <;> exact h
  | enter c =>
    rw [DataDir.next]
    split <;> exact h
  | record c read =>
    exact (getElem?_append_left (List.getElem?_eq_some_iff.mp h).1).trans h
  | tagImage image newTag dirExists =>
    rw [DataDir.next]
    dsimp only
    split
    · exact h
    · split <;> exact h

variable {steps : List Step} {h : History}

/-- A recording has still written the record it wrote before, wherever this is now. -/
lemma Recording.Wrote.next {step : Step} {src dst : String} {record : ImageRecord} {w : Recording}
    (hw : w ∈ h.recordings) (hwrote : w.Wrote sha256 steps h.dir src record)
    (hcopied : dst ∈ step.copies w.dirs) :
    ∃ w ∈ (h.next sha256 step).recordings,
      w.Wrote sha256 steps (h.next sha256 step).dir dst record := by
  refine ⟨{ w with dirs := step.copies w.dirs }, ?_, hcopied, hwrote.hashed, hwrote.sourceHash,
    hwrote.hashes, builds_next hwrote.build⟩
  have hkept := mem_map_of_mem (f := fun w => { w with dirs := step.copies w.dirs }) hw
  cases step with
  | record c read => exact mem_cons_of_mem _ hkept
  | startRun | look | enter | tagImage => exact hkept

lemma Traced.next (htraced : Traced sha256 steps h) {step : Step} (hstep : step ∈ steps) :
    Traced sha256 steps (h.next sha256 step) := by
  intro imageDir record hrecord
  rcases images_next hrecord with ⟨hold, hkept⟩ | ⟨c, read, rfl, rfl, rfl⟩ | ⟨src, hold, hcopied⟩
  · rcases htraced imageDir record hold with ⟨w, hw, hwrote⟩
    exact hwrote.next hw (hkept _ hwrote.dir)
  · refine ⟨_, mem_cons_self, mem_singleton_self _, rfl, rfl, ?_, ?_⟩
    · exact mem_flatMap.mpr ⟨_, hstep, mem_singleton_self _⟩
    · exact getElem?_concat_length
  · rcases htraced src record hold with ⟨w, hw, hwrote⟩
    exact hwrote.next hw (hcopied _ hwrote.dir)

/-! ## Skips -/

/-- A record that is found was written from the bytes whose hash was looked for, so the recording
that wrote it serves the task. -/
lemma sameBuild_of_found (hcollision : CollisionFree sha256 steps) (htraced : Traced sha256 steps h)
    {step : Step} (hunaffected : Unaffected h step) {imageDir : String} {bytes : List UInt8}
    {t : Task} (hcheck : step.check = some (imageDir, bytes, t))
    (hbytes : bytes ∈ steps.flatMap Step.hashes) {record : ImageRecord}
    (hfound : h.dir.checkCachedImageHash imageDir (sha256 bytes) = some record) :
    h.dir.SameBuild t record := by
  rcases Option.filter_eq_some_iff.mp hfound with ⟨hrecord, hhash⟩
  rcases htraced imageDir record hrecord with ⟨w, hw, hwrote⟩
  have hsame : record.hashed = bytes := hcollision _ hwrote.hashes _ hbytes
    (hwrote.sourceHash.symm.trans (of_decide_eq_true hhash))
  rcases hunaffected.2 _ hcheck w hw hwrote.dir (hwrote.hashed.symm.trans hsame) with
    ⟨hcache, hinputs⟩
  exact ⟨hcache, w.build, hwrote.build, hinputs⟩

lemma skipSound_of_unaffected (hcollision : CollisionFree sha256 steps)
    (htraced : Traced sha256 steps h) {step : Step} (hstep : step ∈ steps)
    (hunaffected : Unaffected h step) : h.dir.SkipSound sha256 step := by
  have hhashes : ∀ bytes ∈ step.hashes, bytes ∈ steps.flatMap Step.hashes :=
    fun bytes hbytes => mem_flatMap.mpr ⟨step, hstep, hbytes⟩
  cases step with
  | look t =>
    intro record hskip
    unfold skippedBy at hskip
    split at hskip
    next bytes tag hfile htag =>
      refine sameBuild_of_found hcollision htraced hunaffected ?_ (hhashes bytes ?_) hskip
      · simp only [Step.check, hfile, htag]
      · simp [Step.hashes, hfile]
    · cases hskip
  | enter c =>
    intro hsingle record hskip
    refine sameBuild_of_found hcollision htraced hunaffected ?_ (hhashes _ ?_) hskip
    · rw [Step.check, if_pos hsingle]
    · exact mem_singleton_self _
  | startRun | record | tagImage => trivial

/-- In every sequence of pipeline runs whose steps are unaffected by what was recorded before, a
build is skipped only for a record of the build that was asked for. -/
theorem skipSound_of_run (steps : List Step) (hcollision : CollisionFree sha256 steps)
    (h : Machine.Along (History.next sha256) Unaffected .start steps) :
    Machine.Along (next sha256) (SkipSound sha256) empty steps := by
  -- along the rest of the run, whose steps are steps of the run
  have hrest : ∀ rest ⊆ steps, ∀ past, Traced sha256 steps past →
      Machine.Along (History.next sha256) Unaffected past rest →
        Machine.Along (next sha256) (SkipSound sha256) past.dir rest := by
    intro rest
    induction rest with
    | nil => exact fun _ _ _ _ => trivial
    | cons step rest ih =>
      intro hsub past htraced hunaffected
      have hstep : step ∈ steps := hsub mem_cons_self
      exact ⟨skipSound_of_unaffected hcollision htraced hstep hunaffected.1,
        ih (fun s hs => hsub (mem_cons_of_mem _ hs)) _ (htraced.next hstep) hunaffected.2⟩
  refine hrest steps (Subset.refl _) .start (fun _ _ hrecord => ?_) h
  simp [History.start, empty] at hrecord

/-! ## Runs -/

def onePipeline (noCache : Option Bool) (tags : List String) (arg : String) : ZPipeline :=
  { vars := ofEntries [("VERSION", "1.0")]
    defaults := ⟨∅, false, []⟩
    images := [("app",
      { file := "Dockerfile"
        tags
        buildArgs := ofEntries [("MODE", arg)]
        dependsOn := []
        noCache
        platforms := [] })]
    names_nodup := nodup_singleton _ }

def oneTask (noCache : Option Bool) (tags : List String) (arg file : String) : Task :=
  { pipeline := onePipeline noCache tags arg
    name := "app"
    image := _
    isImage := mem_singleton_self _
    platform := none
    file := some (utf8Bytes file)
    varOrder := .byKey }

def oneCall (task : Task) : BuilderCall :=
  { task
    oneOf := none
    keys := []
    buildId := "1" }

def sha256OfExamples (bytes : List UInt8) : String :=
  if bytes = utf8Bytes "FROM scratch\n" then
    "bb57c7da220a8753d7bdabac0d3afdb6efa742e4c736c5bc93ab40dfd5e23b9b"
  else if bytes = utf8Bytes "FROM alpine\n" then
    "f04bea490d45e7ae69d542846511e7c90eb683deaa1e0df19e9fca4d227265c2"
  else ""

def buildSteps (task : Task) (file : String) : List Step :=
  [.startRun, .look task, .enter (oneCall task), .record (oneCall task) (utf8Bytes file)]

def versionTag : String := "app:$\x7bVERSION\x7d"

def bothTags : Task := oneTask none [versionTag, "app:latest"] "fast" "FROM scratch\n"

/-- An image with two tags is built, and skipped under either tag.  When its file has changed it is
built with other arguments, and skipped again. -/
theorem skipSound_of_rebuild :
    let rebuilt := oneTask none [versionTag] "small" "FROM alpine\n"
    Machine.Along (next sha256OfExamples) (SkipSound sha256OfExamples) empty
      (buildSteps bothTags "FROM scratch\n" ++
        [.tagImage "app:1.0" "app:latest" true, .startRun, .look bothTags, .startRun,
          .look (oneTask none ["app:latest"] "fast" "FROM scratch\n")] ++
        buildSteps rebuilt "FROM alpine\n" ++ [.startRun, .look rebuilt]) :=
  skipSound_of_run _ (by decide +kernel) (by decide +kernel)

/-- With `no_cache` on and another argument, the image is returned as it was built before. -/
theorem noCache_ignored :
    let d := (buildSteps bothTags "FROM scratch\n").foldl (next sha256OfExamples) empty
    let task := oneTask (some true) [versionTag] "small" "FROM scratch\n"
    task.noCache = true ∧ ((d.skippedBy sha256OfExamples task).map fun record =>
      decide (d.builds[record.build]?.map (·.buildArgs) = some task.buildArgs)) = some false := by
  decide +kernel

end DataDir
end ZLayer.Builder
