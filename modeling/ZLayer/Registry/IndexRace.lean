import ZLayer.Lib.Machine
import ZLayer.Registry.MapRefinement

/-!
# IndexRace — builds of a wave on one registry

Every build of a wave opens a handle of its own on the same root.  A handle has the index as it was
when it was opened, adds its image to it and writes it back whole.  An image that another build has
stored in between is then no longer listed, unless the handle has it too.
-/

namespace ZLayer.Registry

open Lib FileTree HashMap

/-! ## What storing a manifest leaves alone -/

/-- The index file stays as it is, and directories stay directories. -/
structure Keeps (disk disk' : FileTree FileContent) : Prop where
  index : lookup disk' ["index.json"] = lookup disk ["index.json"]
  dirs : ∀ q, lookup disk q = some .dir → lookup disk' q = some .dir

namespace Keeps

variable {α : Type} {disk disk' disk'' : FileTree FileContent} {path : List String}

lemma refl (disk : FileTree FileContent) : Keeps disk disk :=
  ⟨rfl, fun _ h => h⟩

lemma trans (h : Keeps disk disk') (h' : Keeps disk' disk'') : Keeps disk disk'' :=
  ⟨h'.index.trans h.index, fun q hq => h'.dirs q (h.dirs q hq)⟩

lemma createDirAll (h : createDirAll disk path = .ok disk')
    (hpath : path.head? ≠ some "index.json") : Keeps disk disk' := by
  have hlookup := lookup_createDirAll h
  refine ⟨?_, fun q hq => ?_⟩
  · rw [hlookup, if_neg]
    rintro ⟨rest, rfl⟩
    exact hpath rfl
  · rw [hlookup, hq, ite_self]

lemma write {content : FileContent} (h : write disk path content = .ok disk')
    (hpath : path ≠ ["index.json"]) : Keeps disk disk' := by
  have hlookup := lookup_write h
  refine ⟨?_, fun q hq => ?_⟩
  · rw [hlookup, if_neg (Ne.symm hpath)]
  · rw [hlookup, if_neg]
    · exact hq
    · rintro rfl
      exact (write_eq_ok h).2.2.1 hq

lemma rename {src dst : List String} (h : rename disk src dst = .ok disk')
    (hsrc : src ≠ ["index.json"]) (hdst : dst ≠ ["index.json"]) : Keeps disk disk' := by
  rcases rename_eq_ok h with ⟨content, hfile, hwrite⟩
  have hne := ne_nil_of_lookup_file hfile
  have herase : Keeps disk (disk.erase src) := by
    refine ⟨?_, fun q hq => ?_⟩
    · rw [lookup_erase _ hne, if_neg (Ne.symm hsrc)]
    · rw [lookup_erase _ hne, if_neg]
      · exact hq
      · rintro rfl
        exact nomatch hfile.symm.trans hq
  exact herase.trans (Keeps.write hwrite hdst)

variable {next : Store → Except LocalRegistryError α × Store}

lemma io {result : Except IoError (FileTree FileContent)} {s : Store}
    (h : ∀ disk, result = .ok disk → Keeps s.disk disk ∧
      Keeps ({ s with disk } : Store).disk (next { s with disk }).2.disk) :
    Keeps s.disk (io result s next).2.disk := by
  cases result with
  | error e => exact refl _
  | ok disk =>
    rcases h disk rfl with ⟨hfirst, hnext⟩
    exact hfirst.trans hnext

lemma writeNew {data : List UInt8} {s : Store} (hpath : 2 ≤ path.length)
    (h : ∀ s', Keeps s'.disk (next s').2.disk) :
    Keeps s.disk (writeNew path data s next).2.disk := by
  have hlong {q : List String} (hq : 2 ≤ q.length) : q ≠ ["index.json"] := by
    rintro rfl
    simp at hq
  have htmp : 2 ≤ (withExtension path "tmp").length := by
    simp only [withExtension, List.length_append, List.length_dropLast, List.length_singleton]
    omega
  unfold Registry.writeNew
  split
  · exact h s
  · refine io fun tmpDisk hwrite => ⟨write hwrite (hlong htmp), ?_⟩
    exact io fun disk hrename => ⟨rename hrename (hlong htmp) (hlong hpath), h _⟩

end Keeps

lemma keeps_putManifestFiles (sha : Sha256) (name reference : String) (manifest : List UInt8)
    (s : Store) {α : Type} (next : Store → Except LocalRegistryError α × Store)
    (hnext : ∀ s', (next s').2.disk = s'.disk) :
    Keeps s.disk (putManifestFiles sha name reference manifest s next).2.disk := by
  have hhead (below : String) (hbelow : below ≠ "index.json") :
      (manifestsDir name ++ [below]).head? ≠ some "index.json" := by
    rcases manifestsDir_cases name with ⟨hdir | hdir, -⟩ | ⟨hdir, -⟩ <;> simp [hdir, hbelow]
  have hmanifest : 2 ≤ (manifestPath name (computeDigest sha manifest)).length := by
    rw [manifestPath, join_of_plainName _ plainName_sha256, hashOf_computeDigest,
      join_of_plainName _ (hex_plainName sha manifest)]
    simp
  unfold putManifestFiles
  dsimp only
  rw [join_of_plainName _ plainName_sha256, join_of_plainName _ plainName_tags]
  refine Keeps.io fun disk₁ h₁ => ⟨Keeps.createDirAll h₁ (hhead _ (by decide)), ?_⟩
  refine Keeps.io fun disk₂ h₂ => ⟨Keeps.createDirAll h₂ (hhead _ (by decide)), ?_⟩
  refine Keeps.writeNew hmanifest fun s' => ?_
  refine Keeps.io fun disk₃ h₃ => ⟨?_, hnext _ ▸ Keeps.refl _⟩
  split at h₃
  · exact Keeps.write h₃ (apart_tagPath name reference).1
  · cases h₃
    exact Keeps.refl _

/-! ## A wave -/

inductive Build
  | waiting
  | ready (index : RegistryIndex)
  | written (index : RegistryIndex) (name reference : String)
  | updated (index : RegistryIndex) (name : String)
  | failed

/-- The files, the builds, and the images whose `put_manifest` has returned. -/
structure Wave where
  disk : FileTree FileContent
  builds : Nat → Build
  stored : List String

inductive Step
  | openHandle (build : Nat)
  | write (build : Nat) (name reference : String) (manifest : List UInt8)
  | update (build : Nat) (now : Nat)
  | save (build : Nat)

namespace Wave

def start (disk : FileTree FileContent) : Wave :=
  { disk := disk
    builds := fun _ => .waiting
    stored := [] }

def setBuild (w : Wave) (i : Nat) (build : Build) : Wave :=
  { w with builds := Function.update w.builds i build }

/-- A step of a build that is not ready for it does nothing. -/
def next (sha : Sha256) (w : Wave) : Step → Wave
  | .openHandle i =>
    match w.builds i with
    | .waiting =>
      match openRegistry ⟨w.disk, .new⟩ with
      | (.ok (), s) => { w.setBuild i (.ready s.index) with disk := s.disk }
      | (.error _, s) => { w.setBuild i .failed with disk := s.disk }
    | _ => w
  | .write i name reference manifest =>
    match w.builds i with
    | .ready index =>
      match putManifestFiles sha name reference manifest ⟨w.disk, index⟩ fun s => (.ok (), s) with
      | (.ok (), s) => { w.setBuild i (.written s.index name reference) with disk := s.disk }
      | (.error _, s) => { w.setBuild i .failed with disk := s.disk }
    | _ => w
  | .update i now =>
    match w.builds i with
    | .written index name reference =>
      w.setBuild i (.updated (updateIndex now name reference index) name)
    | _ => w
  | .save i =>
    match w.builds i with
    | .updated index name =>
      match saveIndex ⟨w.disk, index⟩ () with
      | (.ok (), s) =>
        { w.setBuild i (.ready index) with
          disk := s.disk
          stored := w.stored ++ [name] }
      | (.error _, s) => { w.setBuild i .failed with disk := s.disk }
    | _ => w

end Wave

/-! ## What is stored is listed -/

/-- The condition on a step: a build that saves its index has the images of the index file. -/
def Current (w : Wave) : Step → Prop
  | .save i =>
    match w.builds i, lookup w.disk ["index.json"] with
    | .updated index _, some (.file (.index saved)) =>
      ∀ name ∈ (entries saved.images).map Prod.fst, name ∈ index.images
    | _, _ => True
  | _ => True

instance (w : Wave) : (step : Step) → Decidable (Current w step)
  | .openHandle _ | .write .. | .update .. => .isTrue trivial
  | .save i => by
      unfold Current
      dsimp only
      split <;> infer_instance

/-- The files of a registry that some build has opened. -/
structure Opened (disk : FileTree FileContent) : Prop where
  blobs : ∀ q, q <+: blobsDir → lookup disk q = some .dir
  manifests : lookup disk ["manifests"] = some .dir
  index : lookup disk ["index.json"] = none ∨
    ∃ index, lookup disk ["index.json"] = some (.file (.index index))

variable {disk disk' : FileTree FileContent}

lemma Keeps.opened (h : Keeps disk disk') (hopened : Opened disk) : Opened disk' where
  blobs q hq := h.dirs q (hopened.blobs q hq)
  manifests := h.dirs _ hopened.manifests
  index := by
    rw [h.index]
    exact hopened.index

def Listed (disk : FileTree FileContent) (name : String) : Prop :=
  ∃ index, lookup disk ["index.json"] = some (.file (.index index)) ∧ name ∈ index.images

lemma Keeps.listed (h : Keeps disk disk') {name : String} (hlisted : Listed disk name) :
    Listed disk' name := by
  rcases hlisted with ⟨index, hfile, hname⟩
  exact ⟨index, h.index.trans hfile, hname⟩

lemma loadIndex_disk (s : Store) : (loadIndex s).2.disk = s.disk := by
  unfold loadIndex
  split <;> rfl

lemma keeps_openRegistry (s : Store) : Keeps s.disk (openRegistry s).2.disk := by
  refine Keeps.io fun disk₁ h₁ => ⟨Keeps.createDirAll h₁ (by decide), ?_⟩
  refine Keeps.io fun disk₂ h₂ => ⟨Keeps.createDirAll h₂ (by decide), ?_⟩
  rw [loadIndex_disk]
  exact Keeps.refl _

/-- A registry that was opened has its directories. -/
lemma opened_of_ok {s s' : Store} (h : openRegistry s = (.ok (), s')) : Opened s'.disk := by
  unfold openRegistry at h
  cases h₁ : createDirAll s.disk blobsDir with
  | error e =>
    rw [h₁] at h
    cases h
  | ok disk₁ =>
    rw [io_of_ok h₁] at h
    cases h₂ : createDirAll disk₁ ["manifests"] with
    | error e =>
      simp only [h₂, io] at h
      cases h
    | ok disk₂ =>
      rw [io_of_ok h₂] at h
      have hdisk : s'.disk = disk₂ := by
        have hsame := loadIndex_disk ⟨disk₂, s.index⟩
        rwa [h] at hsame
      have hlookup₁ := lookup_createDirAll h₁
      have hlookup₂ := lookup_createDirAll h₂
      constructor
      case blobs =>
        intro q hq
        rw [hdisk, hlookup₂, hlookup₁, if_pos hq, ite_self]
      case manifests =>
        rw [hdisk, hlookup₂, if_pos List.prefix_rfl]
      case index =>
        rw [hdisk]
        unfold loadIndex at h
        dsimp only at h
        split at h
        next hnone => exact .inl hnone
        next index hfile => exact .inr ⟨index, hfile⟩
        · cases h
        · cases h

/-- A registry that was opened can be opened again, and its index is that of the file. -/
lemma openRegistry_of_opened {disk : FileTree FileContent} (h : Opened disk)
    (index : RegistryIndex) : ∃ s, openRegistry ⟨disk, index⟩ = (.ok (), s) ∧
      ∀ saved, lookup disk ["index.json"] = some (.file (.index saved)) → s.index = saved := by
  have hblobs (q : List String) (c : FileContent) (hq : q <+: blobsDir) :
      lookup disk q ≠ some (.file c) := by simp [h.blobs q hq]
  rcases createDirAll_ok hblobs with ⟨disk₁, h₁, -⟩
  have hkeeps₁ : Keeps disk disk₁ := Keeps.createDirAll h₁ (by decide)
  have hfree (q : List String) (c : FileContent) (hq : q <+: ["manifests"]) :
      lookup disk₁ q ≠ some (.file c) := by
    rcases prefix_manifests hq with rfl | rfl
    · simp [lookup]
    · simp [hkeeps₁.dirs _ h.manifests]
  rcases createDirAll_ok hfree with ⟨disk₂, h₂, -⟩
  have hkeeps₂ : Keeps disk disk₂ := hkeeps₁.trans (Keeps.createDirAll h₂ (by decide))
  rw [openRegistry, io_of_ok h₁, io_of_ok h₂, loadIndex]
  dsimp only
  rw [hkeeps₂.index]
  rcases h.index with hnone | ⟨saved, hfile⟩
  · rw [hnone]
    exact ⟨_, rfl, fun _ hsaved => by cases hsaved⟩
  · rw [hfile]
    refine ⟨_, rfl, fun other hother => ?_⟩
    cases hother
    rfl

/-- Saving the index fails and changes nothing, or it writes the index file. -/
lemma saveIndex_cases (s : Store) : (∃ e, saveIndex s () = (.error e, s)) ∨
      ∃ disk, saveIndex s () = (.ok (), { s with disk }) ∧
        (∀ q, lookup disk q =
          if q = ["index.json"] then some (.file (.index s.index)) else lookup s.disk q) := by
  unfold saveIndex
  cases h : write s.disk ["index.json"] (.index s.index) with
  | error e => exact .inl ⟨_, rfl⟩
  | ok disk => exact .inr ⟨disk, rfl, lookup_write h⟩

structure Sound (w : Wave) : Prop where
  opened : Opened w.disk ∨
    w.stored = [] ∧ ∀ i, w.builds i = .waiting ∨ w.builds i = .failed
  listed : ∀ name ∈ w.stored, Listed w.disk name
  updated : ∀ i index name, w.builds i = .updated index name → name ∈ index.images

lemma sound_start (disk : FileTree FileContent) : Sound (Wave.start disk) where
  opened := .inr ⟨rfl, fun _ => .inl rfl⟩
  listed := fun _ h => nomatch h
  updated := fun _ _ _ h => nomatch h

namespace Sound

variable {w : Wave} {i : Nat} {build : Build} {disk : FileTree FileContent}

/-- A build has gone on, with the files that matter kept. -/
lemma setBuild (h : Sound w) (hkeeps : Keeps w.disk disk)
    (hopened : Opened disk ∨ build = .waiting ∨ build = .failed)
    (hupdated : ∀ index name, build = .updated index name → name ∈ index.images) :
    Sound { w.setBuild i build with disk } where
  opened := by
    rcases hopened with hopened | hbuild
    · exact .inl hopened
    · rcases h.opened with hbefore | ⟨hnone, hbuilds⟩
      · exact .inl (hkeeps.opened hbefore)
      · refine .inr ⟨hnone, fun j => ?_⟩
        by_cases hj : j = i
        · simpa [Wave.setBuild, hj] using hbuild
        · simpa [Wave.setBuild, hj] using hbuilds j
  listed name hname := hkeeps.listed (h.listed name hname)
  updated j index name hj := by
    by_cases heq : j = i
    · rw [heq] at hj
      exact hupdated index name (by simpa [Wave.setBuild] using hj)
    · exact h.updated j index name (by simpa [Wave.setBuild, heq] using hj)

/-- A build that has got further has opened the registry. -/
lemma opened_of_build (h : Sound w) (hwaiting : w.builds i ≠ .waiting)
    (hfailed : w.builds i ≠ .failed) : Opened w.disk := by
  rcases h.opened with hopened | ⟨-, hbuilds⟩
  · exact hopened
  · exact absurd (hbuilds i) (not_or.mpr ⟨hwaiting, hfailed⟩)

lemma next {sha : Sha256} (h : Sound w) {step : Step} (hcurrent : Current w step) :
    Sound (w.next sha step) := by
  cases step with
  | openHandle i =>
    rw [Wave.next]
    split
    · have hkeeps := keeps_openRegistry ⟨w.disk, .new⟩
      split
      next s hs =>
        rw [hs] at hkeeps
        exact h.setBuild hkeeps (.inl (opened_of_ok hs)) nofun
      next s hs =>
        rw [hs] at hkeeps
        exact h.setBuild hkeeps (.inr (.inr rfl)) nofun
    · exact h
  | write i name reference manifest =>
    rw [Wave.next]
    split
    next index hbuild =>
      have hopened := h.opened_of_build (i := i) (by simp [hbuild]) (by simp [hbuild])
      have hkeeps := keeps_putManifestFiles sha name reference manifest ⟨w.disk, index⟩
        (fun s => (.ok (), s)) fun _ => rfl
      split
      next s hs =>
        rw [hs] at hkeeps
        exact h.setBuild hkeeps (.inl (hkeeps.opened hopened)) nofun
      next s hs =>
        rw [hs] at hkeeps
        exact h.setBuild hkeeps (.inr (.inr rfl)) nofun
    · exact h
  | update i now =>
    rw [Wave.next]
    split
    next index name reference hbuild =>
      have hopened := h.opened_of_build (i := i) (by simp [hbuild]) (by simp [hbuild])
      refine h.setBuild (Keeps.refl w.disk) (.inl hopened) ?_
      rintro index' name' ⟨⟩
      simp [updateIndex, RegistryIndex.stored]
    · exact h
  | save i =>
    rw [Wave.next]
    split
    next index name hbuild =>
      have hopened := h.opened_of_build (i := i) (by simp [hbuild]) (by simp [hbuild])
      rcases saveIndex_cases ⟨w.disk, index⟩ with ⟨e, hsave⟩ | ⟨disk, hsave, hdisk⟩
      · rw [hsave]
        exact h.setBuild (Keeps.refl _) (.inr (.inr rfl)) nofun
      · rw [hsave]
        have hindex : lookup disk ["index.json"] = some (.file (.index index)) := by
          rw [hdisk, if_pos rfl]
        constructor
        case opened =>
          refine .inl ⟨fun q hq => ?_, ?_, .inr ⟨index, hindex⟩⟩
          · rw [hdisk, if_neg]
            · exact hopened.blobs q hq
            · rintro rfl
              simp [blobsDir] at hq
          · rw [hdisk, if_neg (by simp)]
            exact hopened.manifests
        case listed =>
          intro other hother
          refine ⟨index, hindex, ?_⟩
          rcases List.mem_append.mp hother with hbefore | hself
          · -- stored before: the index file has it, and so the handle
            rcases h.listed other hbefore with ⟨saved, hsaved, hmem⟩
            simp only [Current, hbuild, hsaved] at hcurrent
            exact hcurrent other ((mem_keys _).mpr hmem)
          · rw [List.mem_singleton.mp hself]
            exact h.updated i index name hbuild
        case updated =>
          intro j index' name' hj
          by_cases heq : j = i
          · simp [Wave.setBuild, heq] at hj
          · exact h.updated j index' name' (by simpa [Wave.setBuild, heq] using hj)
    · exact h

end Sound

/-- Where every build that saves has the images of the index file, a handle opened afterwards lists
every image that was stored. -/
theorem stored_images_listed (sha : Sha256) (disk : FileTree FileContent) (steps : List Step)
    (h : Machine.Along (Wave.next sha) Current (Wave.start disk) steps) :
    let w := steps.foldl (Wave.next sha) (Wave.start disk)
    ∀ name ∈ w.stored, ∃ handle,
      openRegistry ⟨w.disk, .new⟩ = (.ok (), handle) ∧ name ∈ listImages handle := by
  intro w name hname
  have hsound : Sound w := h.invariant (fun _ _ hw hstep => hw.next hstep) (sound_start disk)
  have hopened : Opened w.disk := by
    rcases hsound.opened with hopened | ⟨hnone, -⟩
    · exact hopened
    · rw [hnone] at hname
      cases hname
  rcases hsound.listed name hname with ⟨index, hfile, hmem⟩
  rcases openRegistry_of_opened hopened .new with ⟨handle, hopen, hindex⟩
  refine ⟨handle, hopen, ?_⟩
  rw [listImages, List.mem_insertionSort, mem_keys, hindex index hfile]
  exact hmem

section Example

def buildSteps (i : Nat) (name : String) : List Step :=
  [.write i name "latest" [0x7b, 0x7d], .update i 1, .save i]

def oneAfterTheOther : List Step :=
  [.openHandle 0] ++ buildSteps 0 "app" ++ [.openHandle 1] ++ buildSteps 1 "web"

theorem stored_images_listed_oneAfterTheOther :
    let w := oneAfterTheOther.foldl (Wave.next exampleSha256) (Wave.start ∅)
    w.stored = ["app", "web"] ∧ ∀ name ∈ w.stored, ∃ handle,
      openRegistry ⟨w.disk, .new⟩ = (.ok (), handle) ∧ name ∈ listImages handle :=
  ⟨by decide +kernel, stored_images_listed exampleSha256 ∅ oneAfterTheOther (by decide +kernel)⟩

def sideBySide : List Step :=
  [.openHandle 0, .openHandle 1] ++ buildSteps 0 "app" ++ buildSteps 1 "web"

theorem first_image_lost : let w := sideBySide.foldl (Wave.next exampleSha256) (Wave.start ∅)
    w.stored = ["app", "web"] ∧ listImages (openRegistry ⟨w.disk, .new⟩).2 = ["web"] := by
  decide +kernel

end Example

end ZLayer.Registry
