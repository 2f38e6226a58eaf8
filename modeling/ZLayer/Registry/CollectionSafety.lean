import ZLayer.Lib.HeaderMap
import ZLayer.Registry.GarbageCollection
import ZLayer.Registry.MapRefinement

/-!
# CollectionSafety — what a collection must not meet

A collection that runs while an image is pushed deletes blobs whose manifest is not there yet.
Where pushes and collections do not overlap, every manifest on the disk has its blobs in every
state, and a collection leaves the blobs that some manifest names and no others.
-/

namespace ZLayer.Registry

open Lib FileTree List

variable {sha : Sha256} {parse : List UInt8 → Option Json} {known : List (List UInt8)}

/-! ## Files of blobs and manifests -/

abbrev manifestFile (image file : String) : List String :=
  ["manifests", image, "sha256", file]

abbrev blobFile (file : String) : List String :=
  ["blobs", "sha256", file]

def Present (sha : Sha256) (disk : FileTree FileContent) (data : List UInt8) : Prop :=
  lookup disk (blobFile (sha.hex data)) = some (.file (.bytes data))

/-- The blobs that were there are still there. -/
def KeepsBlobs (sha : Sha256) (known : List (List UInt8)) (disk disk' : FileTree FileContent) :
    Prop :=
  ∀ data ∈ known, Present sha disk data → Present sha disk' data

def SameManifests (disk disk' : FileTree FileContent) : Prop :=
  ∀ image file, lookup disk' (manifestFile image file) = lookup disk (manifestFile image file)

lemma blobPath_computeDigest (sha : Sha256) (data : List UInt8) :
    blobPath (computeDigest sha data) = blobFile (sha.hex data) := by
  rw [blobPath, hashOf_computeDigest, join_of_plainName _ (hex_plainName sha data)]
  rfl

lemma tempPath_computeDigest (sha : Sha256) (data : List UInt8) :
    withExtension (blobPath (computeDigest sha data)) "tmp" =
      blobFile (sha.hex data ++ "." ++ "tmp") := by
  rw [blobPath_computeDigest]
  simp [withExtension]

/-- The blobs and manifests on the disk are what their names say, and every manifest has the blobs
that it names. -/
structure Files (sha : Sha256) (parse : List UInt8 → Option Json) (known : List (List UInt8))
    (disk : FileTree FileContent) : Prop where
  closed : Closed disk
  blobs : ∀ file node, lookup disk (blobFile file) = some node → ∃ data ∈ known,
    (file = sha.hex data ∨ file = sha.hex data ++ "." ++ "tmp") ∧ node = .file (.bytes data)
  manifests : ∀ image file node, lookup disk (manifestFile image file) = some node →
    ∃ manifest ∈ known, file = sha.hex manifest ∧ node = .file (.bytes manifest)
  complete : ∀ image file manifest,
    lookup disk (manifestFile image file) = some (.file (.bytes manifest)) →
    ∀ digest ∈ manifestDigests parse manifest, ∃ data ∈ known,
      digest = computeDigest sha data ∧ Present sha disk data

namespace Files

variable {disk disk' : FileTree FileContent}

variable {data : List UInt8}

section

variable (h : Files sha parse known disk)

include h

/-- A blob that is there has its own content. -/
lemma present_of_exists (hcollision : CollisionFree sha known) (hdata : data ∈ known)
    (hexists : lookup disk (blobFile (sha.hex data)) ≠ none) :
    Present sha disk data := by
  rcases Option.ne_none_iff_exists'.mp hexists with ⟨node, hnode⟩
  rcases h.blobs _ node hnode with ⟨other, hother, hname | hname, rfl⟩
  · rw [hcollision data hdata other hother hname]
    rw [hcollision data hdata other hother hname] at hnode
    exact hnode
  · exact absurd hname.symm (tmp_ne_hex sha _ data)

/-- No manifest is new, and what the manifests name is still there. -/
lemma change (hclosed : Closed disk')
    (hmanifests : ∀ image file node, lookup disk' (manifestFile image file) = some node →
      lookup disk (manifestFile image file) = some node) (hnamed : ∀ image file manifest,
      lookup disk (manifestFile image file) = some (.file (.bytes manifest)) →
      ∀ data ∈ known, computeDigest sha data ∈ manifestDigests parse manifest →
        Present sha disk data → Present sha disk' data)
    (hblobs : ∀ file node, lookup disk' (blobFile file) = some node → ∃ data ∈ known,
      (file = sha.hex data ∨ file = sha.hex data ++ "." ++ "tmp") ∧ node = .file (.bytes data)) :
    Files sha parse known disk' where
  closed := hclosed
  blobs := hblobs
  manifests image file node hnode := h.manifests image file node (hmanifests image file node hnode)
  complete image file manifest hfile digest hdigest := by
    have hbefore := hmanifests image file _ hfile
    rcases h.complete image file manifest hbefore digest hdigest with ⟨data, hdata, rfl, hpres⟩
    exact ⟨data, hdata, rfl, hnamed image file manifest hbefore data hdata hdigest hpres⟩

/-- Nothing changes but the blob and its temporary file. -/
lemma putBlob (hcollision : CollisionFree sha known) (hdata : data ∈ known)
    (hclosed : Closed disk')
    (hother : ∀ q, q ≠ blobFile (sha.hex data) → q ≠ blobFile (sha.hex data ++ "." ++ "tmp") →
      lookup disk' q = lookup disk q)
    (hblob : lookup disk' (blobFile (sha.hex data)) = lookup disk (blobFile (sha.hex data)) ∨
      Present sha disk' data)
    (htemp : ∀ node, lookup disk' (blobFile (sha.hex data ++ "." ++ "tmp")) = some node →
      node = .file (.bytes data)) :
    Files sha parse known disk' ∧ KeepsBlobs sha known disk disk' ∧ SameManifests disk disk' := by
  have hmanifests : SameManifests disk disk' := fun image file => hother _ (by simp) (by simp)
  have hkeeps : KeepsBlobs sha known disk disk' := by
    intro other hmem hpres
    by_cases hname : sha.hex other = sha.hex data
    · cases hcollision other hmem data hdata hname
      rcases hblob with hsame | hpres'
      · exact hsame.trans hpres
      · exact hpres'
    · have htmp := (tmp_ne_hex sha (sha.hex data) other).symm
      exact (hother _ (by simpa using hname) (by simpa using htmp)).trans hpres
  refine ⟨h.change hclosed (fun image file node hnode => (hmanifests image file).symm.trans hnode)
    (fun _ _ _ _ other hmem _ => hkeeps other hmem) fun file node hnode => ?_, hkeeps, hmanifests⟩
  by_cases hself : file = sha.hex data ++ "." ++ "tmp"
  · rw [hself] at hnode
    exact ⟨data, hdata, .inr hself, htemp node hnode⟩
  · by_cases hname : file = sha.hex data
    · rcases hblob with hsame | hpres
      · rw [hname, hsame] at hnode
        exact hname ▸ h.blobs _ node hnode
      · rw [hname] at hnode
        exact ⟨data, hdata, .inl hname, Option.some.inj (hnode.symm.trans hpres)⟩
    · rw [hother _ (by simpa using hname) (by simpa using hself)] at hnode
      exact h.blobs file node hnode

lemma writeTemp (hcollision : CollisionFree sha known) (hdata : data ∈ known)
    (hwrite : write disk (blobFile (sha.hex data ++ "." ++ "tmp")) (.bytes data) = .ok disk') :
    Files sha parse known disk' ∧ KeepsBlobs sha known disk disk' ∧ SameManifests disk disk' := by
  have hlookup := lookup_write hwrite
  have hne : blobFile (sha.hex data) ≠ blobFile (sha.hex data ++ "." ++ "tmp") := by
    simpa using (tmp_ne_hex sha _ data).symm
  refine h.putBlob hcollision hdata (h.closed.write hwrite) (fun q _ hq => ?_) (.inl ?_) ?_
  · rw [hlookup, if_neg hq]
  · rw [hlookup, if_neg hne]
  · intro node hnode
    rw [hlookup, if_pos rfl] at hnode
    exact (Option.some.inj hnode).symm

/-- The temporary file becomes the blob. -/
lemma renameTemp (hcollision : CollisionFree sha known) (hdata : data ∈ known)
    (hrename : rename disk (blobFile (sha.hex data ++ "." ++ "tmp")) (blobFile (sha.hex data)) =
      .ok disk') :
    Present sha disk' data ∧
      Files sha parse known disk' ∧ KeepsBlobs sha known disk disk' ∧ SameManifests disk disk' := by
  rcases rename_eq_ok hrename with ⟨content, htemp, hwrite⟩
  have hcontent : content = .bytes data := by
    rcases h.blobs _ _ htemp with ⟨other, hother, hname | hname, hnode⟩
    · exact absurd hname (tmp_ne_hex sha _ other)
    · have hhex : sha.hex data = sha.hex other := by
        have hlists := congrArg String.toList hname
        simp only [String.toList_append, append_cancel_right_eq] at hlists
        exact String.toList_injective hlists
      rw [hcollision data hdata other hother hhex]
      simpa using hnode
  have hlookup (q : List String) : lookup disk' q =
      if q = blobFile (sha.hex data) then some (.file (.bytes data))
      else if q = blobFile (sha.hex data ++ "." ++ "tmp") then none else lookup disk q := by
    rw [lookup_write hwrite, hcontent, lookup_erase _ (by simp)]
  have hself : Present sha disk' data := by rw [Present, hlookup, if_pos rfl]
  refine ⟨hself, h.putBlob hcollision hdata (h.closed.rename hrename) (fun q hq hq' => ?_)
    (.inr hself) fun node hnode => ?_⟩
  · rw [hlookup, if_neg hq, if_neg hq']
  · rw [hlookup, if_neg (by simpa using tmp_ne_hex sha _ data), if_pos rfl] at hnode
    cases hnode

lemma removeBlob {file : String} (hfree : ∀ image name manifest,
      lookup disk (manifestFile image name) = some (.file (.bytes manifest)) →
      "sha256:" ++ file ∉ manifestDigests parse manifest)
    (hremove : removeFile disk (blobFile file) = .ok disk') :
    Files sha parse known disk' ∧ SameManifests disk disk' := by
  have hlookup := lookup_removeFile hremove
  have hmanifests : SameManifests disk disk' := by
    intro image name
    rw [hlookup, if_neg (by simp)]
  refine ⟨h.change (h.closed.removeFile hremove)
    (fun image name node hnode => (hmanifests image name).symm.trans hnode)
    (fun image name manifest hfile data _ hdigest hpres => ?_) fun other node hnode => ?_,
    hmanifests⟩
  · have hne : sha.hex data ≠ file := by
      rintro rfl
      exact hfree image name manifest hfile hdigest
    rw [Present, hlookup, if_neg (by simpa using hne)]
    exact hpres
  · rw [hlookup] at hnode
    split at hnode
    · cases hnode
    · exact h.blobs other node hnode

end

end Files

/-! ## Storing and deleting images -/

/-- Neither blobs nor manifests are touched. -/
structure Beside (disk disk' : FileTree FileContent) : Prop where
  closed : Closed disk → Closed disk'
  blobs : ∀ file, lookup disk' (blobFile file) = lookup disk (blobFile file)
  manifests : ∀ image file, lookup disk' (manifestFile image file) =
    lookup disk (manifestFile image file)

namespace Beside

variable {disk disk' disk'' : FileTree FileContent} {path : List String}

lemma refl (disk : FileTree FileContent) : Beside disk disk :=
  ⟨id, fun _ => rfl, fun _ _ => rfl⟩

lemma trans (h : Beside disk disk') (h' : Beside disk' disk'') : Beside disk disk'' :=
  ⟨h'.closed ∘ h.closed, fun file => (h'.blobs file).trans (h.blobs file),
    fun image file => (h'.manifests image file).trans (h.manifests image file)⟩

lemma createDirAll (h : createDirAll disk path = .ok disk')
    (hblobs : ∀ file, ¬ blobFile file <+: path)
    (hmanifests : ∀ image file, ¬ manifestFile image file <+: path) : Beside disk disk' where
  closed hclosed := hclosed.createDirAll h
  blobs file := by rw [lookup_createDirAll h, if_neg (hblobs file)]
  manifests image file := by rw [lookup_createDirAll h, if_neg (hmanifests image file)]

lemma write {content : FileContent} (h : write disk path content = .ok disk')
    (hblobs : ∀ file, path ≠ blobFile file)
    (hmanifests : ∀ image file, path ≠ manifestFile image file) : Beside disk disk' where
  closed hclosed := hclosed.write h
  blobs file := by rw [lookup_write h, if_neg (Ne.symm (hblobs file))]
  manifests image file := by rw [lookup_write h, if_neg (Ne.symm (hmanifests image file))]

lemma saveIndex {α : Type} (s : Store) (result : α) :
    Beside s.disk (saveIndex s result).2.disk := by
  unfold Registry.saveIndex
  cases h : FileTree.write s.disk ["index.json"] (.index s.index) with
  | error e => exact refl _
  | ok disk => exact write h (by simp) (by simp)

end Beside

/-- The manifest is in its file, and nothing else that matters has changed. -/
structure Stores (sha : Sha256) (name : String) (manifest : List UInt8)
    (disk disk' : FileTree FileContent) : Prop where
  closed : Closed disk → Closed disk'
  blobs : ∀ file, lookup disk' (blobFile file) = lookup disk (blobFile file)
  manifests : ∀ image file, lookup disk' (manifestFile image file) =
    if image = sanitize name ∧ file = sha.hex manifest then some (.file (.bytes manifest))
    else lookup disk (manifestFile image file)

variable {name : String} {manifest : List UInt8}

lemma Stores.beside {disk disk' disk'' final : FileTree FileContent}
    (hbefore : Beside disk disk') (h : Stores sha name manifest disk' disk'')
    (hafter : Beside disk'' final) : Stores sha name manifest disk final where
  closed := hafter.closed ∘ h.closed ∘ hbefore.closed
  blobs file := by rw [hafter.blobs, h.blobs, hbefore.blobs]
  manifests image file := by rw [hafter.manifests, h.manifests, hbefore.manifests]

/-- The tag and the index come after the manifest. -/
lemma tag_beside (name reference : String) (hname : PlainName (sanitize name)) (digest : String)
    (now : Nat) (s : Store) :
    Beside s.disk (io (if isTag reference then
        FileTree.write s.disk (tagPath name reference) (.bytes (utf8Bytes digest))
      else .ok s.disk) s fun s =>
        saveIndex { s with index := updateIndex now name reference s.index } digest).2.disk := by
  have hpath : ∀ image file, tagPath name reference ≠ blobFile file ∧
      tagPath name reference ≠ manifestFile image file := by
    intro image file
    rcases tagPath_cases name reference with ⟨heq | heq, -⟩ | ⟨heq, -⟩ <;>
      rw [heq, manifestsDir_of_plain hname] <;> simp
  have hsave (disk : FileTree FileContent) :
      Beside disk (saveIndex ⟨disk, updateIndex now name reference s.index⟩ digest).2.disk :=
    Beside.saveIndex ⟨disk, updateIndex now name reference s.index⟩ digest
  split
  · cases hwrite : FileTree.write s.disk (tagPath name reference) (.bytes (utf8Bytes digest)) with
    | error e => exact Beside.refl _
    | ok disk =>
      have htag : Beside s.disk disk :=
        Beside.write hwrite (fun file => (hpath "" file).1) fun image file => (hpath image file).2
      exact htag.trans (hsave disk)
  · exact hsave s.disk

variable {s : Store}

/-- `put_manifest` fails before the manifest, or stores it. -/
lemma putManifest_cases (h : Files sha parse known s.disk)
    (hcollision : CollisionFree sha known) (hname : PlainName (sanitize name))
    (reference : String) (hknown : manifest ∈ known) (now : Nat) :
    (Beside s.disk (putManifest sha now name reference manifest s).2.disk ∧
      ∃ e, (putManifest sha now name reference manifest s).1 = .error e) ∨
      Stores sha name manifest s.disk (putManifest sha now name reference manifest s).2.disk := by
  unfold putManifest putManifestFiles
  dsimp only
  rw [join_of_plainName _ plainName_sha256, join_of_plainName _ plainName_tags,
    manifestsDir_of_plain hname]
  have hdirs {dir : String} {disk disk' : FileTree FileContent}
      (hcreate : createDirAll disk (["manifests", sanitize name] ++ [dir]) = .ok disk') :
      Beside disk disk' := by
    refine Beside.createDirAll hcreate (fun file => by simp) fun image file hstart => ?_
    have hlength := hstart.length_le
    simp at hlength
  cases h₁ : createDirAll s.disk (["manifests", sanitize name] ++ ["sha256"]) with
  | error e => exact .inl ⟨Beside.refl _, _, rfl⟩
  | ok disk₁ =>
    have hbeside₁ := hdirs h₁
    rw [io_of_ok rfl]
    cases h₂ : createDirAll disk₁ (["manifests", sanitize name] ++ ["tags"]) with
    | error e => exact .inl ⟨hbeside₁, _, rfl⟩
    | ok disk₂ =>
      have hbeside₂ := hbeside₁.trans (hdirs h₂)
      rw [io_of_ok rfl]
      -- the manifest may be there already, its temporary file is not
      have hdir : lookup disk₂ ["manifests", sanitize name, "sha256"] = some .dir := by
        rw [lookup_createDirAll h₂, lookup_createDirAll h₁]
        simp
      have hhonest (file : String) (node : Node FileContent)
          (hnode : lookup disk₂ (["manifests", sanitize name, "sha256"] ++ [file]) = some node) :
          ∃ m ∈ known, file = sha.hex m ∧ node = .file (.bytes m) :=
        h.manifests _ file node ((hbeside₂.manifests _ file).symm.trans hnode)
      rcases manifest_slot hhonest fun m hm => hcollision m hm manifest hknown with
        ⟨hmanifest, htmp⟩
      rcases writeNew_eq (s := ⟨disk₂, s.index⟩) hdir hmanifest htmp with
        ⟨disk₃, hwriteNew, hlookup₃⟩
      have hpath : manifestPath name (computeDigest sha manifest) =
          ["manifests", sanitize name, "sha256"] ++ [sha.hex manifest] := by
        rw [manifestPath, manifestsDir_of_plain hname, join_of_plainName _ plainName_sha256,
          hashOf_computeDigest, join_of_plainName _ (hex_plainName sha manifest)]
        rfl
      have hstores : Stores sha name manifest disk₂ disk₃ := by
        refine ⟨fun hclosed => ?_, fun file => ?_, fun image file => ?_⟩
        · refine hclosed.of_lookup ?_ ?_ hlookup₃
          · simpa using hdir
          · rcases hmanifest with hnone | hfile
            · exact fun hdir => by cases hnone.symm.trans hdir
            · exact fun hdir => by cases hfile.symm.trans hdir
        · rw [hlookup₃, if_neg (by simp)]
        · rw [hlookup₃]
          simp
      rw [hpath, hwriteNew]
      refine .inr (Stores.beside hbeside₂ hstores ?_)
      exact tag_beside name reference hname _ now ⟨disk₃, s.index⟩

variable {disk : FileTree FileContent}

/-- What is below a directory that is not there, is not there. -/
lemma manifest_none_of_image (h : Closed disk) {image : String}
    (himage : lookup disk ["manifests", image] ≠ some .dir) (file : String) :
    lookup disk (manifestFile image file) = none := by
  cases hnode : lookup disk (manifestFile image file) with
  | none => rfl
  | some node =>
    have hsha := h ["manifests", image, "sha256"] file node hnode
    exact absurd (h ["manifests", image] "sha256" _ hsha) himage

/-- `delete_image` takes the manifests of the image and leaves the blobs. -/
lemma deleteImage_files (h : Closed s.disk) (hname : PlainName (sanitize name)) :
    Closed (deleteImage name s).2.disk ∧
      (∀ file, lookup (deleteImage name s).2.disk (blobFile file) =
        lookup s.disk (blobFile file)) ∧
      ∀ image file, lookup (deleteImage name s).2.disk (manifestFile image file) =
        if image = sanitize name then none else lookup s.disk (manifestFile image file) := by
  have hnone (hdir : lookup s.disk ["manifests", sanitize name] ≠ some .dir)
      (image file : String) : lookup s.disk (manifestFile image file) =
        if image = sanitize name then none else lookup s.disk (manifestFile image file) := by
    split
    next heq =>
      rw [heq]
      exact manifest_none_of_image h hdir file
    · rfl
  unfold deleteImage
  rw [manifestsDir_of_plain hname]
  split
  next habsent =>
    refine ⟨h, fun _ => rfl, hnone fun hdir => ?_⟩
    simp [pathExists, hdir] at habsent
  next hexists =>
    cases hremove : removeDirAll s.disk ["manifests", sanitize name] with
    | error e =>
      refine ⟨h, fun _ => rfl, hnone fun hdir => ?_⟩
      unfold removeDirAll at hremove
      rw [hdir] at hremove
      cases hremove
    | ok disk =>
      rw [io_of_ok rfl]
      have hsave : Beside disk (saveIndex ⟨disk, s.index.imageDeleted name⟩ ()).2.disk :=
        Beside.saveIndex ⟨disk, s.index.imageDeleted name⟩ ()
      have hlookup := lookup_removeDirAll hremove (by simp)
      refine ⟨hsave.closed (h.removeDirAll hremove (by simp)), fun file => ?_, fun image file => ?_⟩
      · rw [hsave.blobs, hlookup, if_neg (by simp)]
      · rw [hsave.manifests, hlookup]
        by_cases heq : image = sanitize name
        · simp [heq]
        · simp [heq, Ne.symm heq]

/-! ## The invariant -/

def Push.pending : Push sha parse → List (List UInt8)
  | .before todo _ => todo
  | .absent data todo _ | .temp data todo _ => data :: todo

def Push.image : Push sha parse → Image sha parse
  | .before _ image | .absent _ _ image | .temp _ _ image => image

/-- The other blobs of the image are there. -/
structure Push.Ready (known : List (List UInt8)) (disk : FileTree FileContent)
    (push : Push sha parse) : Prop where
  plain : PlainName (sanitize push.image.name)
  manifest : push.image.manifest ∈ known
  blobs : ∀ data ∈ push.image.blobs, data ∈ known
  pending : ∀ data ∈ push.pending, data ∈ known
  present : ∀ data ∈ push.image.blobs, data ∈ push.pending ∨ Present sha disk data

lemma Push.Ready.mono {disk disk' : FileTree FileContent} {push : Push sha parse}
    (h : push.Ready known disk)
    (hkeeps : KeepsBlobs sha known disk disk') : push.Ready known disk' :=
  { h with
    present := fun data hdata =>
      (h.present data hdata).imp_right (hkeeps data (h.blobs data hdata)) }

lemma Push.Ready.advance {push push' : Push sha parse} (h : push.Ready known disk)
    (himage : push'.image = push.image) (hpending : ∀ data ∈ push'.pending, data ∈ push.pending)
    (hdone : ∀ data ∈ push.pending, data ∈ push'.pending ∨ Present sha disk data) :
    push'.Ready known disk where
  plain := himage ▸ h.plain
  manifest := himage ▸ h.manifest
  blobs := himage ▸ h.blobs
  pending data hdata := h.pending data (hpending data hdata)
  present data hdata := by
    rw [himage] at hdata
    rcases h.present data hdata with hpend | hpres
    · exact hdone data hpend
    · exact .inr hpres

lemma Push.Ready.done {data : List UInt8} {todo : List (List UInt8)} {image : Image sha parse}
    {push : Push sha parse} (h : push.Ready known disk) (himage : push.image = image)
    (hpending : push.pending = data :: todo) (hpres : Present sha disk data) :
    (Push.before todo image).Ready known disk := by
  refine h.advance himage.symm (fun other hother => ?_) fun other hother => ?_
  · rw [hpending]
    exact mem_cons_of_mem data hother
  · rw [hpending] at hother
    rcases mem_cons.mp hother with rfl | htodo
    · exact .inr hpres
    · exact .inl htodo

namespace Collector

def images : Collector → List String
  | .scanning images _ _ => images
  | .deleting .. => []

def manifests : Collector → List (List String)
  | .scanning _ manifests _ => manifests
  | .deleting .. => []

def referenced : Collector → List String
  | .scanning _ _ referenced | .deleting _ referenced _ => referenced

/-- Every manifest is still to be read, or what it names is known. -/
def Covers (parse : List UInt8 → Option Json) (disk : FileTree FileContent) (c : Collector) :
    Prop :=
  ∀ image file manifest, lookup disk (manifestFile image file) = some (.file (.bytes manifest)) →
    image ∈ c.images ∨ manifestFile image file ∈ c.manifests ∨
      ∀ digest ∈ manifestDigests parse manifest, digest ∈ c.referenced

lemma Covers.mono {disk disk' : FileTree FileContent} {c : Collector} (h : c.Covers parse disk)
    (hmanifests : ∀ image file node, lookup disk' (manifestFile image file) = some node →
      lookup disk (manifestFile image file) = some node) : c.Covers parse disk' :=
  fun image file manifest hfile => h image file manifest (hmanifests image file _ hfile)

end Collector

structure Safe (known : List (List UInt8)) (w : World sha parse) : Prop where
  files : Files sha parse known w.store.disk
  pushes : ∀ (p : Nat) (push : Push sha parse), w.pushes[p]? = some push →
    push.Ready known w.store.disk
  collectors : ∀ (i : Nat) (c : Collector), w.collectors[i]? = some c → c.Covers parse w.store.disk
  apart : (∀ p : Nat, w.pushes[p]? = none) ∨ ∀ i : Nat, w.collectors[i]? = none
  stored : ∀ image ∈ w.stored,
    lookup w.store.disk (manifestFile (sanitize image.name) (sha.hex image.manifest)) =
      some (.file (.bytes image.manifest))

/-- The condition on an action.  Pushes and collections do not overlap, no image is pushed or
deleted under a name that stands for another directory, and none is deleted under the name of
another. -/
def Allowed (w : World sha parse) : Action sha parse → Prop
  | .push _ image => w.collectors.isEmpty = true ∧ PlainName (sanitize image.name)
  | .collect _ => w.pushes.isEmpty = true
  | .deleteImage name => PlainName (sanitize name) ∧
      ∀ image ∈ w.stored, sanitize image.name = sanitize name → image.name = name
  | _ => True

def Action.bytes : Action sha parse → List (List UInt8)
  | .push _ image => image.manifest :: image.blobs
  | _ => []

namespace Safe

variable {w : World sha parse} {p i : Nat}

section Updates

variable {push : Push sha parse} {c : Collector} {disk : FileTree FileContent}

section

variable (h : Safe known w)

include h

lemma idle_of_push (hpush : w.pushes[p]? = some push) (i : Nat) :
    w.collectors[i]? = none := by
  rcases h.apart with hnone | hnone
  · exact nomatch (hnone p).symm.trans hpush
  · exact hnone i

lemma idle_of_collector (hc : w.collectors[i]? = some c) (p : Nat) :
    w.pushes[p]? = none := by
  rcases h.apart with hnone | hnone
  · exact hnone p
  · exact nomatch (hnone i).symm.trans hc

lemma setPush (hpush : push.Ready known w.store.disk)
    (hidle : ∀ i : Nat, w.collectors[i]? = none) (p : Nat) : Safe known (w.setPush p push) where
  files := h.files
  pushes q other hother := by
    rcases HashMap.of_lookup_insert hother with ⟨-, rfl⟩ | ⟨-, hother⟩
    · exact hpush
    · exact h.pushes q other hother
  collectors := h.collectors
  apart := .inr hidle
  stored := h.stored

lemma dropPush (p : Nat) : Safe known (w.dropPush p) where
  files := h.files
  pushes q other hother := h.pushes q other (HashMap.of_lookup_erase hother).2
  collectors := h.collectors
  apart := by
    refine h.apart.imp_left fun hnone q => ?_
    simp only [World.dropPush, HashMap.lookup_erase, hnone q, ite_self]
  stored := h.stored

lemma setCollector (hc : c.Covers parse w.store.disk) (hidle : ∀ p : Nat, w.pushes[p]? = none)
    (i : Nat) : Safe known (w.setCollector i c) where
  files := h.files
  pushes := h.pushes
  collectors j other hother := by
    rcases HashMap.of_lookup_insert hother with ⟨-, rfl⟩ | ⟨-, hother⟩
    · exact hc
    · exact h.collectors j other hother
  apart := .inl hidle
  stored := h.stored

lemma dropCollector (i : Nat) : Safe known (w.dropCollector i) where
  files := h.files
  pushes := h.pushes
  collectors j other hother := h.collectors j other (HashMap.of_lookup_erase hother).2
  apart := by
    refine h.apart.imp_right fun hnone j => ?_
    simp only [World.dropCollector, HashMap.lookup_erase, hnone j, ite_self]
  stored := h.stored

/-- The manifests are what they were; blobs may be gone where nothing is pushed. -/
lemma setDisk (hfiles : Files sha parse known disk)
    (hkeeps : (∀ p : Nat, w.pushes[p]? = none) ∨ KeepsBlobs sha known w.store.disk disk)
    (hmanifests : SameManifests w.store.disk disk) : Safe known (w.setDisk disk) where
  files := hfiles
  pushes q other hother := by
    rcases hkeeps with hnone | hkeeps
    · exact nomatch (hnone q).symm.trans hother
    · exact (h.pushes q other hother).mono hkeeps
  collectors j other hother := (h.collectors j other hother).mono fun image file node hnode =>
    (hmanifests image file).symm.trans hnode
  apart := h.apart
  stored image himage := (hmanifests _ _).trans (h.stored image himage)

/-- Nothing is collected, and the blobs that were there are there. -/
lemma setStore {store : Store} {stored : List (Image sha parse)}
    (hfiles : Files sha parse known store.disk)
    (hkeeps : KeepsBlobs sha known w.store.disk store.disk)
    (hidle : ∀ i : Nat, w.collectors[i]? = none) (hstored : ∀ image ∈ stored,
      lookup store.disk (manifestFile (sanitize image.name) (sha.hex image.manifest)) =
        some (.file (.bytes image.manifest))) :
    Safe known { w with store := store, stored := stored } where
  files := hfiles
  pushes q other hother := (h.pushes q other hother).mono hkeeps
  collectors j _ hother := nomatch (hidle j).symm.trans hother
  apart := .inr hidle
  stored := hstored

end

end Updates

/-! ### Pushes -/

lemma checkBlob (h : Safe known w) (hcollision : CollisionFree sha known) (p : Nat) :
    Safe known (w.checkBlob p) := by
  unfold World.checkBlob
  split
  next data todo image hpush =>
    have hready := h.pushes p _ hpush
    have hidle := h.idle_of_push hpush
    split
    next hexists =>
      -- the blob is there, and with its content
      have hdata := hready.pending data mem_cons_self
      have hpresent : Present sha w.store.disk data := by
        refine h.files.present_of_exists hcollision hdata ?_
        rw [blobPath_computeDigest, pathExists] at hexists
        exact Option.isSome_iff_ne_none.mp hexists
      exact h.setPush (hready.done rfl rfl hpresent) hidle p
    · refine h.setPush ?_ hidle p
      exact hready.advance rfl (fun _ => id) fun _ => .inl
  · exact h

lemma writeBlob (h : Safe known w) (hcollision : CollisionFree sha known) (p : Nat) :
    Safe known (w.writeBlob p) := by
  unfold World.writeBlob
  split
  next data todo image hpush =>
    have hready := h.pushes p _ hpush
    have hidle := h.idle_of_push hpush
    dsimp only
    rw [tempPath_computeDigest]
    split
    next disk hwrite =>
      have hdata := hready.pending data mem_cons_self
      rcases h.files.writeTemp hcollision hdata hwrite with ⟨hfiles, hkeeps, hmanifests⟩
      have hnext := h.setDisk hfiles (.inr hkeeps) hmanifests
      have hready' := hnext.pushes p _ hpush
      refine hnext.setPush ?_ hidle p
      exact hready'.advance rfl (fun _ => id) fun _ => .inl
    · exact h.dropPush p
  · exact h

lemma renameBlob (h : Safe known w) (hcollision : CollisionFree sha known) (p : Nat) :
    Safe known (w.renameBlob p) := by
  unfold World.renameBlob
  split
  next data todo image hpush =>
    have hready := h.pushes p _ hpush
    have hidle := h.idle_of_push hpush
    dsimp only
    rw [tempPath_computeDigest, blobPath_computeDigest]
    split
    next disk hrename =>
      have hdata := hready.pending data mem_cons_self
      rcases h.files.renameTemp hcollision hdata hrename with ⟨hself, hfiles, hkeeps, hmanifests⟩
      have hnext := h.setDisk hfiles (.inr hkeeps) hmanifests
      have hready' := hnext.pushes p _ hpush
      exact hnext.setPush (hready'.done rfl rfl hself) hidle p
    · exact h.dropPush p
  · exact h

variable {disk disk' : FileTree FileContent}

lemma files_of_beside (h : Files sha parse known disk) (hbeside : Beside disk disk') :
    Files sha parse known disk' := by
  refine h.change (hbeside.closed h.closed)
    (fun image file node hnode => (hbeside.manifests image file).symm.trans hnode)
    (fun _ _ _ _ data _ _ hpres => (hbeside.blobs _).trans hpres) fun file node hnode => ?_
  exact h.blobs file node ((hbeside.blobs file).symm.trans hnode)

/-- Files with one more manifest, whose blobs are there. -/
lemma files_of_stores (h : Files sha parse known disk) {image : Image sha parse}
    (hmanifest : image.manifest ∈ known)
    (hblobs : ∀ data ∈ image.blobs, data ∈ known ∧ Present sha disk data)
    (hstores : Stores sha image.name image.manifest disk disk') : Files sha parse known disk' where
  closed := hstores.closed h.closed
  blobs file node hnode := h.blobs file node ((hstores.blobs file).symm.trans hnode)
  manifests other file node hnode := by
    rw [hstores.manifests] at hnode
    split at hnode
    next heq =>
      cases hnode
      exact ⟨image.manifest, hmanifest, heq.2, rfl⟩
    · exact h.manifests other file node hnode
  complete other file manifest hfile digest hdigest := by
    have hkeeps : ∀ data, Present sha disk data → Present sha disk' data :=
      fun data hdata => (hstores.blobs _).trans hdata
    rw [hstores.manifests] at hfile
    split at hfile
    · cases hfile
      rcases image.named digest hdigest with ⟨data, hdata, heq⟩
      rcases hblobs data hdata with ⟨hknown, hpres⟩
      exact ⟨data, hknown, heq, hkeeps data hpres⟩
    · rcases h.complete other file manifest hfile digest hdigest with ⟨data, hdata, heq, hpres⟩
      exact ⟨data, hdata, heq, hkeeps data hpres⟩

section

variable (h : Safe known w)

include h

lemma putManifest (hcollision : CollisionFree sha known) (p now : Nat) :
    Safe known (w.putManifest p now) := by
  unfold World.putManifest
  split
  next image hpush =>
    have hready := h.pushes p _ hpush
    have hidle := h.idle_of_push hpush
    have hblobs : ∀ data ∈ image.blobs, data ∈ known ∧ Present sha w.store.disk data := by
      intro data hdata
      refine ⟨hready.blobs data hdata, ?_⟩
      rcases hready.present data hdata with hnone | hpres
      · cases hnone
      · exact hpres
    have hplain : PlainName (sanitize image.name) := hready.plain
    have hmanifest : image.manifest ∈ known := hready.manifest
    have hcases := putManifest_cases h.files hcollision hplain image.reference hmanifest now
    rcases hput : Registry.putManifest sha now image.name image.reference image.manifest w.store
      with ⟨result, store⟩
    rw [hput] at hcases
    rcases hcases with ⟨hbeside, e, herror⟩ | hstores
    · -- it has failed before the manifest
      have hresult : result = .error e := herror
      rw [hresult]
      refine (h.dropPush p).setStore (files_of_beside h.files hbeside) (fun data _ hdata => ?_)
        hidle fun other hother => ?_
      · exact (hbeside.blobs _).trans hdata
      · exact (hbeside.manifests _ _).trans (h.stored other hother)
    · have hfiles := files_of_stores h.files hmanifest hblobs hstores
      have hkeeps : KeepsBlobs sha known w.store.disk store.disk :=
        fun data _ hdata => (hstores.blobs _).trans hdata
      have hstored : ∀ other : Image sha parse, other ∈ w.stored ∨ other = image →
          lookup store.disk (manifestFile (sanitize other.name) (sha.hex other.manifest)) =
            some (.file (.bytes other.manifest)) := by
        intro other hother
        rw [hstores.manifests]
        rcases hother with hother | rfl
        · have hfile := h.stored other hother
          split
          next heq =>
            -- the same digest, so the same manifest
            rcases h.files.manifests _ _ _ hfile with ⟨m, hm, -, hnode⟩
            cases hnode
            rw [hcollision _ hm _ hmanifest heq.2]
          · exact hfile
        · simp
      cases result with
      | error e =>
        exact (h.dropPush p).setStore hfiles hkeeps hidle fun other hother =>
          hstored other (.inl hother)
      | ok digest =>
        refine (h.dropPush p).setStore hfiles hkeeps hidle fun other hother => ?_
        exact hstored other ((mem_append.mp hother).imp_right mem_singleton.mp)
  · exact h

lemma deleteImage {name : String} (hname : PlainName (sanitize name))
    (hsame : ∀ image ∈ w.stored, sanitize image.name = sanitize name → image.name = name) :
    Safe known (w.deleteImage name) := by
  unfold World.deleteImage
  rcases deleteImage_files h.files.closed hname with ⟨hclosed, hblobs, hmanifests⟩
  generalize (Registry.deleteImage name w.store).2 = store at hclosed hblobs hmanifests ⊢
  have hkeeps : KeepsBlobs sha known w.store.disk store.disk :=
    fun data _ hdata => (hblobs _).trans hdata
  have hless : ∀ image file node, lookup store.disk (manifestFile image file) = some node →
      lookup w.store.disk (manifestFile image file) = some node := by
    intro image file node hnode
    rw [hmanifests] at hnode
    split at hnode
    · cases hnode
    · exact hnode
  constructor
  case files =>
    refine h.files.change hclosed hless (fun _ _ _ _ data hdata _ => hkeeps data hdata)
      fun file node hnode => ?_
    exact h.files.blobs file node ((hblobs file).symm.trans hnode)
  case pushes => exact fun q push hpush => (h.pushes q push hpush).mono hkeeps
  case collectors => exact fun j c hc => (h.collectors j c hc).mono hless
  case apart => exact h.apart
  case stored =>
    intro image himage
    rcases mem_filter.mp himage with ⟨hmem, hother⟩
    rw [hmanifests, if_neg]
    · exact h.stored image hmem
    · exact fun heq => (of_decide_eq_true hother) (hsame image hmem heq)

/-! ### Collections -/

lemma collect (hidle : ∀ p : Nat, w.pushes[p]? = none) (i : Nat) :
    Safe known (w.collect i) := by
  unfold World.collect
  have hbase {image file : String} {node : Node FileContent}
      (hnode : lookup w.store.disk (manifestFile image file) = some node) :
      lookup w.store.disk ["manifests", image] = some .dir := by
    have hsha := h.files.closed ["manifests", image, "sha256"] file node hnode
    exact h.files.closed ["manifests", image] "sha256" _ hsha
  split
  · exact h
  · refine h.files.closed.listing (motive := Safe known) h fun images hall => ?_
    refine h.setCollector (c := .scanning images [] [])
      (fun image file manifest hfile => .inl (hall image ?_)) hidle i
    change lookup w.store.disk ["manifests", image] ≠ none
    rw [hbase hfile]
    exact nofun

lemma scanImage (i : Nat) (image : String) :
    Safe known (w.scanImage i image) := by
  unfold World.scanImage
  split
  next images referenced hc =>
    have hcovers := h.collectors i _ hc
    have hidle := h.idle_of_collector hc
    dsimp only
    split
    · exact h
    · refine h.files.closed.listing (motive := Safe known) (h.dropCollector i) fun files hall => ?_
      refine h.setCollector (fun other file manifest hfile => ?_) hidle i
      rcases hcovers other file manifest hfile with hpending | hnone | hfound
      · by_cases heq : other = image
        · subst heq
          refine .inr (.inl (mem_map.mpr ⟨file, hall file fun hnone => ?_, rfl⟩))
          exact nomatch hnone.symm.trans hfile
        · exact .inl ((mem_erase_of_ne heq).mpr hpending)
      · cases hnone
      · exact .inr (.inr hfound)
  · exact h

lemma scanManifest (i : Nat) (path : List String) :
    Safe known (w.scanManifest i path) := by
  unfold World.scanManifest
  split
  next images manifests referenced hc =>
    have hcovers := h.collectors i _ hc
    have hidle := h.idle_of_collector hc
    split
    · exact h
    · refine h.setCollector (fun image file manifest hfile => ?_) hidle i
      rcases hcovers image file manifest hfile with hpending | hpending | hfound
      · exact .inl hpending
      · by_cases heq : manifestFile image file = path
        · -- the manifest that was read
          refine .inr (.inr fun digest hdigest => mem_append_left _ ?_)
          have hread : read w.store.disk path = .ok (.bytes manifest) :=
            read_eq_ok_iff.mpr (heq ▸ hfile)
          rw [hread]
          exact hdigest
        · exact .inr (.inl ((mem_erase_of_ne heq).mpr hpending))
      · exact .inr (.inr fun digest hdigest => mem_append_right _ (hfound digest hdigest))
  · exact h

lemma listBlobs (i : Nat) : Safe known (w.listBlobs i) := by
  unfold World.listBlobs
  split
  next referenced hc =>
    have hcovers := h.collectors i _ hc
    have hidle := h.idle_of_collector hc
    refine h.files.closed.listing (motive := Safe known) (h.dropCollector i) fun blobs _ => ?_
    refine h.setCollector ?_ hidle i
    exact hcovers
  · exact h

lemma deleteBlob (i : Nat) (file : String) :
    Safe known (w.deleteBlob i file) := by
  unfold World.deleteBlob
  split
  next blobs referenced freed hc =>
    have hcovers := h.collectors i _ hc
    have hidle := h.idle_of_collector hc
    split
    · exact h
    · split
      · refine h.setCollector ?_ hidle i
        exact hcovers
      next hfree =>
        dsimp only
        split
        next disk hremove =>
          have hunnamed : ∀ image name manifest,
              lookup w.store.disk (manifestFile image name) = some (.file (.bytes manifest)) →
              "sha256:" ++ file ∉ manifestDigests parse manifest := by
            intro image name manifest hfile hdigest
            rcases hcovers image name manifest hfile with hnone | hnone | hfound
            · cases hnone
            · cases hnone
            · exact hfree (hfound _ hdigest)
          rcases h.files.removeBlob hunnamed hremove with ⟨hfiles, hmanifests⟩
          have hnext := h.setDisk hfiles (.inl hidle) hmanifests
          have hcovers' := hnext.collectors i _ hc
          refine hnext.setCollector ?_ hidle i
          exact hcovers'
        · exact h.dropCollector i
  · exact h

lemma finish (i : Nat) : Safe known (w.finish i) := by
  unfold World.finish
  split
  · have hnext := h.dropCollector i
    exact ⟨hnext.files, hnext.pushes, hnext.collectors, hnext.apart, hnext.stored⟩
  · exact h

end

lemma initial : Safe known (World.initial : World sha parse) := by
  have hlookup (q : List String) : lookup (World.initial : World sha parse).store.disk q =
      if q <+: ["manifests"] ∨ q <+: blobsDir then some .dir else none := lookup_initial q
  have hnone (q : List String) (hq : 3 ≤ q.length) :
      lookup (World.initial : World sha parse).store.disk q = none := by
    rw [hlookup, if_neg]
    rintro (hstart | hstart)
    · have hle := hstart.length_le
      simp at hle
      omega
    · have hle := hstart.length_le
      simp [blobsDir] at hle
      omega
  constructor
  case files =>
    refine ⟨fun q name node hnode => ?_, fun file node hnode => ?_, fun image file node hnode => ?_,
      fun image file manifest hfile => ?_⟩
    · rw [hlookup] at hnode ⊢
      split at hnode
      next hstart =>
        have habove : q <+: q ++ [name] := prefix_append q [name]
        rw [if_pos (hstart.imp habove.trans habove.trans)]
      · cases hnode
    · cases (hnone (blobFile file) (by simp)).symm.trans hnode
    · cases (hnone (manifestFile image file) (by simp)).symm.trans hnode
    · cases (hnone (manifestFile image file) (by simp)).symm.trans hfile
  case pushes =>
    intro p push hpush
    simp [World.initial] at hpush
  case collectors =>
    intro i c hc
    simp [World.initial] at hc
  case apart =>
    refine .inl fun p => ?_
    simp [World.initial]
  case stored => exact fun image himage => by cases himage

lemma lookup_of_isEmpty {β : Type} {m : HashMap Nat β} (h : m.isEmpty = true) (k : Nat) :
    m[k]? = none := by
  rw [Std.ExtTreeMap.isEmpty_iff.mp h]
  simp

lemma next (h : Safe known w) (hcollision : CollisionFree sha known)
    {action : Action sha parse} (hknown : ∀ data ∈ action.bytes, data ∈ known)
    (hallowed : Allowed w action) : Safe known (w.next action) := by
  cases action with
  | push p image =>
    rcases hallowed with ⟨hempty, hplain⟩
    rw [World.next]
    split
    · refine h.setPush ?_ (lookup_of_isEmpty hempty) p
      have hblobs : ∀ data ∈ image.blobs, data ∈ known :=
        fun data hdata => hknown data (mem_cons_of_mem _ hdata)
      constructor
      case plain => exact hplain
      case manifest => exact hknown _ mem_cons_self
      case blobs => exact hblobs
      case pending => exact hblobs
      case present => exact fun data hdata => .inl hdata
    · exact h
  | checkBlob p => exact h.checkBlob hcollision p
  | writeBlob p => exact h.writeBlob hcollision p
  | renameBlob p => exact h.renameBlob hcollision p
  | putManifest p now => exact h.putManifest hcollision p now
  | deleteImage name => exact h.deleteImage hallowed.1 hallowed.2
  | collect i => exact h.collect (lookup_of_isEmpty hallowed) i
  | scanImage i image => exact h.scanImage i image
  | scanManifest i path => exact h.scanManifest i path
  | listBlobs i => exact h.listBlobs i
  | deleteBlob i file => exact h.deleteBlob i file
  | finish i => exact h.finish i

end Safe

/-! ## Reading a blob -/

lemma length_utf8Bytes_hex (sha : Sha256) (data : List UInt8) :
    (utf8Bytes (sha.hex data)).length = 64 := by
  rw [← sha.length_hex data, utf8Bytes_eq_flatMap, length_flatMap]
  have hone : ∀ c ∈ (sha.hex data).toList, (String.utf8EncodeChar c).length = 1 := by
    intro c hc
    have hrange := toNat_of_hexdigit (sha.hex_digits data c hc)
    rw [String.length_utf8EncodeChar, Char.utf8Size_eq_one_iff]
    exact UInt32.le_iff_toNat_le.mpr (by change c.toNat ≤ 127; omega)
  rw [map_congr_left hone]
  simp

lemma validateDigest_computeDigest (sha : Sha256) (data : List UInt8) :
    validateDigest (computeDigest sha data) = .ok () := by
  have hother : Str.startsWith (computeDigest sha data) "manifest:" = false := by
    simp [Str.startsWith, computeDigest, String.toList_append, List.isPrefixOf]
  have hstrip : Str.stripPrefix "sha256:" (computeDigest sha data) = some (sha.hex data) := by
    simp [Str.stripPrefix, computeDigest, String.toList_append]
  have hdigits : (sha.hex data).toList.all isAsciiHexdigit = true :=
    all_eq_true.mpr (sha.hex_digits data)
  unfold validateDigest
  rw [hother, hstrip]
  simp [length_utf8Bytes_hex, hdigits]

lemma getBlob_of_present {data : List UInt8} (h : Present sha s.disk data) :
    getBlob sha (computeDigest sha data) s = .ok data := by
  unfold getBlob
  rw [validateDigest_computeDigest, blobPath_computeDigest]
  dsimp only
  have hexists : pathExists s.disk (blobFile (sha.hex data)) = true := by
    rw [pathExists, h]
    rfl
  rw [hexists, read_eq_ok_iff.mpr h]
  simp [FileContent.data]

/-! ## What a collection leaves -/

def Referenced (parse : List UInt8 → Option Json) (disk : FileTree FileContent)
    (digest : String) : Prop :=
  ∃ image file manifest,
    lookup disk (manifestFile image file) = some (.file (.bytes manifest)) ∧
      digest ∈ manifestDigests parse manifest

/-- A collection that nothing else runs beside has found referenced digests only, and still has to
look at every other blob. -/
def Collector.Exact (parse : List UInt8 → Option Json) (disk : FileTree FileContent) :
    Collector → Prop
  | .scanning _ manifests referenced =>
    (∀ path ∈ manifests, ∃ image file, path = manifestFile image file) ∧
      ∀ digest ∈ referenced, Referenced parse disk digest
  | .deleting blobs referenced _ =>
    (∀ digest ∈ referenced, Referenced parse disk digest) ∧
      ∀ file, lookup disk (blobFile file) ≠ none → file ∈ blobs ∨ "sha256:" ++ file ∈ referenced

def Action.collector : Action sha parse → Option Nat
  | .collect i | .scanImage i _ | .scanManifest i _ | .listBlobs i | .deleteBlob i _
  | .finish i => some i
  | _ => none

/-- The states of a collection that nothing else runs beside; `returned` collections had returned
before. -/
structure Alone (i returned : Nat) (w : World sha parse) : Prop where
  exact : ∀ c : Collector, w.collectors[i]? = some c → c.Exact parse w.store.disk
  clean : returned < w.collected.length →
    ∀ file, lookup w.store.disk (blobFile file) ≠ none →
      Referenced parse w.store.disk ("sha256:" ++ file)

namespace Alone

variable {w : World sha parse} {i returned : Nat}

section

variable (h : Alone i returned w)

include h

lemma setCollector {c : Collector} (hc : c.Exact parse w.store.disk) :
    Alone i returned (w.setCollector i c) where
  exact other hother := by
    rcases HashMap.of_lookup_insert hother with ⟨-, rfl⟩ | ⟨hne, -⟩
    · exact hc
    · exact absurd rfl hne
  clean := h.clean

lemma dropCollector : Alone i returned (w.dropCollector i) where
  exact _ hother := absurd rfl (HashMap.of_lookup_erase hother).1
  clean := h.clean

lemma collect (hclosed : Closed w.store.disk) :
    Alone i returned (w.collect i) := by
  unfold World.collect
  split
  · exact h
  · refine hclosed.listing (motive := Alone i returned) h fun images _ => ?_
    exact h.setCollector ⟨fun _ hmem => (nomatch hmem), fun _ hmem => nomatch hmem⟩

lemma scanImage (hclosed : Closed w.store.disk) (image : String) :
    Alone i returned (w.scanImage i image) := by
  unfold World.scanImage
  split
  next images referenced hc =>
    have hexact := h.exact _ hc
    dsimp only
    split
    · exact h
    · refine hclosed.listing (motive := Alone i returned) h.dropCollector fun files _ => ?_
      refine h.setCollector ⟨fun path hpath => ?_, hexact.2⟩
      rcases mem_map.mp hpath with ⟨file, -, rfl⟩
      exact ⟨image, file, rfl⟩
  · exact h

lemma scanManifest (hfiles : Files sha parse known w.store.disk) (path : List String) :
    Alone i returned (w.scanManifest i path) := by
  unfold World.scanManifest
  split
  next images manifests referenced hc =>
    have hexact := h.exact _ hc
    split
    · exact h
    next hpending =>
      refine h.setCollector ⟨fun other hother => hexact.1 other (mem_of_mem_erase hother), ?_⟩
      intro digest hdigest
      rcases mem_append.mp hdigest with hnew | hold
      · split at hnew
        next content hread =>
          rcases hexact.1 path (not_not.mp hpending) with ⟨image, file, rfl⟩
          have hfile := read_eq_ok_iff.mp hread
          rcases hfiles.manifests image file _ hfile with ⟨manifest, -, -, hnode⟩
          cases hnode
          exact ⟨image, file, manifest, hfile, hnew⟩
        · cases hnew
      · exact hexact.2 digest hold
  · exact h

lemma listBlobs (hclosed : Closed w.store.disk) :
    Alone i returned (w.listBlobs i) := by
  unfold World.listBlobs
  split
  next referenced hc =>
    have hexact := h.exact _ hc
    refine hclosed.listing (motive := Alone i returned) h.dropCollector fun blobs hall => ?_
    exact h.setCollector ⟨hexact.2, fun file hfile => .inl (hall file hfile)⟩
  · exact h

lemma deleteBlob (file : String) :
    Alone i returned (w.deleteBlob i file) := by
  unfold World.deleteBlob
  split
  next blobs referenced freed hc =>
    rcases h.exact _ hc with ⟨hreferenced, hlooked⟩
    split
    · exact h
    · split
      next hnamed =>
        refine h.setCollector ⟨hreferenced, fun other hother => ?_⟩
        rcases hlooked other hother with hpending | hfound
        · by_cases heq : other = file
          · exact .inr (heq ▸ hnamed)
          · exact .inl ((mem_erase_of_ne heq).mpr hpending)
        · exact .inr hfound
      · dsimp only
        split
        next disk hremove =>
          have hlookup := lookup_removeFile hremove
          have hstays (digest : String) (hdigest : Referenced parse w.store.disk digest) :
              Referenced parse disk digest := by
            rcases hdigest with ⟨image, name, manifest, hfile, hmem⟩
            refine ⟨image, name, manifest, ?_, hmem⟩
            rw [hlookup, if_neg (by simp [blobsDir])]
            exact hfile
          have hless (other : String) (hother : lookup disk (blobFile other) ≠ none) :
              other ≠ file ∧ lookup w.store.disk (blobFile other) ≠ none := by
            rw [hlookup] at hother
            split at hother
            · exact absurd rfl hother
            next hne => exact ⟨fun heq => hne (heq ▸ rfl), hother⟩
          have hnext : Alone i returned (w.setDisk disk) := by
            refine ⟨fun c hc' => ?_, fun hreturned other hother => ?_⟩
            · cases hc.symm.trans hc'
              exact ⟨fun digest hdigest => hstays _ (hreferenced digest hdigest),
                fun other hother => hlooked other (hless other hother).2⟩
            · exact hstays _ (h.clean hreturned other (hless other hother).2)
          refine hnext.setCollector ⟨fun digest hdigest => hstays _ (hreferenced digest hdigest),
            fun other hother => ?_⟩
          rcases hless other hother with ⟨hne, hbefore⟩
          rcases hlooked other hbefore with hpending | hfound
          · exact .inl ((mem_erase_of_ne hne).mpr hpending)
          · exact .inr hfound
        · exact h.dropCollector
  · exact h

lemma finish : Alone i returned (w.finish i) := by
  unfold World.finish
  split
  next referenced freed hc =>
    rcases h.exact _ hc with ⟨hreferenced, hlooked⟩
    refine ⟨fun c hc' => ?_, fun _ file hfile => ?_⟩
    · simp [World.dropCollector] at hc'
    · rcases hlooked file hfile with hnone | hfound
      · cases hnone
      · exact hreferenced _ hfound
  · exact h

lemma next (hfiles : Files sha parse known w.store.disk) {action : Action sha parse}
    (haction : action.collector = some i) :
    Alone i returned (w.next action) := by
  cases action <;> cases haction
  case collect => exact h.collect hfiles.closed
  case scanImage image => exact h.scanImage hfiles.closed image
  case scanManifest path => exact h.scanManifest hfiles path
  case listBlobs => exact h.listBlobs hfiles.closed
  case deleteBlob file => exact h.deleteBlob file
  case finish => exact h.finish

end

end Alone

/-! ## Pushes and collections apart -/

def Readable (w : World sha parse) : Prop :=
  ∀ image ∈ w.stored, ∀ digest ∈ manifestDigests parse image.manifest,
    ∃ data, getBlob sha digest w.store = .ok data

variable {w : World sha parse}

lemma Safe.readable (h : Safe known w) : Readable w := by
  intro image himage digest hdigest
  rcases h.files.complete _ _ _ (h.stored image himage) digest hdigest with ⟨data, -, rfl, hpres⟩
  exact ⟨data, getBlob_of_present hpres⟩

section Example

instance (w : World sha parse) : (action : Action sha parse) → Decidable (Allowed w action)
  | .push .. | .deleteImage _ => inferInstanceAs (Decidable (_ ∧ _))
  | .collect _ => inferInstanceAs (Decidable (_ = true))
  | .checkBlob _ | .writeBlob _ | .renameBlob _ | .putManifest .. | .scanImage .. |
    .scanManifest .. | .listBlobs _ | .deleteBlob .. | .finish _ => .isTrue trivial

end Example

end ZLayer.Registry
