import ZLayer.Registry.LocalRegistry

/-!
# MapRefinement — the registry as a map from names and tags to manifests

Names and tags reach the disk through a replacement of characters that is not injective, and joined
to paths in which some names mean other directories.  Where every stored name and tag is free of
the characters that are replaced and of the one they are replaced by, the files of an image are its
own and the registry refines a map.
-/

namespace ZLayer.Registry

open Lib FileTree

/-! ## Names -/

/-- The characters that the replacement keeps and never produces. -/
def isKept (c : Char) : Bool :=
  c.isAlphanum || c = '-' || c = '.'

/-- A name that is its own entry of a directory, and that no other name is replaced by. -/
def CleanName (name : String) : Prop :=
  (∀ c ∈ name.toList, isKept c = true) ∧ name ≠ "" ∧ name ≠ "." ∧ name ≠ ".."

instance (name : String) : Decidable (CleanName name) :=
  decidable_of_iff (name.toList.all isKept = true ∧ name ≠ "" ∧ name ≠ "." ∧ name ≠ "..")
    (and_congr_left' List.all_eq_true)

lemma sanitizeChar_ne_slash (c : Char) : sanitizeChar c ≠ '/' := by
  unfold sanitizeChar
  split
  next hkept =>
    rintro rfl
    revert hkept
    decide
  · decide

lemma eq_of_isKept_sanitizeChar {c : Char} (h : isKept (sanitizeChar c) = true) :
    sanitizeChar c = c := by
  unfold sanitizeChar at h ⊢
  split at h
  next hkept => rw [if_pos hkept]
  · exact absurd h (by decide)

lemma slash_not_mem_sanitize (name : String) : '/' ∉ (sanitize name).toList := by
  intro h
  rw [sanitize, String.toList_ofList, List.mem_map] at h
  rcases h with ⟨c, -, hc⟩
  exact sanitizeChar_ne_slash c hc

variable {name : String}

lemma sanitize_eq_self (h : ∀ c ∈ name.toList, sanitizeChar c = c) : sanitize name = name := by
  have hsame : name.toList.map sanitizeChar = name.toList :=
    (List.map_congr_left h).trans (List.map_id _)
  rw [sanitize, hsame, String.ofList_toList]

lemma eq_of_clean_sanitize (h : CleanName (sanitize name)) : sanitize name = name := by
  refine sanitize_eq_self fun c hc => eq_of_isKept_sanitizeChar (h.1 _ ?_)
  rw [sanitize, String.toList_ofList]
  exact List.mem_map_of_mem hc

lemma sanitize_of_clean (h : CleanName name) : sanitize name = name := by
  refine sanitize_eq_self fun c hc => ?_
  have hkept := h.1 c hc
  unfold isKept at hkept
  rw [sanitizeChar, if_pos (by simp [hkept])]

lemma CleanName.plain_sanitize (h : CleanName name) : PlainName (sanitize name) := by
  rw [sanitize_of_clean h]
  refine ⟨h.2.1, h.2.2.1, h.2.2.2, fun hslash => ?_⟩
  exact absurd (h.1 _ hslash) (by decide)

/-! ## Paths -/

lemma plainName_tags : PlainName "tags" := by decide

lemma plainName_sha256 : PlainName "sha256" := by decide

lemma manifestsDir_of_plain (h : PlainName (sanitize name)) :
    manifestsDir name = ["manifests", sanitize name] := by
  rw [manifestsDir, sanitizeName, join_of_plainName _ h]
  rfl

lemma tagPath_of_plain {name tag : String} (hname : PlainName (sanitize name))
    (htag : PlainName (sanitize tag)) :
    tagPath name tag = ["manifests", sanitize name, "tags", sanitize tag] := by
  rw [tagPath, manifestsDir_of_plain hname, join_of_plainName _ plainName_tags, sanitizeTag,
    join_of_plainName _ htag]
  rfl

lemma manifestsDir_of_clean (h : CleanName name) : manifestsDir name = ["manifests", name] := by
  rw [manifestsDir_of_plain h.plain_sanitize, sanitize_of_clean h]

lemma tagsDir_of_clean (h : CleanName name) :
    join (manifestsDir name) "tags" = ["manifests", name, "tags"] := by
  rw [manifestsDir_of_clean h, join_of_plainName _ plainName_tags]
  rfl

lemma sha256Dir_of_clean (h : CleanName name) :
    join (manifestsDir name) "sha256" = ["manifests", name, "sha256"] := by
  rw [manifestsDir_of_clean h, join_of_plainName _ plainName_sha256]
  rfl

lemma tagPath_of_clean {name tag : String} (hname : CleanName name) (htag : CleanName tag) :
    tagPath name tag = ["manifests", name, "tags", tag] := by
  rw [tagPath_of_plain hname.plain_sanitize htag.plain_sanitize, sanitize_of_clean hname,
    sanitize_of_clean htag]

lemma isTag_of_clean {tag : String} (h : CleanName tag) : isTag tag = true := by
  rw [isTag, Bool.not_eq_true', ← Bool.not_eq_true, Str.startsWith, List.isPrefixOf_iff_prefix]
  rintro ⟨rest, hrest⟩
  have hcolon : ':' ∈ tag.toList := by
    rw [← hrest]
    simp
  exact absurd (h.1 _ hcolon) (by decide)

variable {q : List String}

lemma prefix_of_three {a b c : String} (h : q <+: [a, b, c]) :
    q = [] ∨ q = [a] ∨ q = [a, b] ∨ q = [a, b, c] := by
  rcases h with ⟨rest, hrest⟩
  rcases q with _ | ⟨x, _ | ⟨y, _ | ⟨z, _ | ⟨w, q⟩⟩⟩⟩ <;> simp_all

lemma prefix_manifests (h : q <+: ["manifests"]) : q = [] ∨ q = ["manifests"] := by
  rcases h with ⟨rest, hrest⟩
  rcases q with _ | ⟨x, _ | ⟨y, q⟩⟩ <;> simp_all

lemma prefix_blobsDir (h : q <+: blobsDir) :
    q = [] ∨ q = ["blobs"] ∨ q = ["blobs", "sha256"] := by
  rcases h with ⟨rest, hrest⟩
  rcases q with _ | ⟨x, _ | ⟨y, _ | ⟨z, q⟩⟩⟩ <;> simp_all [blobsDir]

lemma hex_plainName (sha : Sha256) (data : List UInt8) : PlainName (sha.hex data) := by
  have hdigits := sha.hex_digits data
  have hlength := sha.length_hex data
  refine ⟨?_, ?_, ?_, fun hslash => absurd (hdigits _ hslash) (by decide)⟩
  all_goals
    intro h
    rw [h] at hlength
    exact absurd hlength (by decide)

lemma tmp_ne_hex (sha : Sha256) (name : String) (data : List UInt8) :
    name ++ "." ++ "tmp" ≠ sha.hex data := by
  intro h
  have hdot : '.' ∈ (sha.hex data).toList := by
    rw [← h]
    simp
  exact absurd (sha.hex_digits data _ hdot) (by decide)

lemma hashOf_computeDigest (sha : Sha256) (data : List UInt8) :
    hashOf (computeDigest sha data) = sha.hex data := by
  rw [hashOf, computeDigest, Str.stripPrefix, String.toList_append]
  simp

/-! ## What the operations leave on the disk -/

lemma manifestPath_of_clean (sha : Sha256) (h : CleanName name) (data : List UInt8) :
    manifestPath name (computeDigest sha data) =
      ["manifests", name, "sha256"] ++ [sha.hex data] := by
  rw [manifestPath, sha256Dir_of_clean h, hashOf_computeDigest,
    join_of_plainName _ (hex_plainName sha data)]

section Effects

variable {α : Type} {s : Store} {next : Store → Except LocalRegistryError α × Store}

lemma io_of_ok {result : Except IoError (FileTree FileContent)} {disk : FileTree FileContent}
    (h : result = .ok disk) : io result s next = next { s with disk } := by
  rw [h, io]

/-- A file that may be there already with its content is there afterwards. -/
lemma writeNew_eq {dir : List String} {name : String} {data : List UInt8}
    (hdir : lookup s.disk dir = some .dir)
    (hpath : lookup s.disk (dir ++ [name]) = none ∨
      lookup s.disk (dir ++ [name]) = some (.file (.bytes data)))
    (htmp : lookup s.disk (dir ++ [name ++ "." ++ "tmp"]) = none) :
    ∃ disk, (∀ (α : Type) (next : Store → Except LocalRegistryError α × Store),
        writeNew (dir ++ [name]) data s next = next { s with disk }) ∧
      ∀ q, lookup disk q =
        if q = dir ++ [name] then some (.file (.bytes data)) else lookup s.disk q := by
  have hext : withExtension (dir ++ [name]) "tmp" = dir ++ [name ++ "." ++ "tmp"] := by
    simp [withExtension]
  rcases hpath with hnone | hfile
  · -- written to the temporary file and renamed
    have hne : name ≠ name ++ "." ++ "tmp" := by
      intro h
      have hlength := congrArg (fun text : String => text.toList.length) h
      simp at hlength
    have hpath : ∀ file : String, (dir ++ [file]).dropLast = dir := by simp
    have htmpNot : lookup s.disk (dir ++ [name ++ "." ++ "tmp"]) ≠ some .dir := by simp [htmp]
    rcases write_ok (by rw [hpath, hdir]) htmpNot (.bytes data) with ⟨tmpDisk, hwrite, hwritten⟩
    have hsrc : lookup tmpDisk (dir ++ [name ++ "." ++ "tmp"]) = some (.file (.bytes data)) := by
      rw [hwritten, if_pos rfl]
    have hparent : lookup tmpDisk (dir ++ [name]).dropLast = some .dir := by
      rw [hpath, hwritten, if_neg (by simp), hdir]
    have hdst : lookup tmpDisk (dir ++ [name]) ≠ some .dir := by
      rw [hwritten, if_neg (by simpa using hne), hnone]
      exact nofun
    rcases rename_of_file hsrc hparent hdst with ⟨disk, hrename, hlookup⟩
    refine ⟨disk, fun α next => ?_, fun q => ?_⟩
    · rw [writeNew, if_neg (by simp [pathExists, hnone]), hext, io_of_ok hwrite, io_of_ok hrename]
    · rw [hlookup, hwritten]
      by_cases hq : q = dir ++ [name ++ "." ++ "tmp"]
      · simp [hq, htmp]
      · simp [hq]
  · refine ⟨s.disk, fun α next => ?_, fun q => ?_⟩
    · rw [writeNew, if_pos (by simp [pathExists, hfile])]
    · split
      next hq => rw [hq, hfile]
      · rfl

/-- The file of a manifest has its content if it is there, and it has no temporary file. -/
lemma manifest_slot {sha : Sha256} {known : List (List UInt8)} {disk : FileTree FileContent}
    {dir : List String} {manifest : List UInt8}
    (hhonest : ∀ file node, lookup disk (dir ++ [file]) = some node →
      ∃ m ∈ known, file = sha.hex m ∧ node = .file (.bytes m))
    (hcollision : ∀ m ∈ known, sha.hex m = sha.hex manifest → m = manifest) :
    (lookup disk (dir ++ [sha.hex manifest]) = none ∨
      lookup disk (dir ++ [sha.hex manifest]) = some (.file (.bytes manifest))) ∧
      lookup disk (dir ++ [sha.hex manifest ++ "." ++ "tmp"]) = none := by
  constructor
  · cases hnode : lookup disk (dir ++ [sha.hex manifest]) with
    | none => exact .inl rfl
    | some node =>
      rcases hhonest _ node hnode with ⟨m, hm, hhex, rfl⟩
      rw [hcollision m hm hhex.symm]
      exact .inr rfl
  · cases hnode : lookup disk (dir ++ [sha.hex manifest ++ "." ++ "tmp"]) with
    | none => rfl
    | some node =>
      rcases hhonest _ node hnode with ⟨m, -, hhex, -⟩
      exact absurd hhex (tmp_ne_hex sha _ m)

end Effects

/-! ## The map -/

/-- The manifest stored under a name and a tag. -/
abbrev Images := String → String → Option (List UInt8)

inductive Op
  | putManifest (now : Nat) (name tag : String) (manifest : List UInt8)
  | deleteTag (name tag : String)
  | deleteImage (name : String)
  | reopen

namespace Op

def image : Op → Option String
  | .putManifest _ name _ _ | .deleteTag name _ | .deleteImage name => some name
  | .reopen => none

def onImages (images : Images) : Op → Images
  | .putManifest _ name tag manifest => fun n t =>
    if n = name ∧ t = tag then some manifest else images n t
  | .deleteTag name tag => fun n t => if n = name ∧ t = tag then none else images n t
  | .deleteImage name => fun n t => if n = name then none else images n t
  | .reopen => images

def manifests : Op → List (List UInt8)
  | .putManifest _ _ _ manifest => [manifest]
  | .deleteTag .. | .deleteImage _ | .reopen => []

end Op

def Store.next (sha : Sha256) (s : Store) : Op → Store
  | .putManifest now name tag manifest => (putManifest sha now name tag manifest s).2
  | .deleteTag name tag => (deleteTag name tag s).2
  | .deleteImage name => (deleteImage name s).2
  | .reopen => (openRegistry s).2

def Store.initial : Store :=
  (openRegistry ⟨∅, .new⟩).2

/-- The name of an image whose directory is no other image's. -/
def StoredName (name : String) : Prop :=
  CleanName name ∧ name ≠ "tags"

instance (name : String) : Decidable (StoredName name) :=
  inferInstanceAs (Decidable (_ ∧ _))

def Op.Clean : Op → Prop
  | .putManifest _ name tag _ => StoredName name ∧ CleanName tag
  | .deleteTag name tag => PlainName (sanitize name) ∧ PlainName (sanitize tag)
  | .deleteImage name => PlainName (sanitize name)
  | .reopen => True

instance : (op : Op) → Decidable op.Clean
  | .putManifest .. | .deleteTag .. => inferInstanceAs (Decidable (_ ∧ _))
  | .deleteImage name => inferInstanceAs (Decidable (PlainName (sanitize name)))
  | .reopen => .isTrue trivial

def tagFile (sha : Sha256) (manifest : List UInt8) : Node FileContent :=
  .file (.bytes (utf8Bytes (computeDigest sha manifest)))

/-- The files of the registry hold the map, and nothing that could be taken for a part of it. -/
structure Refines (sha : Sha256) (known : List (List UInt8)) (disk : FileTree FileContent)
    (images : Images) : Prop where
  clean : ∀ n t m, images n t = some m → StoredName n ∧ CleanName t
  tag : ∀ n t, StoredName n →
    lookup disk ["manifests", n, "tags", t] = (images n t).map (tagFile sha)
  manifest : ∀ n t m, images n t = some m →
    lookup disk ["manifests", n, "sha256", sha.hex m] = some (.file (.bytes m))
  honest : ∀ n h node, lookup disk ["manifests", n, "sha256", h] = some node →
    ∃ m ∈ known, h = sha.hex m ∧ node = .file (.bytes m)
  ownDir : ∀ n t m, images n t = some m → lookup disk ["manifests", n] = some .dir
  tagsDir : ∀ n t m, images n t = some m → lookup disk ["manifests", n, "tags"] = some .dir
  named : ∀ n rest node, lookup disk ("manifests" :: n :: rest) = some node → StoredName n
  imageDir : ∀ n c, lookup disk ["manifests", n] ≠ some (.file c)
  tagsNoFile : ∀ n c, lookup disk ["manifests", n, "tags"] ≠ some (.file c)
  sha256NoFile : ∀ n c, lookup disk ["manifests", n, "sha256"] ≠ some (.file c)
  base : lookup disk ["manifests"] = some .dir
  outside : ∀ rest, lookup disk ("tags" :: rest) = none
  index : lookup disk ["index.json"] ≠ some .dir
  blobs : ∀ q c, q <+: blobsDir → lookup disk q ≠ some (.file c)

section Steps

variable {sha : Sha256} {known : List (List UInt8)} {s : Store} {images : Images}

variable {name tag : String} {manifest : List UInt8}

lemma putManifest_effect (h : Refines sha known s.disk images) (hname : StoredName name)
    (htag : CleanName tag) (hcollision : ∀ m ∈ known, sha.hex m = sha.hex manifest → m = manifest)
    (now : Nat) :
    ∃ index, (∀ q, lookup (putManifest sha now name tag manifest s).2.disk q =
      if q = ["index.json"] then some (.file (.index index))
      else if q = ["manifests", name, "tags", tag] then some (tagFile sha manifest)
      else if q = ["manifests", name, "sha256", sha.hex manifest] then
        some (.file (.bytes manifest))
      else if q <+: ["manifests", name, "tags"] ∨ q <+: ["manifests", name, "sha256"] then
        some .dir
      else lookup s.disk q) ∧
      (putManifest sha now name tag manifest s).1 = .ok (computeDigest sha manifest) := by
  have hclean := hname.1
  -- the two directories
  have hnoFile (q : List String) (c : FileContent)
      (hq : q <+: ["manifests", name, "sha256"] ∨ q <+: ["manifests", name, "tags"]) :
      lookup s.disk q ≠ some (.file c) := by
    rcases hq with hq | hq <;> rcases prefix_of_three hq with rfl | rfl | rfl | rfl
    all_goals simp [lookup_nil, h.base, h.imageDir, h.sha256NoFile, h.tagsNoFile]
  rcases createDirAll_ok fun q c hq => hnoFile q c (.inl hq) with ⟨disk₁, hsha, hlookup₁⟩
  have hnoFile₁ (q : List String) (c : FileContent) (hq : q <+: ["manifests", name, "tags"]) :
      lookup disk₁ q ≠ some (.file c) := by
    rw [hlookup₁]
    split
    · exact nofun
    · exact hnoFile q c (.inr hq)
  rcases createDirAll_ok hnoFile₁ with ⟨disk₂, htags, hlookup₂⟩
  have hbelow (q : List String) (hq : 4 ≤ q.length) : lookup disk₂ q = lookup s.disk q := by
    have hnot : ∀ a b c : String, ¬ q <+: [a, b, c] := by
      intro a b c hstart
      have hle := hstart.length_le
      simp at hle
      omega
    rw [hlookup₂, if_neg (hnot _ _ _), hlookup₁, if_neg (hnot _ _ _)]
  -- the manifest
  have hhonest (file : String) (node : Node FileContent)
      (hnode : lookup disk₂ (["manifests", name, "sha256"] ++ [file]) = some node) :
      ∃ m ∈ known, file = sha.hex m ∧ node = .file (.bytes m) := by
    rw [hbelow _ (by simp)] at hnode
    exact h.honest name file node hnode
  rcases manifest_slot hhonest hcollision with ⟨hmanifest, htmp⟩
  have hshaDir : lookup disk₂ ["manifests", name, "sha256"] = some .dir := by
    rw [hlookup₂, hlookup₁]
    simp
  rcases writeNew_eq (s := { s with disk := disk₂ }) hshaDir hmanifest htmp with
    ⟨disk₃, hwriteNew, hlookup₃⟩
  -- the tag
  have htagsDir : lookup disk₃ ["manifests", name, "tags"] = some .dir := by
    rw [hlookup₃, if_neg (by simp), hlookup₂]
    simp
  have htagFree : lookup disk₃ ["manifests", name, "tags", tag] ≠ some .dir := by
    rw [hlookup₃, if_neg (by simp), hbelow _ (by simp), h.tag name tag hname]
    cases images name tag <;> simp [tagFile]
  rcases write_ok htagsDir htagFree (.bytes (utf8Bytes (computeDigest sha manifest))) with
    ⟨disk₄, htagWrite, hlookup₄⟩
  -- the index
  have hindexFree : lookup disk₄ ["index.json"] ≠ some .dir := by
    rw [hlookup₄, if_neg (by simp), hlookup₃, if_neg (by simp)]
    change lookup disk₂ ["index.json"] ≠ some .dir
    rw [hlookup₂, if_neg (by simp), hlookup₁, if_neg (by simp)]
    exact h.index
  rcases write_ok (lookup_nil disk₄) hindexFree (.index (s.index.stored now name (some tag))) with
    ⟨disk₅, hindexWrite, hlookup₅⟩
  have hput : putManifest sha now name tag manifest s =
      (.ok (computeDigest sha manifest),
        { disk := disk₅, index := s.index.stored now name (some tag) }) := by
    simp only [putManifest, putManifestFiles, updateIndex, sha256Dir_of_clean hclean,
      tagsDir_of_clean hclean, io_of_ok hsha, io_of_ok htags, manifestPath_of_clean sha hclean,
      hwriteNew, isTag_of_clean htag, if_true, tagPath_of_clean hclean htag, io_of_ok htagWrite,
      saveIndex, io_of_ok hindexWrite]
  refine ⟨s.index.stored now name (some tag), fun q => ?_, by rw [hput]⟩
  rw [hput]
  change lookup disk₅ q = _
  rw [hlookup₅, hlookup₄, hlookup₃]
  change (if q = ["index.json"] then _ else if q = ["manifests", name, "tags", tag] then _
    else if q = ["manifests", name, "sha256", sha.hex manifest] then _ else lookup disk₂ q) = _
  rw [hlookup₂, hlookup₁]
  by_cases hq : q <+: ["manifests", name, "tags"]
  · simp only [hq, true_or, if_true, tagFile]
  · simp only [hq, false_or, if_false, tagFile]

lemma Refines.putManifest (h : Refines sha known s.disk images) (hname : StoredName name)
    (htag : CleanName tag) (hknown : manifest ∈ known)
    (hcollision : ∀ m ∈ known, sha.hex m = sha.hex manifest → m = manifest) (now : Nat) :
    Refines sha known (putManifest sha now name tag manifest s).2.disk
      (Op.onImages images (.putManifest now name tag manifest)) := by
  rcases putManifest_effect h hname htag hcollision now with ⟨index, hdisk, -⟩
  have himages (n t : String) : Op.onImages images (.putManifest now name tag manifest) n t =
      if n = name ∧ t = tag then some manifest else images n t := rfl
  constructor
  case clean =>
    intro n t m hm
    rw [himages] at hm
    split at hm
    next heq =>
      rw [heq.1, heq.2]
      exact ⟨hname, htag⟩
    · exact h.clean n t m hm
  case tag =>
    intro n t hn
    rw [hdisk, himages]
    by_cases heq : n = name ∧ t = tag
    · simp [heq]
    · simp [heq, h.tag n t hn]
  case manifest =>
    intro n t m hm
    rw [himages] at hm
    rw [hdisk]
    split at hm
    next heq =>
      cases hm
      simp [heq.1]
    · have hold := h.manifest n t m hm
      by_cases heq : n = name ∧ sha.hex m = sha.hex manifest
      · -- the same hash is the same manifest
        rcases h.honest n _ _ hold with ⟨m', hm', hhex, hsame⟩
        cases hsame
        rw [heq.1, hcollision m hm' heq.2]
        simp
      · simp [heq, hold]
  case honest =>
    intro n hash node hnode
    rw [hdisk] at hnode
    by_cases heq : n = name ∧ hash = sha.hex manifest
    · have hsame : .file (.bytes manifest) = node := by simpa [heq] using hnode
      exact ⟨manifest, hknown, heq.2, hsame.symm⟩
    · exact h.honest n hash node (by simpa [heq] using hnode)
  case ownDir | tagsDir =>
    intro n t m hm
    rw [himages] at hm
    rw [hdisk]
    split at hm
    next heq => simp [heq.1]
    · simp [h.ownDir n t m hm, h.tagsDir n t m hm]
  case named =>
    intro n rest node hnode
    by_cases heq : n = name
    · rw [heq]
      exact hname
    · rw [hdisk] at hnode
      exact h.named n rest node (by simpa [heq] using hnode)
  case imageDir | tagsNoFile | sha256NoFile =>
    intro n c
    rw [hdisk]
    by_cases heq : n = name
    · simp [heq]
    · simp [heq, h.imageDir, h.tagsNoFile, h.sha256NoFile]
  case base | index =>
    rw [hdisk]
    simp
  case outside =>
    intro rest
    rw [hdisk]
    simpa using h.outside rest
  case blobs =>
    intro q c hq
    rw [hdisk]
    have hold := h.blobs q c hq
    rcases prefix_blobsDir hq with rfl | rfl | rfl
    · simp
    · simpa using hold
    · simpa using hold

variable {disk disk' : FileTree FileContent}

/-- Only the files of the images, what could be taken for them, and what is in the way of opening
the registry matter. -/
lemma Refines.congr (h : Refines sha known disk images)
    (hmanifests : ∀ rest, lookup disk' ("manifests" :: rest) = lookup disk ("manifests" :: rest))
    (htags : ∀ rest, lookup disk' ("tags" :: rest) = lookup disk ("tags" :: rest))
    (hindex : lookup disk' ["index.json"] ≠ some .dir)
    (hblobs : ∀ q c, q <+: blobsDir → lookup disk' q ≠ some (.file c)) :
    Refines sha known disk' images where
  clean := h.clean
  tag n t hn := by rw [hmanifests, h.tag n t hn]
  manifest n t m hm := by rw [hmanifests, h.manifest n t m hm]
  honest n hash node hnode := h.honest n hash node (by rw [← hmanifests, hnode])
  ownDir n t m hm := by rw [hmanifests, h.ownDir n t m hm]
  tagsDir n t m hm := by rw [hmanifests, h.tagsDir n t m hm]
  named n rest node hnode := h.named n rest node (by rw [← hmanifests, hnode])
  imageDir n c := by
    rw [hmanifests]
    exact h.imageDir n c
  tagsNoFile n c := by
    rw [hmanifests]
    exact h.tagsNoFile n c
  sha256NoFile n c := by
    rw [hmanifests]
    exact h.sha256NoFile n c
  base := by rw [hmanifests, h.base]
  outside rest := by rw [htags, h.outside rest]
  index := hindex
  blobs := hblobs

lemma saveIndex_effect (h : lookup s.disk ["index.json"] ≠ some .dir) :
    saveIndex s () = (.ok (), (saveIndex s ()).2) ∧
      ∀ q, lookup (saveIndex s ()).2.disk q =
        if q = ["index.json"] then some (.file (.index s.index)) else lookup s.disk q := by
  rcases write_ok (lookup_nil s.disk) h (.index s.index) with ⟨disk, hwrite, hlookup⟩
  have hsave : saveIndex s () = (.ok (), { s with disk }) := io_of_ok hwrite
  rw [hsave]
  exact ⟨rfl, hlookup⟩

lemma Refines.saveIndex {disk : FileTree FileContent} (h : Refines sha known disk images)
    (index : RegistryIndex) :
    Refines sha known (Registry.saveIndex ⟨disk, index⟩ ()).2.disk images := by
  have heffect := (saveIndex_effect (s := ⟨disk, index⟩) h.index).2
  refine h.congr (fun rest => ?_) (fun rest => ?_) ?_ fun q c hq => ?_
  · rw [heffect]
    simp
  · rw [heffect]
    simp
  · rw [heffect]
    simp
  · rw [heffect]
    have hold := h.blobs q c hq
    rcases prefix_blobsDir hq with rfl | rfl | rfl <;> simpa using hold

/-- Opening a registry makes its directories, where no files are in the way. -/
lemma openRegistry_effect (hblobs : ∀ q c, q <+: blobsDir → lookup s.disk q ≠ some (.file c))
    (hbase : ∀ c, lookup s.disk ["manifests"] ≠ some (.file c)) (q : List String) :
    lookup (openRegistry s).2.disk q =
      if q <+: ["manifests"] ∨ q <+: blobsDir then some .dir else lookup s.disk q := by
  rcases createDirAll_ok hblobs with ⟨disk₁, hblobs, hlookup₁⟩
  have hfree (q : List String) (c : FileContent) (hq : q <+: ["manifests"]) :
      lookup disk₁ q ≠ some (.file c) := by
    rw [hlookup₁]
    rcases prefix_manifests hq with rfl | rfl
    · simp
    · simpa [blobsDir] using hbase c
  rcases createDirAll_ok hfree with ⟨disk₂, hmanifests, hlookup₂⟩
  have hdisk : (openRegistry s).2.disk = disk₂ := by
    unfold openRegistry
    rw [io_of_ok hblobs, io_of_ok hmanifests]
    unfold loadIndex
    split <;> rfl
  rw [hdisk, hlookup₂, hlookup₁]
  by_cases hq : q <+: ["manifests"] <;> simp [hq]

lemma Refines.reopen (h : Refines sha known s.disk images) :
    Refines sha known (openRegistry s).2.disk images := by
  have heffect := openRegistry_effect h.blobs fun c => by simp [h.base]
  refine h.congr (fun rest => ?_) (fun rest => ?_) ?_ fun q c hq => ?_
  · rw [heffect]
    cases rest <;> simp [blobsDir, h.base]
  · rw [heffect]
    simp [blobsDir]
  · rw [heffect]
    simpa [blobsDir] using h.index
  · rw [heffect]
    simp [hq]

/-! ### Names as they are given -/

/-- The tag file of a name and a tag as they are given holds what the map has for them. -/
lemma Refines.lookup_tag {disk : FileTree FileContent} (h : Refines sha known disk images)
    (name tag : String) :
    lookup disk ["manifests", sanitize name, "tags", sanitize tag] =
      (images name tag).map (tagFile sha) := by
  cases himage : images name tag with
  | some m =>
    rcases h.clean name tag m himage with ⟨hname, htag⟩
    rw [sanitize_of_clean hname.1, sanitize_of_clean htag, h.tag name tag hname, himage]
  | none =>
    cases hnode : lookup disk ["manifests", sanitize name, "tags", sanitize tag] with
    | none => rfl
    | some node =>
      -- a file that is there belongs to the name it has
      have hstored := h.named _ _ node hnode
      have hsame := eq_of_clean_sanitize hstored.1
      rw [h.tag _ _ hstored, hsame] at hnode
      rcases Option.map_eq_some_iff.mp hnode with ⟨m, hm, -⟩
      have htag := eq_of_clean_sanitize (h.clean _ _ m hm).2
      rw [htag, himage] at hm
      cases hm

/-- Some files were removed, and with them tags of the map, but nothing that the tags left need. -/
lemma Refines.of_removed {gone : List String → Prop} {hit : String → String → Prop}
    [DecidablePred gone] [∀ n t, Decidable (hit n t)] (h : Refines sha known disk images)
    (hdisk : ∀ q, lookup disk' q = if gone q then none else lookup disk q)
    (htag : ∀ n t, gone ["manifests", n, "tags", t] ↔ hit n t)
    (hkept : ∀ n t, ¬ hit n t → ¬ gone ["manifests", n] ∧ ¬ gone ["manifests", n, "tags"] ∧
      ∀ hash, ¬ gone ["manifests", n, "sha256", hash])
    (hbase : ¬ gone ["manifests"]) :
    Refines sha known disk' fun n t => if hit n t then none else images n t := by
  have hold {q : List String} {node : Node FileContent} (hq : lookup disk' q = some node) :
      lookup disk q = some node := by
    rw [hdisk] at hq
    split at hq
    · cases hq
    · exact hq
  have hleft {n t : String} {m : List UInt8}
      (hm : (if hit n t then none else images n t) = some m) : ¬ hit n t ∧ images n t = some m := by
    split at hm
    · cases hm
    next hhit => exact ⟨hhit, hm⟩
  exact
    { clean := fun n t m hm => h.clean n t m (hleft hm).2
      tag := fun n t hn => by
        rw [hdisk, h.tag n t hn]
        by_cases hhit : hit n t
        · rw [if_pos ((htag n t).mpr hhit), if_pos hhit, Option.map_none]
        · rw [if_neg (mt (htag n t).mp hhit), if_neg hhit]
      manifest := fun n t m hm => by
        rw [hdisk, if_neg ((hkept n t (hleft hm).1).2.2 _), h.manifest n t m (hleft hm).2]
      honest := fun n hash node hnode => h.honest n hash node (hold hnode)
      ownDir := fun n t m hm => by
        rw [hdisk, if_neg (hkept n t (hleft hm).1).1, h.ownDir n t m (hleft hm).2]
      tagsDir := fun n t m hm => by
        rw [hdisk, if_neg (hkept n t (hleft hm).1).2.1, h.tagsDir n t m (hleft hm).2]
      named := fun n rest node hnode => h.named n rest node (hold hnode)
      imageDir := fun n c hc => h.imageDir n c (hold hc)
      tagsNoFile := fun n c hc => h.tagsNoFile n c (hold hc)
      sha256NoFile := fun n c hc => h.sha256NoFile n c (hold hc)
      base := by rw [hdisk, if_neg hbase, h.base]
      outside := fun rest => by rw [hdisk, h.outside rest, ite_self]
      index := fun hdir => h.index (hold hdir)
      blobs := fun q c hq hc => h.blobs q c hq (hold hc) }

lemma images_unhit {hit : String → String → Prop} [∀ n t, Decidable (hit n t)]
    (h : ∀ n t, hit n t → images n t = none) :
    (fun n t => if hit n t then none else images n t) = images := by
  funext n t
  split
  next hhit => exact (h n t hhit).symm
  · rfl

section

variable (h : Refines sha known s.disk images)

include h

lemma deleteTag_effect (hname : PlainName (sanitize name)) (htag : PlainName (sanitize tag)) :
    images name tag = none ∧ (deleteTag name tag s).2 = s ∨
      StoredName name ∧ ∃ disk index, (deleteTag name tag s).2 = (saveIndex ⟨disk, index⟩ ()).2 ∧
        ∀ q, lookup disk q =
          if q = ["manifests", name, "tags", tag] then none else lookup s.disk q := by
  have hlookup := h.lookup_tag name tag
  unfold Registry.deleteTag
  rw [tagPath_of_plain hname htag]
  cases himage : images name tag with
  | none =>
    rw [himage] at hlookup
    rw [if_pos (by simp [pathExists, hlookup])]
    exact .inl ⟨rfl, rfl⟩
  | some m =>
    rcases h.clean name tag m himage with ⟨hstored, hclean⟩
    rw [himage, sanitize_of_clean hstored.1, sanitize_of_clean hclean] at hlookup
    rw [sanitize_of_clean hstored.1, sanitize_of_clean hclean,
      if_neg (by simp [pathExists, hlookup])]
    rcases removeFile_ok hlookup with ⟨disk, hremove, hdisk⟩
    rw [io_of_ok hremove]
    exact .inr ⟨hstored, disk, _, rfl, hdisk⟩

lemma Refines.deleteTag (hname : PlainName (sanitize name)) (htag : PlainName (sanitize tag)) :
    Refines sha known (deleteTag name tag s).2.disk (Op.onImages images (.deleteTag name tag)) := by
  have himages : Op.onImages images (.deleteTag name tag) =
      fun n t => if n = name ∧ t = tag then none else images n t := rfl
  rw [himages]
  rcases deleteTag_effect h hname htag with ⟨hnone, hsame⟩ | ⟨-, disk, index, hnext, hdisk⟩
  · rw [hsame, images_unhit fun n t hhit => by rw [hhit.1, hhit.2, hnone]]
    exact h
  · rw [hnext]
    exact (h.of_removed hdisk (by simp) (by simp) (by simp)).saveIndex index

lemma deleteImage_effect {name : String} (hname : PlainName (sanitize name)) :
    (∀ t, images name t = none) ∧ (deleteImage name s).2 = s ∨
      StoredName name ∧ ∃ disk index, (deleteImage name s).2 = (saveIndex ⟨disk, index⟩ ()).2 ∧
        ∀ q, lookup disk q = if ["manifests", name] <+: q then none else lookup s.disk q := by
  unfold Registry.deleteImage
  rw [manifestsDir_of_plain hname]
  cases hdir : lookup s.disk ["manifests", sanitize name] with
  | none =>
    rw [if_pos (by simp [pathExists, hdir])]
    refine .inl ⟨fun t => ?_, rfl⟩
    cases himage : images name t with
    | none => rfl
    | some m =>
      rw [sanitize_of_clean (h.clean name t m himage).1.1, h.ownDir name t m himage] at hdir
      cases hdir
  | some node =>
    have hstored := h.named _ _ node hdir
    have hown := eq_of_clean_sanitize hstored.1
    rw [hown] at hdir hstored ⊢
    rw [if_neg (by simp [pathExists, hdir])]
    have hremove : ∃ disk, removeDirAll s.disk ["manifests", name] = .ok disk := by
      cases node with
      | file c => exact absurd hdir (h.imageDir name c)
      | dir =>
        unfold removeDirAll
        rw [hdir]
        exact ⟨_, rfl⟩
    rcases hremove with ⟨disk, hremove⟩
    rw [io_of_ok hremove]
    exact .inr ⟨hstored, disk, _, rfl, lookup_removeDirAll hremove (by simp)⟩

lemma Refines.deleteImage {name : String} (hname : PlainName (sanitize name)) :
    Refines sha known (deleteImage name s).2.disk (Op.onImages images (.deleteImage name)) := by
  have himages : Op.onImages images (.deleteImage name) =
      fun n t => if n = name then none else images n t := rfl
  rw [himages]
  rcases deleteImage_effect h hname with ⟨hnone, hsame⟩ | ⟨-, disk, index, hnext, hdisk⟩
  · rw [hsame, images_unhit fun n t hhit => by rw [hhit, hnone]]
    exact h
  · rw [hnext]
    refine (h.of_removed hdisk ?_ ?_ (by simp)).saveIndex index
    · simp [eq_comm]
    · intro n _ hother
      simp [Ne.symm hother]

end

/-! ### Steps and runs -/

/-- The manifests that a run may store have digests of their own. -/
def CollisionFree (sha : Sha256) (known : List (List UInt8)) : Prop :=
  ∀ a ∈ known, ∀ b ∈ known, sha.hex a = sha.hex b → a = b

instance (sha : Sha256) (known : List (List UInt8)) : Decidable (CollisionFree sha known) :=
  inferInstanceAs (Decidable (∀ a ∈ known, _))

lemma Refines.next (h : Refines sha known s.disk images) (hcollision : CollisionFree sha known)
    {op : Op} (hop : op.Clean) (hknown : ∀ m ∈ op.manifests, m ∈ known) :
    Refines sha known (s.next sha op).disk (op.onImages images) := by
  cases op with
  | putManifest now name tag manifest =>
    have hmem : manifest ∈ known := hknown manifest (by simp [Op.manifests])
    rcases hop with ⟨hname, htag⟩
    have hother : ∀ m ∈ known, sha.hex m = sha.hex manifest → m = manifest :=
      fun m hm => hcollision m hm manifest hmem
    rw [Store.next]
    exact h.putManifest hname htag hmem hother now
  | deleteTag name tag =>
    rw [Store.next]
    exact h.deleteTag hop.1 hop.2
  | deleteImage name =>
    rw [Store.next]
    exact h.deleteImage hop
  | reopen => exact h.reopen

lemma lookup_initial (q : List String) : lookup Store.initial.disk q =
    if q <+: ["manifests"] ∨ q <+: blobsDir then some .dir else none := by
  have hempty : ∀ q, lookup (∅ : FileTree FileContent) q = if q = [] then some .dir else none :=
    fun q => by simp [lookup]
  rw [Store.initial, openRegistry_effect (fun q c _ => ?_) fun c => by simp [hempty]]
  · split
    · rfl
    next hq =>
      refine (hempty q).trans (if_neg ?_)
      rintro rfl
      exact hq (.inl List.nil_prefix)
  · rw [hempty]
    split <;> simp

lemma refines_initial : Refines sha known Store.initial.disk fun _ _ => none := by
  have hnone (q : List String) (hm : ¬ q <+: ["manifests"]) (hb : ¬ q <+: blobsDir) :
      lookup Store.initial.disk q = none := by
    rw [lookup_initial, if_neg (not_or.mpr ⟨hm, hb⟩)]
  have hbelow (n : String) (rest : List String) :
      lookup Store.initial.disk ("manifests" :: n :: rest) = none :=
    hnone _ (by simp) (by simp [blobsDir])
  constructor
  case clean | manifest | ownDir | tagsDir => exact fun n t m hm => nomatch hm
  case tag => exact fun n t _ => hbelow n _
  case honest | named => exact fun n _ node hnode => nomatch (hbelow n _).symm.trans hnode
  case imageDir | tagsNoFile | sha256NoFile =>
    exact fun n c hc => nomatch (hbelow n _).symm.trans hc
  case base =>
    rw [lookup_initial]
    simp
  case outside => exact fun rest => hnone _ (by simp) (by simp [blobsDir])
  case index => simp [hnone ["index.json"] (by simp) (by simp [blobsDir])]
  case blobs =>
    intro q c hq
    simp [lookup_initial, hq]

def Store.run (sha : Sha256) (ops : List Op) : Store :=
  ops.foldl (Store.next sha) Store.initial

def Op.run (ops : List Op) : Images :=
  ops.foldl Op.onImages fun _ _ => none

lemma refines_run (hcollision : CollisionFree sha known) (ops : List Op)
    (hops : ∀ op ∈ ops, op.Clean) (hknown : ∀ op ∈ ops, ∀ m ∈ op.manifests, m ∈ known) :
    Refines sha known (Store.run sha ops).disk (Op.run ops) := by
  -- over the operations, last one first
  induction ops using List.reverseRecOn with
  | nil => exact refines_initial
  | append_singleton before op ih =>
    rw [Store.run, Op.run, List.foldl_append, List.foldl_append]
    have hbefore := ih (fun o ho => hops o (List.mem_append_left _ ho))
      fun o ho => hknown o (List.mem_append_left _ ho)
    exact hbefore.next hcollision (hops op (by simp)) (hknown op (by simp))

end Steps

/-! ## Queries -/

section Queries

variable {sha : Sha256} {known : List (List UInt8)} {s : Store} {images : Images}

/-- What a name or a tag may stand for below a directory. -/
lemma join_sanitize_cases (path : List String) (name : String) :
    (join path (sanitize name) = path ∨ join path (sanitize name) = component path "..") ∧
        ¬ PlainName (sanitize name) ∨
      join path (sanitize name) = path ++ [sanitize name] ∧ PlainName (sanitize name) := by
  have hslash := slash_not_mem_sanitize name
  by_cases hplain : PlainName (sanitize name)
  · exact .inr ⟨join_of_plainName path hplain, hplain⟩
  · refine .inl ⟨?_, hplain⟩
    rw [join_of_no_slash path hslash]
    by_cases hup : sanitize name = ".."
    · exact .inr (by rw [hup])
    · refine .inl (if_pos ?_)
      by_contra! hdot
      exact hplain ⟨hdot.1, hdot.2, hup, hslash⟩

lemma manifestsDir_cases (name : String) :
    (manifestsDir name = ["manifests"] ∨ manifestsDir name = []) ∧ ¬ PlainName (sanitize name) ∨
      manifestsDir name = ["manifests", sanitize name] ∧ PlainName (sanitize name) :=
  join_sanitize_cases ["manifests"] name

lemma tagPath_cases (name tag : String) :
    (tagPath name tag = manifestsDir name ++ ["tags"] ∨ tagPath name tag = manifestsDir name) ∧
        ¬ PlainName (sanitize tag) ∨
      tagPath name tag = manifestsDir name ++ ["tags", sanitize tag] ∧
        PlainName (sanitize tag) := by
  rw [tagPath, sanitizeTag, join_of_plainName _ plainName_tags]
  simpa [component] using join_sanitize_cases (manifestsDir name ++ ["tags"]) tag

lemma Refines.plain_of_some (h : Refines sha known s.disk images) {name tag : String}
    {m : List UInt8} (hm : images name tag = some m) :
    PlainName (sanitize name) ∧ PlainName (sanitize tag) := by
  rcases h.clean name tag m hm with ⟨hname, htag⟩
  exact ⟨hname.1.plain_sanitize, htag.plain_sanitize⟩

lemma Refines.no_tags_image (h : Refines sha known s.disk images) (rest : List String) :
    lookup s.disk ("manifests" :: "tags" :: rest) = none := by
  cases hnode : lookup s.disk ("manifests" :: "tags" :: rest) with
  | none => rfl
  | some node => exact absurd rfl (h.named _ _ node hnode).2

/-- A tag path holds what the map has, or it is a directory and the tag is no name of its own. -/
lemma Refines.lookup_tagPath (h : Refines sha known s.disk images) (name tag : String) :
    lookup s.disk (tagPath name tag) = (images name tag).map (tagFile sha) ∨
      images name tag = none ∧ ¬ PlainName (sanitize tag) ∧
        lookup s.disk (tagPath name tag) = some .dir := by
  cases himage : images name tag with
  | some m =>
    rcases h.plain_of_some himage with ⟨hname, htag⟩
    rw [tagPath_of_plain hname htag, h.lookup_tag, himage]
    exact .inl rfl
  | none =>
    rcases tagPath_cases name tag with ⟨hpath, hstrange⟩ | ⟨hpath, htag⟩
    · have hnoFile : ∀ c, lookup s.disk (tagPath name tag) ≠ some (.file c) := by
        intro c
        rcases manifestsDir_cases name with ⟨hdir | hdir, -⟩ | ⟨hdir, -⟩ <;>
          rcases hpath with hpath | hpath <;> rw [hpath, hdir]
        · simp [h.no_tags_image]
        · simp [h.base]
        · simp [h.outside]
        · simp [lookup]
        · exact h.tagsNoFile _ c
        · exact h.imageDir _ c
      cases hnode : lookup s.disk (tagPath name tag) with
      | none => exact .inl rfl
      | some node =>
        cases node with
        | file c => exact absurd hnode (hnoFile c)
        | dir => exact .inr ⟨rfl, hstrange, rfl⟩
    · -- a plain tag has a path of its own, where only tags are
      refine .inl ?_
      rcases manifestsDir_cases name with ⟨hdir | hdir, -⟩ | ⟨hdir, hname⟩
      · rw [hpath, hdir]
        exact h.no_tags_image _
      · rw [hpath, hdir]
        exact h.outside _
      · rw [tagPath_of_plain hname htag, h.lookup_tag, himage]

lemma toNat_of_hexdigit {c : Char} (h : isAsciiHexdigit c = true) :
    0x30 ≤ c.toNat ∧ c.toNat ≤ 0x39 ∨ 0x61 ≤ c.toNat ∧ c.toNat ≤ 0x66 ∨
      0x41 ≤ c.toNat ∧ c.toNat ≤ 0x46 := by
  simp only [isAsciiHexdigit, Char.isDigit, Bool.or_eq_true, Bool.and_eq_true,
    decide_eq_true_eq] at h
  exact or_assoc.mp h

lemma isWhitespace_of_hexdigit {c : Char} (h : isAsciiHexdigit c = true) :
    Str.isWhitespace c = false := by
  have hrange := toNat_of_hexdigit h
  simp only [Str.isWhitespace, Bool.or_eq_false_iff, Bool.and_eq_false_iff, decide_eq_false_iff_not]
  omega

lemma trim_computeDigest (sha : Sha256) (m : List UInt8) :
    Str.trim (computeDigest sha m) = computeDigest sha m := by
  refine Str.trim_of_forall fun c hc => ?_
  rw [computeDigest, String.toList_append, List.mem_append] at hc
  rcases hc with hc | hc
  · have hstart : "sha256:".toList.all (fun c => !Str.isWhitespace c) = true := by decide
    simpa using List.all_eq_true.mp hstart c hc
  · exact isWhitespace_of_hexdigit (sha.hex_digits m c hc)

lemma Refines.getManifest (h : Refines sha known s.disk images) {name tag : String}
    (htag : isTag tag = true) :
    getManifest sha name tag s =
      match images name tag with
      | some m => .ok m
      | none =>
        if lookup s.disk (tagPath name tag) = none then .error (.manifestNotFound name tag)
        else .error (.io .isADirectory) := by
  unfold Registry.getManifest resolveReference
  rw [if_neg (by simp [htag])]
  cases himage : images name tag with
  | some m =>
    rcases h.clean name tag m himage with ⟨hname, hclean⟩
    have htagFile : lookup s.disk (tagPath name tag) = some (tagFile sha m) := by
      rw [tagPath_of_clean hname.1 hclean, h.tag name tag hname, himage]
      rfl
    have hfile : lookup s.disk (manifestPath name (computeDigest sha m)) =
        some (.file (.bytes m)) := by
      rw [manifestPath_of_clean sha hname.1]
      exact h.manifest name tag m himage
    simp [pathExists, FileTree.read, htagFile, tagFile, FileContent.data, trim_computeDigest, hfile]
  | none =>
    rcases h.lookup_tagPath name tag with hnone | ⟨-, -, hdir⟩
    · rw [himage] at hnone
      simp [pathExists, hnone]
    · simp [pathExists, FileTree.read, hdir]

lemma tagsDir_cases (name : String) :
    join (manifestsDir name) "tags" = manifestsDir name ++ ["tags"] :=
  join_of_plainName _ plainName_tags

lemma Refines.lookup_tagsDir (h : Refines sha known s.disk images) (name : String) :
    lookup s.disk (manifestsDir name ++ ["tags"]) = none ∧ (∀ t, images name t = none) ∨
      lookup s.disk (manifestsDir name ++ ["tags"]) = some .dir ∧
        ∀ t, lookup s.disk (manifestsDir name ++ ["tags"] ++ [t]) =
          (images name t).map (tagFile sha) := by
  have hstrange (hname : ¬ PlainName (sanitize name)) (t : String) : images name t = none := by
    cases himage : images name t with
    | none => rfl
    | some m => exact absurd (h.plain_of_some himage).1 hname
  rcases manifestsDir_cases name with ⟨hdir | hdir, hname⟩ | ⟨hdir, hname⟩
  · exact .inl ⟨by simp [hdir, h.no_tags_image], hstrange hname⟩
  · exact .inl ⟨by simp [hdir, h.outside], hstrange hname⟩
  · rw [hdir]
    cases hnode : lookup s.disk (["manifests", sanitize name] ++ ["tags"]) with
    | none =>
      refine .inl ⟨rfl, fun t => ?_⟩
      cases himage : images name t with
      | none => rfl
      | some m =>
        have hclean := (h.clean name t m himage).1.1
        rw [sanitize_of_clean hclean] at hnode
        exact nomatch (h.tagsDir name t m himage).symm.trans hnode
    | some node =>
      have hstored := h.named _ _ node hnode
      have hsame := eq_of_clean_sanitize hstored.1
      rw [hsame] at hnode hstored ⊢
      cases node with
      | file c => exact absurd hnode (h.tagsNoFile name c)
      | dir => exact .inr ⟨rfl, fun t => h.tag name t hstored⟩

lemma Refines.listTags (h : Refines sha known s.disk images) (name : String) :
    listTags name s = .error (.imageNotFound name) ∧ (∀ t, images name t = none) ∨
      ∃ tags, listTags name s = .ok tags ∧ tags.Nodup ∧ tags.Pairwise (· ≤ ·) ∧
        ∀ t, t ∈ tags ↔ images name t ≠ none := by
  unfold Registry.listTags
  dsimp only
  rw [tagsDir_cases]
  rcases h.lookup_tagsDir name with ⟨hnone, himages⟩ | ⟨hdir, hfiles⟩
  · rw [if_pos (by simp [pathExists, hnone])]
    exact .inl ⟨rfl, himages⟩
  · rcases readDir_of_dir hdir with ⟨names, hnames⟩
    have hperm := List.perm_insertionSort (· ≤ ·) names
    rw [if_neg (by simp [pathExists, hdir]), hnames]
    refine .inr ⟨_, rfl, hperm.nodup_iff.mpr (nodup_readDir hnames),
      List.pairwise_insertionSort _ _, fun t => ?_⟩
    rw [hperm.mem_iff, mem_readDir hnames, hfiles]
    simp

lemma Refines.listTags_error_iff (h : Refines sha known s.disk images) (name : String) :
    Registry.listTags name s = .error (.imageNotFound name) ↔
      lookup s.disk (manifestsDir name ++ ["tags"]) = none := by
  unfold Registry.listTags
  dsimp only
  rw [tagsDir_cases]
  rcases h.lookup_tagsDir name with ⟨hnone, -⟩ | ⟨hdir, -⟩
  · simp [pathExists, hnone]
  · rcases readDir_of_dir hdir with ⟨names, hnames⟩
    simp [pathExists, hdir, hnames]

/-! ### Other images -/

/-- A path that no operation on another image touches. -/
def Apart (name : String) (q : List String) : Prop :=
  q ≠ ["index.json"] ∧ q.head? ≠ some "blobs" ∧
    ∀ n, StoredName n → n ≠ name → ¬ ["manifests", n] <+: q

lemma apart_manifestsDir (name : String) {rest : List String}
    (hrest : rest = [] ∨ ∃ below, rest = "tags" :: below) :
    Apart name (manifestsDir name ++ rest) := by
  rcases manifestsDir_cases name with ⟨hdir | hdir, -⟩ | ⟨hdir, -⟩ <;> rw [hdir]
  · refine ⟨by simp, by simp, fun n hn _ hstart => ?_⟩
    rcases hrest with rfl | ⟨below, rfl⟩
    · simp at hstart
    · -- no image is called as the directory of the tags
      exact hn.2 (by simpa using hstart)
  · rcases hrest with rfl | ⟨below, rfl⟩
    · exact ⟨by simp, by simp, by simp⟩
    · exact ⟨by simp, by simp, by simp⟩
  · refine ⟨by simp, by simp, fun n hn hne hstart => ?_⟩
    have hsame : n = sanitize name := by simpa using hstart
    rw [hsame] at hn hne
    exact hne (eq_of_clean_sanitize hn.1)

lemma apart_tagPath (name tag : String) : Apart name (tagPath name tag) := by
  rcases tagPath_cases name tag with ⟨hpath | hpath, -⟩ | ⟨hpath, -⟩ <;> rw [hpath]
  · exact apart_manifestsDir name (.inr ⟨_, rfl⟩)
  · simpa using apart_manifestsDir name (.inl rfl)
  · exact apart_manifestsDir name (.inr ⟨_, rfl⟩)

variable {name : String} {op : Op}

lemma lookup_next (h : Refines sha known s.disk images) (hcollision : CollisionFree sha known)
    (hop : op.Clean) (hknown : ∀ m ∈ op.manifests, m ∈ known) (hother : op.image ≠ some name)
    {q : List String} (hq : Apart name q) : lookup (s.next sha op).disk q = lookup s.disk q := by
  rcases hq with ⟨hindex, hblobs, hapart⟩
  cases op with
  | putManifest now n t manifest =>
    have hmem : manifest ∈ known := hknown manifest (by simp [Op.manifests])
    rcases hop with ⟨hn, ht⟩
    have hne : n ≠ name := fun heq => hother (congrArg some heq)
    rcases putManifest_effect h hn ht (fun m hm => hcollision m hm manifest hmem) now with
      ⟨index, hdisk, -⟩
    have hnot : ∀ rest, q ≠ "manifests" :: n :: rest := by
      rintro rest rfl
      exact hapart n hn hne (by simp)
    rw [Store.next, hdisk, if_neg hindex, if_neg (hnot _), if_neg (hnot _)]
    split
    next hstart =>
      -- the directories above those of the image are there already
      have habove : q = [] ∨ q = ["manifests"] := by
        rcases hstart with hstart | hstart <;>
          rcases prefix_of_three hstart with hq | hq | hq | hq
        all_goals first
          | exact .inl hq
          | exact .inr hq
          | exact absurd hq (hnot _)
      rcases habove with rfl | rfl
      · simp [lookup]
      · exact h.base.symm
    · rfl
  | deleteTag n t =>
    rw [Store.next]
    have hne : n ≠ name := fun heq => hother (congrArg some heq)
    rcases deleteTag_effect h hop.1 hop.2 with ⟨-, hsame⟩ | ⟨hn, disk, index, hnext, hdisk⟩
    · rw [hsame]
    · have hfree : lookup disk ["index.json"] ≠ some .dir := by
        rw [hdisk, if_neg (by simp)]
        exact h.index
      have hnot : q ≠ ["manifests", n, "tags", t] := by
        rintro rfl
        exact hapart n hn hne (by simp)
      rw [hnext, (saveIndex_effect (s := ⟨disk, index⟩) hfree).2, if_neg hindex, hdisk,
        if_neg hnot]
  | deleteImage n =>
    rw [Store.next]
    have hne : n ≠ name := fun heq => hother (congrArg some heq)
    rcases deleteImage_effect h hop with ⟨-, hsame⟩ | ⟨hn, disk, index, hnext, hdisk⟩
    · rw [hsame]
    · have hfree : lookup disk ["index.json"] ≠ some .dir := by
        rw [hdisk, if_neg (by simp)]
        exact h.index
      rw [hnext, (saveIndex_effect (s := ⟨disk, index⟩) hfree).2, if_neg hindex, hdisk,
        if_neg (hapart n hn hne)]
  | reopen =>
    rw [Store.next, openRegistry_effect h.blobs fun c => by simp [h.base]]
    split
    next hstart =>
      -- these directories are there already
      rcases hstart with hstart | hstart
      · rcases prefix_manifests hstart with rfl | rfl
        · simp [lookup]
        · exact h.base.symm
      · rcases prefix_blobsDir hstart with rfl | rfl | rfl
        · simp [lookup]
        · exact absurd rfl hblobs
        · exact absurd rfl hblobs
    · rfl

lemma onImages_other (hother : op.image ≠ some name) (images : Images) (tag : String) :
    op.onImages images name tag = images name tag := by
  cases op with
  | putManifest | deleteTag =>
    refine if_neg ?_
    rintro ⟨rfl, -⟩
    exact hother rfl
  | deleteImage =>
    refine if_neg ?_
    rintro rfl
    exact hother rfl
  | reopen => rfl

lemma queries_next (h : Refines sha known s.disk images) (hcollision : CollisionFree sha known)
    (hop : op.Clean) (hknown : ∀ m ∈ op.manifests, m ∈ known) (hother : op.image ≠ some name) :
    (∀ tag, isTag tag = true →
      getManifest sha name tag (s.next sha op) = getManifest sha name tag s) ∧
      listTags name (s.next sha op) = listTags name s := by
  have hnext := h.next hcollision hop hknown
  refine ⟨fun tag htag => ?_, ?_⟩
  · rw [hnext.getManifest htag, h.getManifest htag, onImages_other hother,
      lookup_next h hcollision hop hknown hother (apart_tagPath name tag)]
  · have htags : listTags name (s.next sha op) = .error (.imageNotFound name) ↔
        listTags name s = .error (.imageNotFound name) := by
      rw [hnext.listTags_error_iff, h.listTags_error_iff,
        lookup_next h hcollision hop hknown hother (apart_manifestsDir name (.inr ⟨_, rfl⟩))]
    rcases hnext.listTags name with ⟨herr, -⟩ | ⟨tags', htags', hnodup', hsorted', hmem'⟩
    · rw [herr, htags.mp herr]
    · rcases h.listTags name with ⟨herr, -⟩ | ⟨tags, htags₀, hnodup, hsorted, hmem⟩
      · rw [htags.mpr herr] at htags'
        cases htags'
      · have hperm : tags'.Perm tags := by
          refine (List.perm_ext_iff_of_nodup hnodup' hnodup).mpr fun t => ?_
          rw [hmem', hmem, onImages_other hother]
        rw [htags', htags₀, List.Perm.eq_of_pairwise' hsorted' hsorted hperm]

end Queries

/-! ## The registry as a map -/

/-- The answer of `get_manifest` for what the map has.  Where it has nothing, a reference to a
directory is a failed read. -/
def Gets (name tag : String) (answer : Except LocalRegistryError (List UInt8)) :
    Option (List UInt8) → Prop
  | some m => answer = .ok m
  | none => answer = .error (.manifestNotFound name tag) ∨
      ¬ PlainName (sanitize tag) ∧ answer = .error (.io .isADirectory)

def Lists (name : String) (answer : Except LocalRegistryError (List String))
    (tagged : String → Option (List UInt8)) : Prop :=
  answer = .error (.imageNotFound name) ∧ (∀ tag, tagged tag = none) ∨
    ∃ tags, answer = .ok tags ∧ tags.Nodup ∧ ∀ tag, tag ∈ tags ↔ tagged tag ≠ none

def Answers (sha : Sha256) (s : Store) (images : Images) : Prop :=
  (∀ name tag, isTag tag = true →
    Gets name tag (getManifest sha name tag s) (images name tag)) ∧
  ∀ name, Lists name (listTags name s) (images name)

section Answers

variable {sha : Sha256} {known : List (List UInt8)} {s : Store} {images : Images}

lemma Refines.gets (h : Refines sha known s.disk images) {name tag : String}
    (htag : isTag tag = true) :
    Gets name tag (Registry.getManifest sha name tag s) (images name tag) := by
  rw [h.getManifest htag]
  cases himage : images name tag with
  | some m => exact rfl
  | none =>
    dsimp only
    rcases h.lookup_tagPath name tag with hnone | ⟨-, hstrange, hdir⟩
    · rw [himage] at hnone
      exact .inl (if_pos hnone)
    · exact .inr ⟨hstrange, if_neg (by simp [hdir])⟩

lemma Refines.lists (h : Refines sha known s.disk images) (name : String) :
    Lists name (Registry.listTags name s) (images name) := by
  rcases h.listTags name with hnone | ⟨tags, htags, hnodup, -, hmem⟩
  · exact .inl hnone
  · exact .inr ⟨tags, htags, hnodup, hmem⟩

end Answers

/-- Where every name and tag that is stored is clean, the registry answers as the map does, and an
operation changes nothing for other images. -/
theorem registry_refines_map (sha : Sha256) (ops : List Op) (hclean : ∀ op ∈ ops, op.Clean)
    (hcollision : CollisionFree sha (ops.flatMap Op.manifests)) :
    Answers sha (Store.run sha ops) (Op.run ops) ∧
      ∀ before op, ops = before ++ [op] → ∀ name, op.image ≠ some name →
        (∀ tag, isTag tag = true → getManifest sha name tag (Store.run sha ops) =
          getManifest sha name tag (Store.run sha before)) ∧
        listTags name (Store.run sha ops) = listTags name (Store.run sha before) := by
  have hknown : ∀ op ∈ ops, ∀ m ∈ op.manifests, m ∈ ops.flatMap Op.manifests :=
    fun op hop m hm => List.mem_flatMap.mpr ⟨op, hop, hm⟩
  have hfinal := refines_run hcollision ops hclean hknown
  refine ⟨⟨fun name tag htag => hfinal.gets htag, hfinal.lists⟩, ?_⟩
  rintro before op hops name hother
  have hmem : op ∈ ops := by simp [hops]
  have hbefore : ∀ o ∈ before, o ∈ ops := fun o ho => hops ▸ List.mem_append_left _ ho
  have hrun : Store.run sha ops = (Store.run sha before).next sha op := by
    rw [hops, Store.run, List.foldl_append]
    rfl
  have hrefines := refines_run hcollision before (fun o ho => hclean o (hbefore o ho))
    fun o ho => hknown o (hbefore o ho)
  rw [hrun]
  exact queries_next hrefines hcollision (hclean op hmem) (hknown op hmem) hother

/-! ### Runs -/

section Example

def exampleSha256 : Sha256 :=
  .ofTable [([0x7b, 0x7d], "44136fa355b3678a1146ad16f7e8649e94fb4fc21fe77e8310c060f61caaff8a"),
    ([0x5b, 0x5d], "4f53cda18c2baa0c0354bb5f9a3ecbe5ed12ab4d8e11ba873c2f11161202b945")]
    (by decide +kernel)

def exampleOps : List Op :=
  [.putManifest 1 "app" "latest" [0x7b, 0x7d], .putManifest 2 "app" "v1.0" [0x5b, 0x5d],
    .deleteTag "app" "latest", .reopen, .putManifest 3 "web" "latest" [0x7b, 0x7d],
    .deleteImage "app/none"]

theorem registry_refines_map_exampleOps :
    (Op.run exampleOps "app" "v1.0" = some [0x5b, 0x5d] ∧ Op.run exampleOps "app" "latest" = none) ∧
      Answers exampleSha256 (Store.run exampleSha256 exampleOps) (Op.run exampleOps) :=
  ⟨by decide, (registry_refines_map exampleSha256 exampleOps (by decide +kernel)
    (by decide +kernel)).1⟩

/-- Two names with one replacement share their tags. -/
theorem replaced_names_shared : getManifest exampleSha256 "a_b" "t"
        (Store.run exampleSha256 [.putManifest 1 "a/b" "t" [0x7b, 0x7d]]) = .ok [0x7b, 0x7d] ∧
      Op.run [.putManifest 1 "a/b" "t" [0x7b, 0x7d]] "a_b" "t" = none := by
  decide +kernel

end Example

end ZLayer.Registry
