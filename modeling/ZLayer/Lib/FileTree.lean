import ZLayer.Lib.HashMap
import ZLayer.Lib.Str

/-!
# FileTree — files and directories without links

A directory tree as a map from paths to nodes, for programs that keep their data in files and make
no links.  A path is the list of its components below some root directory, which always exists.
The operations are those of `std::fs`, with the errors that follow from the tree alone.

Every operation has one lookup lemma that says what each path holds afterwards.
-/

namespace ZLayer.Lib

open List

inductive Node (β : Type)
  | file (content : β)
  | dir
  deriving DecidableEq

inductive IoError
  | notFound
  | isADirectory
  | notADirectory
  deriving DecidableEq

/-- What every path but the root holds. -/
abbrev FileTree (β : Type) := HashMap (List String) (Node β)

namespace FileTree

variable {β : Type}

/-! ## Paths

Paths that lead out of the root begin with `..` or `/`; nothing is known to be there.
-/

/-- One component below a path, where `.` and `..` are resolved at once. -/
def component (path : List String) (name : String) : List String :=
  if name = "" ∨ name = "." then path
  else if name = ".." then
    if path = [] ∨ path.getLast? = some ".." then path ++ [".."] else path.dropLast
  else path ++ [name]

/-- `Path::join`; an absolute path replaces the one it is joined to. -/
def join (path : List String) (relative : String) : List String :=
  (Str.split '/' relative).foldl component (if Str.startsWith relative "/" then ["/"] else path)

/-- A name that is an entry of the directory it is joined to. -/
def PlainName (name : String) : Prop :=
  name ≠ "" ∧ name ≠ "." ∧ name ≠ ".." ∧ '/' ∉ name.toList

instance (name : String) : Decidable (PlainName name) :=
  inferInstanceAs (Decidable (_ ∧ _))

variable {name : String}

lemma join_of_no_slash (path : List String) (h : '/' ∉ name.toList) :
    join path name = component path name := by
  have hsplit : Str.split '/' name = [name] := by
    rw [Str.split, Str.splitChars_of_not_mem h]
    simp
  have habsolute : Str.startsWith name "/" = false := by
    rw [Str.startsWith, ← Bool.not_eq_true, isPrefixOf_iff_prefix]
    rintro ⟨rest, hrest⟩
    exact h (by rw [← hrest]; simp)
  rw [join, hsplit, habsolute]
  rfl

lemma join_of_plainName (path : List String) (h : PlainName name) :
    join path name = path ++ [name] := by
  rw [join_of_no_slash path h.2.2.2]
  simp [component, h.1, h.2.1, h.2.2.1]

/-! ## Operations -/

def lookup (t : FileTree β) (path : List String) : Option (Node β) :=
  if path = [] then some .dir else t[path]?

def pathExists (t : FileTree β) (path : List String) : Bool :=
  (lookup t path).isSome

def read (t : FileTree β) (path : List String) : Except IoError β :=
  match lookup t path with
  | some (.file content) => .ok content
  | some .dir => .error .isADirectory
  | none => .error .notFound

def write (t : FileTree β) (path : List String) (content : β) : Except IoError (FileTree β) :=
  match lookup t path with
  | some .dir => .error .isADirectory
  | some (.file _) => .ok (t.insert path (.file content))
  | none =>
    match lookup t path.dropLast with
    | some .dir => .ok (t.insert path (.file content))
    | some (.file _) => .error .notADirectory
    | none => .error .notFound

/-- The directories for the components of a path below one that exists. -/
def createDirsBelow (t : FileTree β) : List String → List String → Except IoError (FileTree β)
  | _, [] => .ok t
  | base, name :: rest =>
    match lookup t (base ++ [name]) with
    | some .dir => createDirsBelow t (base ++ [name]) rest
    | some (.file _) => .error .notADirectory
    | none => createDirsBelow (t.insert (base ++ [name]) .dir) (base ++ [name]) rest

def createDirAll (t : FileTree β) (path : List String) : Except IoError (FileTree β) :=
  createDirsBelow t [] path

def removeFile (t : FileTree β) (path : List String) : Except IoError (FileTree β) :=
  match lookup t path with
  | some (.file _) => .ok (t.erase path)
  | some .dir => .error .isADirectory
  | none => .error .notFound

def removeDirAll (t : FileTree β) (path : List String) : Except IoError (FileTree β) :=
  match lookup t path with
  | some .dir => .ok (Std.ExtTreeMap.filter (fun key _ => !path.isPrefixOf key) t)
  | some (.file _) => .error .notADirectory
  | none => .error .notFound

def rename (t : FileTree β) (src dst : List String) : Except IoError (FileTree β) :=
  match lookup t src with
  | some (.file content) => write (t.erase src) dst content
  | some .dir => .error .isADirectory
  | none => .error .notFound

def readDir (t : FileTree β) (path : List String) : Except IoError (List String) :=
  match lookup t path with
  | some .dir =>
    .ok (((HashMap.entries t).map Prod.fst).filterMap fun key =>
      if key.dropLast = path then key.getLast? else none)
  | some (.file _) => .error .notADirectory
  | none => .error .notFound

/-! ## Lookups -/

section Lookups

variable {t t' : FileTree β} {path : List String}

lemma lookup_insert (t : FileTree β) {path : List String} (hpath : path ≠ []) (node : Node β)
    (q : List String) :
    lookup (t.insert path node) q = if q = path then some node else lookup t q := by
  unfold lookup
  rw [HashMap.lookup_insert]
  by_cases hq : q = path
  · subst hq
    simp [hpath]
  · simp [hq, Ne.symm hq]

lemma lookup_erase (t : FileTree β) {path : List String} (hpath : path ≠ []) (q : List String) :
    lookup (t.erase path) q = if q = path then none else lookup t q := by
  unfold lookup
  rw [HashMap.lookup_erase]
  by_cases hq : q = path
  · subst hq
    simp [hpath]
  · simp [hq, Ne.symm hq]

lemma lookup_nil (t : FileTree β) : lookup t [] = some .dir := rfl

variable {content : β}

lemma ne_nil_of_lookup_file (h : lookup t path = some (.file content)) : path ≠ [] := by
  rintro rfl
  simp [lookup] at h

lemma read_eq_ok_iff : read t path = .ok content ↔ lookup t path = some (.file content) := by
  unfold read
  split <;> simp_all

lemma write_eq_ok (h : write t path content = .ok t') :
    path ≠ [] ∧ t' = t.insert path (.file content) ∧ lookup t path ≠ some .dir ∧
      ((∃ old, lookup t path = some (.file old)) ∨ lookup t path.dropLast = some .dir) := by
  unfold write at h
  split at h
  · cases h
  next old hfile =>
    cases h
    exact ⟨ne_nil_of_lookup_file hfile, rfl, by simp [hfile], .inl ⟨old, hfile⟩⟩
  next hnone =>
    split at h
    next hparent =>
      cases h
      exact ⟨by rintro rfl; simp [lookup] at hnone, rfl, by simp [hnone], .inr hparent⟩
    · cases h
    · cases h

lemma lookup_write (h : write t path content = .ok t') (q : List String) :
    lookup t' q = if q = path then some (.file content) else lookup t q := by
  rcases write_eq_ok h with ⟨hpath, rfl, -⟩
  exact lookup_insert t hpath _ q

lemma write_ok (hparent : lookup t path.dropLast = some .dir) (hpath : lookup t path ≠ some .dir)
    (content : β) : ∃ t', write t path content = .ok t' ∧
      ∀ q, lookup t' q = if q = path then some (.file content) else lookup t q := by
  have hwrite : write t path content = .ok (t.insert path (.file content)) := by
    unfold write
    cases hlookup : lookup t path with
    | none => simp only [hparent]
    | some node =>
      cases node with
      | file old => rfl
      | dir => exact absurd hlookup hpath
  exact ⟨_, hwrite, lookup_write hwrite⟩

lemma removeFile_eq_ok (h : removeFile t path = .ok t') :
    (∃ content, lookup t path = some (.file content)) ∧ t' = t.erase path := by
  unfold removeFile at h
  split at h
  next content hfile =>
    cases h
    exact ⟨⟨content, hfile⟩, rfl⟩
  · cases h
  · cases h

lemma lookup_removeFile (h : removeFile t path = .ok t') (q : List String) :
    lookup t' q = if q = path then none else lookup t q := by
  rcases removeFile_eq_ok h with ⟨⟨content, hfile⟩, rfl⟩
  exact lookup_erase t (ne_nil_of_lookup_file hfile) q

lemma removeFile_ok (h : lookup t path = some (.file content)) : ∃ t', removeFile t path = .ok t' ∧
      ∀ q, lookup t' q = if q = path then none else lookup t q := by
  have hremove : removeFile t path = .ok (t.erase path) := by rw [removeFile, h]
  exact ⟨_, hremove, lookup_removeFile hremove⟩

lemma lookup_removeDirAll (h : removeDirAll t path = .ok t') (hpath : path ≠ [])
    (q : List String) : lookup t' q = if path <+: q then none else lookup t q := by
  by_cases hq : q = []
  · simp [hq, lookup, hpath]
  unfold removeDirAll at h
  split at h
  · cases h
    simp only [lookup, if_neg hq, HashMap.lookup_filter]
    by_cases hstart : path <+: q
    · have hdrop : path.isPrefixOf q = true := isPrefixOf_iff_prefix.mpr hstart
      simp [hstart, hdrop]
    · have hkeep : (path.isPrefixOf q) = false := by
        rw [← Bool.not_eq_true, isPrefixOf_iff_prefix]
        exact hstart
      cases t[q]? <;> simp [hstart, hkeep]
  · cases h
  · cases h

variable {src dst : List String}

lemma rename_eq_ok (h : rename t src dst = .ok t') :
    ∃ content, lookup t src = some (.file content) ∧ write (t.erase src) dst content = .ok t' := by
  unfold rename at h
  split at h
  next content hfile => exact ⟨content, hfile, h⟩
  · cases h
  · cases h

lemma rename_of_file (hsrc : lookup t src = some (.file content))
    (hparent : lookup t dst.dropLast = some .dir) (hdst : lookup t dst ≠ some .dir) :
    ∃ t', rename t src dst = .ok t' ∧ ∀ q, lookup t' q =
      if q = dst then some (.file content) else if q = src then none else lookup t q := by
  have hne := ne_nil_of_lookup_file hsrc
  have hparent' : lookup (t.erase src) dst.dropLast = some .dir := by
    rw [lookup_erase t hne, if_neg]
    · exact hparent
    · intro h
      rw [h, hsrc] at hparent
      cases hparent
  have hdst' : lookup (t.erase src) dst ≠ some .dir := by
    rw [lookup_erase t hne]
    split
    · exact nofun
    · exact hdst
  rcases write_ok hparent' hdst' content with ⟨t', hwrite, hlookup⟩
  refine ⟨t', by rw [rename, hsrc]; exact hwrite, fun q => ?_⟩
  rw [hlookup, lookup_erase t hne]

variable {name : String}

/-- The name under which a path is listed determines the path. -/
lemma eq_append_of_listed {key : List String}
    (h : (if key.dropLast = path then key.getLast? else none) = some name) :
    key = path ++ [name] := by
  split at h
  next hparent => rw [← hparent, dropLast_append_getLast? name h]
  · cases h

variable {names : List String}

lemma mem_readDir (h : readDir t path = .ok names) (name : String) :
    name ∈ names ↔ lookup t (path ++ [name]) ≠ none := by
  unfold readDir at h
  split at h
  · cases h
    rw [mem_filterMap]
    have hne : path ++ [name] ≠ [] := by simp
    simp only [lookup, if_neg hne, ne_eq, ← Option.isSome_iff_ne_none, Option.isSome_iff_exists]
    constructor
    · rintro ⟨key, hkey, hname⟩
      rcases mem_map.mp hkey with ⟨⟨_, node⟩, hentry, rfl⟩
      rw [HashMap.mem_entries] at hentry
      exact ⟨node, eq_append_of_listed hname ▸ hentry⟩
    · rintro ⟨node, hnode⟩
      exact ⟨path ++ [name], mem_map.mpr ⟨_, (HashMap.mem_entries t).mpr hnode, rfl⟩, by simp⟩
  · cases h
  · cases h

lemma nodup_readDir (h : readDir t path = .ok names) : names.Nodup := by
  unfold readDir at h
  split at h
  · cases h
    refine (HashMap.entries_keys_nodup t).filterMap ?_
    intro key key' name hname hname'
    exact (eq_append_of_listed hname).trans (eq_append_of_listed hname').symm
  · cases h
  · cases h

lemma readDir_of_dir (h : lookup t path = some .dir) : ∃ names, readDir t path = .ok names := by
  unfold readDir
  rw [h]
  exact ⟨_, rfl⟩

/-! ### Directories for a path -/

lemma isPrefix_snoc_iff {base q : List String} :
    q <+: base ++ [name] ↔ q <+: base ∨ q = base ++ [name] := by
  rw [prefix_concat_iff, or_comm]

variable {base : List String}

lemma lookup_createDirsBelow (hbase : ∀ q, q <+: base → lookup t q = some .dir)
    (h : createDirsBelow t base path = .ok t') (q : List String) :
    lookup t' q = if q <+: base ++ path then some .dir else lookup t q := by
  induction path generalizing t base with
  | nil =>
    cases h
    rw [append_nil]
    split
    next hq => exact hbase q hq
    · rfl
  | cons name rest ih =>
    rw [createDirsBelow] at h
    have hassoc : base ++ name :: rest = (base ++ [name]) ++ rest := by simp
    rw [hassoc]
    split at h
    next hdir =>
      refine ih (fun q hq => ?_) h
      rcases isPrefix_snoc_iff.mp hq with hold | rfl
      · exact hbase q hold
      · exact hdir
    · cases h
    next hnone =>
      have hne : base ++ [name] ≠ [] := by simp
      rw [ih (fun q hq => ?_) h]
      · rw [lookup_insert t hne]
        by_cases hq : q = base ++ [name]
        · simp [hq]
        · simp [hq]
      · rw [lookup_insert t hne]
        rcases isPrefix_snoc_iff.mp hq with hold | rfl
        · rw [hbase q hold]
          simp
        · simp

/-- After `create_dir_all` the path and everything above it are directories. -/
lemma lookup_createDirAll (h : createDirAll t path = .ok t') (q : List String) :
    lookup t' q = if q <+: path then some .dir else lookup t q := by
  refine lookup_createDirsBelow (fun q hq => ?_) h q
  rw [prefix_nil.mp hq]
  simp [lookup]

lemma createDirsBelow_ok
    (h : ∀ q content, q <+: base ++ path → lookup t q ≠ some (.file content)) :
    ∃ t', createDirsBelow t base path = .ok t' := by
  induction path generalizing t base with
  | nil => exact ⟨t, rfl⟩
  | cons name rest ih =>
    have hassoc : base ++ name :: rest = (base ++ [name]) ++ rest := by simp
    rw [hassoc] at h
    rw [createDirsBelow]
    split
    · exact ih h
    next content hfile => exact absurd hfile (h _ content (prefix_append _ _))
    next hnone =>
      refine ih fun q content hq => ?_
      have hne : base ++ [name] ≠ [] := by simp
      rw [lookup_insert t hne]
      split
      · exact fun hdir => by cases hdir
      · exact h q content hq

lemma createDirAll_ok (h : ∀ q content, q <+: path → lookup t q ≠ some (.file content)) :
    ∃ t', createDirAll t path = .ok t' ∧
      ∀ q, lookup t' q = if q <+: path then some .dir else lookup t q := by
  obtain ⟨t', hcreate⟩ : ∃ t', createDirsBelow t [] path = .ok t' := createDirsBelow_ok h
  exact ⟨t', hcreate, lookup_createDirAll hcreate⟩

end Lookups

/-! ## Trees

A map of paths is a tree where everything is in a directory.  The empty one is, and every operation
keeps it so.
-/

section Closed

variable {t t' : FileTree β} {path : List String}

def Closed (t : FileTree β) : Prop :=
  ∀ q name node, lookup t (q ++ [name]) = some node → lookup t q = some .dir

variable {content : β}

lemma Closed.of_lookup (h : Closed t) (hparent : lookup t path.dropLast = some .dir)
    (hpath : lookup t path ≠ some .dir)
    (hlookup : ∀ q, lookup t' q = if q = path then some (.file content) else lookup t q) :
    Closed t' := by
  have hdir (q : List String) (hq : lookup t q = some .dir) : lookup t' q = some .dir := by
    rw [hlookup, if_neg]
    · exact hq
    · rintro rfl
      exact hpath hq
  intro q name node hnode
  rw [hlookup] at hnode
  split at hnode
  next heq =>
    rw [← heq, dropLast_concat] at hparent
    exact hdir q hparent
  · exact hdir q (h q name node hnode)

/-- A directory that is read if it exists: the names that are found are all there are. -/
lemma Closed.listing {γ : Type} {motive : γ → Prop} {found : List String → γ} {failed : γ}
    (h : Closed t) (hfailed : motive failed)
    (hfound : ∀ names, (∀ name, lookup t (path ++ [name]) ≠ none → name ∈ names) →
      motive (found names)) :
    motive (if pathExists t path then
      match readDir t path with
      | .ok names => found names
      | .error _ => failed
      else found []) := by
  split
  · split
    next names hread => exact hfound names fun name => (mem_readDir hread name).mpr
    · exact hfailed
  next habsent =>
    refine hfound [] fun name hname => ?_
    rcases Option.ne_none_iff_exists'.mp hname with ⟨node, hnode⟩
    simp [pathExists, h path name node hnode] at habsent

lemma Closed.write (h : Closed t) (hwrite : write t path content = .ok t') : Closed t' := by
  rcases write_eq_ok hwrite with ⟨-, -, hpath, hplace⟩
  refine h.of_lookup ?_ hpath (lookup_write hwrite)
  rcases hplace with ⟨old, hold⟩ | hparent
  · -- over a file: the tree has its directory already
    have hne := ne_nil_of_lookup_file hold
    rw [← dropLast_append_getLast hne] at hold
    exact h _ _ _ hold
  · exact hparent

lemma Closed.createDirAll (h : Closed t) (hcreate : createDirAll t path = .ok t') :
    Closed t' := by
  have hlookup := lookup_createDirAll hcreate
  intro q name node hnode
  rw [hlookup] at hnode ⊢
  split at hnode
  next hstart => rw [if_pos ((prefix_append q [name]).trans hstart)]
  · rw [h q name node hnode, ite_self]

lemma Closed.removeFile (h : Closed t) (hremove : removeFile t path = .ok t') : Closed t' := by
  have hlookup := lookup_removeFile hremove
  rcases removeFile_eq_ok hremove with ⟨⟨content, hfile⟩, -⟩
  intro q name node hnode
  rw [hlookup] at hnode ⊢
  split at hnode
  · cases hnode
  · have hdir := h q name node hnode
    rw [if_neg]
    · exact hdir
    · rintro rfl
      exact nomatch hfile.symm.trans hdir

lemma Closed.removeDirAll (h : Closed t) (hremove : removeDirAll t path = .ok t')
    (hpath : path ≠ []) : Closed t' := by
  have hlookup := lookup_removeDirAll hremove hpath
  intro q name node hnode
  rw [hlookup] at hnode ⊢
  split at hnode
  · cases hnode
  next hapart =>
    rw [if_neg fun hstart => hapart (hstart.trans (prefix_append q [name]))]
    exact h q name node hnode

lemma Closed.rename {src dst : List String} (h : Closed t)
    (hrename : rename t src dst = .ok t') : Closed t' := by
  rcases rename_eq_ok hrename with ⟨content, hfile, hwrite⟩
  have hremove : FileTree.removeFile t src = .ok (t.erase src) := by
    rw [FileTree.removeFile, hfile]
  exact (h.removeFile hremove).write hwrite

end Closed

end FileTree
end ZLayer.Lib
