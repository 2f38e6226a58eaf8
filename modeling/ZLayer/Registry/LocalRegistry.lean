import ZLayer.Lib.FileTree
import ZLayer.Lib.Wire

/-!
# LocalRegistry — images in a directory

The registry keeps blobs, manifests, tags and an index in files below its root.  A handle holds the
index it has read when it was opened and writes it back whole.  SHA-256 is a parameter: a function
to texts of 64 hexadecimal digits.

The text of the index file is not modelled; the file holds the index itself.
-/

namespace ZLayer.Registry

open Lib FileTree

/-! ## Digests -/

def isAsciiHexdigit (c : Char) : Bool :=
  c.isDigit || ('a' ≤ c && c ≤ 'f') || ('A' ≤ c && c ≤ 'F')

structure Sha256 where
  hex : List UInt8 → String
  length_hex : ∀ data, (hex data).toList.length = 64
  hex_digits : ∀ data, ∀ c ∈ (hex data).toList, isAsciiHexdigit c = true

/-- The digests of some contents, and zeros for every other. -/
def Sha256.ofTable (table : List (List UInt8 × String))
    (h : ∀ hex ∈ table.map Prod.snd, hex.toList.length = 64 ∧ hex.toList.all isAsciiHexdigit) :
    Sha256 :=
  let hex (data : List UInt8) := ((table.find? (·.1 = data)).map Prod.snd).getD
    "0000000000000000000000000000000000000000000000000000000000000000"
  have hhex (data : List UInt8) :
      (hex data).toList.length = 64 ∧ (hex data).toList.all isAsciiHexdigit := by
    dsimp only [hex]
    cases hfind : table.find? (·.1 = data) with
    | none => decide +kernel
    | some entry => exact h _ (List.mem_map_of_mem (List.mem_of_find?_eq_some hfind))
  ⟨hex, fun data => (hhex data).1, fun data => List.all_eq_true.mp (hhex data).2⟩

def computeDigest (sha : Sha256) (data : List UInt8) : String :=
  "sha256:" ++ sha.hex data

inductive InvalidDigest
  | noPrefix
  | length
  | digits
  deriving DecidableEq

def validateDigest (digest : String) : Except InvalidDigest Unit :=
  if Str.startsWith digest "manifest:" then .ok ()
  else
    match Str.stripPrefix "sha256:" digest with
    | none => .error .noPrefix
    | some hexPart =>
      if (utf8Bytes hexPart).length ≠ 64 then .error .length
      else if hexPart.toList.all isAsciiHexdigit then .ok ()
      else .error .digits

/-! ## The index -/

structure ImageEntry where
  name : String
  tags : List String
  updatedAt : Nat
  deriving DecidableEq

structure RegistryIndex where
  schemaVersion : Nat
  images : HashMap String ImageEntry
  deriving DecidableEq

namespace RegistryIndex

def new : RegistryIndex :=
  { schemaVersion := 1
    images := ∅ }

/-- The entry of an image that was just stored, with the tag if there is one. -/
def stored (index : RegistryIndex) (now : Nat) (name : String) (tag : Option String) :
    RegistryIndex :=
  let entry := index.images[name]?.getD ⟨name, [], now⟩
  let tags :=
    match tag with
    | some tag => if tag ∈ entry.tags then entry.tags else entry.tags ++ [tag]
    | none => entry.tags
  { index with
    images := index.images.insert name { entry with tags := tags, updatedAt := now } }

/-- An image goes with its last tag. -/
def tagDeleted (index : RegistryIndex) (name tag : String) : RegistryIndex :=
  match index.images[name]? with
  | none => index
  | some entry =>
    let tags := entry.tags.filter (· ≠ tag)
    if tags = [] then { index with images := index.images.erase name }
    else { index with images := index.images.insert name { entry with tags := tags } }

def imageDeleted (index : RegistryIndex) (name : String) : RegistryIndex :=
  { index with images := index.images.erase name }

end RegistryIndex

/-! ## Files -/

inductive FileContent
  | bytes (data : List UInt8)
  | index (value : RegistryIndex)
  deriving DecidableEq

def FileContent.data : FileContent → List UInt8
  | .bytes data => data
  | .index _ => []

inductive LocalRegistryError
  | io (error : IoError)
  | invalidUtf8
  | json
  | invalidDigest (reason : InvalidDigest)
  | corrupted (kind expected actual : String)
  | manifestNotFound (name reference : String)
  | blobNotFound (digest : String)
  | imageNotFound (name : String)
  deriving DecidableEq

/-- The files below the root, and the index of the handle. -/
structure Store where
  disk : FileTree FileContent
  index : RegistryIndex

def sanitizeChar (c : Char) : Char :=
  if c.isAlphanum || c = '-' || c = '.' || c = '_' then c else '_'

/-- `sanitize_name` and `sanitize_tag` keep the same characters. -/
def sanitize (name : String) : String :=
  String.ofList (name.toList.map sanitizeChar)

def sanitizeName : String → String := sanitize

def sanitizeTag : String → String := sanitize

def blobsDir : List String := ["blobs", "sha256"]

def manifestsDir (name : String) : List String :=
  join ["manifests"] (sanitizeName name)

def hashOf (digest : String) : String :=
  (Str.stripPrefix "sha256:" digest).getD digest

def blobPath (digest : String) : List String :=
  join blobsDir (hashOf digest)

def manifestPath (name digest : String) : List String :=
  join (join (manifestsDir name) "sha256") (hashOf digest)

def tagPath (name tag : String) : List String :=
  join (join (manifestsDir name) "tags") (sanitizeTag tag)

def withExtension (path : List String) (extension : String) : List String :=
  path.dropLast ++ [path.getLast?.getD "" ++ "." ++ extension]

/-! ## Operations -/

section Operations

variable {α : Type}

/-- Go on if the file operation succeeds. -/
def io (result : Except IoError (FileTree FileContent)) (s : Store)
    (next : Store → Except LocalRegistryError α × Store) : Except LocalRegistryError α × Store :=
  match result with
  | .ok disk => next { s with disk }
  | .error e => (.error (.io e), s)

/-- Write a file that does not exist through a temporary one. -/
def writeNew (path : List String) (data : List UInt8) (s : Store)
    (next : Store → Except LocalRegistryError α × Store) : Except LocalRegistryError α × Store :=
  if pathExists s.disk path then next s
  else
    io (write s.disk (withExtension path "tmp") (.bytes data)) s fun s =>
    io (rename s.disk (withExtension path "tmp") path) s next

def saveIndex (s : Store) (result : α) : Except LocalRegistryError α × Store :=
  io (write s.disk ["index.json"] (.index s.index)) s fun s => (.ok result, s)

/-- The end of `LocalRegistry::new`, where the directories are there. -/
def loadIndex (s : Store) : Except LocalRegistryError Unit × Store :=
  match lookup s.disk ["index.json"] with
  | none => (.ok (), { s with index := .new })
  | some (.file (.index index)) => (.ok (), { s with index })
  | some (.file (.bytes _)) => (.error .json, s)
  | some .dir => (.error (.io .isADirectory), s)

def openRegistry (s : Store) : Except LocalRegistryError Unit × Store :=
  io (createDirAll s.disk blobsDir) s fun s =>
  io (createDirAll s.disk ["manifests"]) s loadIndex

def getBlob (sha : Sha256) (digest : String) (s : Store) : Except LocalRegistryError (List UInt8) :=
  match validateDigest digest with
  | .error reason => .error (.invalidDigest reason)
  | .ok () =>
    if ¬ pathExists s.disk (blobPath digest) then .error (.blobNotFound digest)
    else
      match read s.disk (blobPath digest) with
      | .error e => .error (.io e)
      | .ok content =>
        let actualDigest := computeDigest sha content.data
        if actualDigest ≠ digest then .error (.corrupted "blob" digest actualDigest)
        else .ok content.data

def isTag (reference : String) : Bool :=
  !Str.startsWith reference "sha256:"

/-- The part of `put_manifest` before the index: the directories, the manifest and the tag. -/
def putManifestFiles (sha : Sha256) (name reference : String) (manifest : List UInt8) (s : Store)
    (next : Store → Except LocalRegistryError α × Store) : Except LocalRegistryError α × Store :=
  let digest := computeDigest sha manifest
  io (createDirAll s.disk (join (manifestsDir name) "sha256")) s fun s =>
  io (createDirAll s.disk (join (manifestsDir name) "tags")) s fun s =>
  writeNew (manifestPath name digest) manifest s fun s =>
  io (if isTag reference then
      write s.disk (tagPath name reference) (.bytes (utf8Bytes digest))
    else .ok s.disk) s next

/-- The entry of the image in the index of a handle. -/
def updateIndex (now : Nat) (name reference : String) (index : RegistryIndex) : RegistryIndex :=
  index.stored now name (if isTag reference then some reference else none)

def putManifest (sha : Sha256) (now : Nat) (name reference : String) (manifest : List UInt8)
    (s : Store) : Except LocalRegistryError String × Store :=
  putManifestFiles sha name reference manifest s fun s =>
  saveIndex { s with index := updateIndex now name reference s.index } (computeDigest sha manifest)

def resolveReference (name reference : String) (s : Store) : Except LocalRegistryError String :=
  if ¬ isTag reference then .ok reference
  else if ¬ pathExists s.disk (tagPath name reference) then
    .error (.manifestNotFound name reference)
  else
    match read s.disk (tagPath name reference) with
    | .error e => .error (.io e)
    | .ok content =>
      match fromUtf8 content.data with
      | some text => .ok (Str.trim text)
      | none => .error .invalidUtf8

def getManifest (sha : Sha256) (name reference : String) (s : Store) :
    Except LocalRegistryError (List UInt8) :=
  match resolveReference name reference s with
  | .error e => .error e
  | .ok digest =>
    if ¬ pathExists s.disk (manifestPath name digest) then
      .error (.manifestNotFound name reference)
    else
      match read s.disk (manifestPath name digest) with
      | .error e => .error (.io e)
      | .ok content =>
        let actualDigest := computeDigest sha content.data
        if actualDigest ≠ digest then .error (.corrupted "manifest" digest actualDigest)
        else .ok content.data

def listTags (name : String) (s : Store) : Except LocalRegistryError (List String) :=
  let tagsDir := join (manifestsDir name) "tags"
  if ¬ pathExists s.disk tagsDir then .error (.imageNotFound name)
  else
    match readDir s.disk tagsDir with
    | .error e => .error (.io e)
    | .ok names => .ok (names.insertionSort (· ≤ ·))

def listImages (s : Store) : List String :=
  ((HashMap.entries s.index.images).map Prod.fst).insertionSort (· ≤ ·)

def deleteTag (name tag : String) (s : Store) : Except LocalRegistryError Unit × Store :=
  if ¬ pathExists s.disk (tagPath name tag) then (.error (.manifestNotFound name tag), s)
  else
    io (removeFile s.disk (tagPath name tag)) s fun s =>
    saveIndex { s with index := s.index.tagDeleted name tag } ()

def deleteImage (name : String) (s : Store) : Except LocalRegistryError Unit × Store :=
  if ¬ pathExists s.disk (manifestsDir name) then (.error (.imageNotFound name), s)
  else
    io (removeDirAll s.disk (manifestsDir name)) s fun s =>
    saveIndex { s with index := s.index.imageDeleted name } ()

end Operations

end ZLayer.Registry
