import ZLayer.Lib.Machine
import ZLayer.Registry.LocalRegistry

/-!
# GarbageCollection — pushes and collections on one registry

A push stores its blobs one by one and then its manifest.  A collection reads every manifest it
finds, and then deletes, one by one, the blobs that none of them names.  Nothing keeps the two
apart: the steps of any number of pushes, collections and deletions of images follow each other in
any order.  One step is one file operation, except that a manifest is stored in one step.

The parser of the manifests is a parameter.
-/

namespace ZLayer.Registry

open Lib FileTree

/-! ## What a manifest names -/

inductive Json
  | null
  | bool (value : Bool)
  | number (text : String)
  | string (value : String)
  | array (items : List Json)
  | object (fields : List (String × Json))

namespace Json

def get (key : String) : Json → Option Json
  | .object fields => fields.lookup key
  | _ => none

def asStr : Json → Option String
  | .string value => some value
  | _ => none

def asArray : Json → Option (List Json)
  | .array items => some items
  | _ => none

end Json

def referencedDigests (manifest : Json) : List String :=
  let config := ((manifest.get "config").bind (Json.get "digest")).bind Json.asStr
  let layers := ((manifest.get "layers").bind Json.asArray).getD []
  config.toList ++ layers.filterMap fun layer => (layer.get "digest").bind Json.asStr

/-- What `garbage_collect` takes from the content of a manifest file. -/
def manifestDigests (parse : List UInt8 → Option Json) (content : List UInt8) : List String :=
  match parse content with
  | some manifest => referencedDigests manifest
  | none => []

/-! ## Pushes and collections -/

/-- An image to push: the manifest names blobs of the image only. -/
structure Image (sha : Sha256) (parse : List UInt8 → Option Json) where
  name : String
  reference : String
  manifest : List UInt8
  blobs : List (List UInt8)
  named : ∀ digest ∈ manifestDigests parse manifest, ∃ data ∈ blobs, digest = computeDigest sha data

section Machine

variable (sha : Sha256) (parse : List UInt8 → Option Json)

/-- Where a push is: before a blob, or in the middle of `put_blob`. -/
inductive Push
  | before (todo : List (List UInt8)) (image : Image sha parse)
  | absent (data : List UInt8) (todo : List (List UInt8)) (image : Image sha parse)
  | temp (data : List UInt8) (todo : List (List UInt8)) (image : Image sha parse)

/-- Where a collection is: what it still has to read or to look at, and what it has found. -/
inductive Collector
  | scanning (images : List String) (manifests : List (List String)) (referenced : List String)
  | deleting (blobs : List String) (referenced : List String) (freed : Nat)

/-- The pushes and collections that run, the images whose push has returned and that were not
deleted, and the results of the collections that have returned. -/
structure World where
  store : Store
  pushes : HashMap Nat (Push sha parse)
  collectors : HashMap Nat Collector
  stored : List (Image sha parse)
  collected : List Nat

inductive Action
  | push (p : Nat) (image : Image sha parse)
  | checkBlob (p : Nat)
  | writeBlob (p : Nat)
  | renameBlob (p : Nat)
  | putManifest (p : Nat) (now : Nat)
  | deleteImage (name : String)
  | collect (i : Nat)
  | scanImage (i : Nat) (image : String)
  | scanManifest (i : Nat) (path : List String)
  | listBlobs (i : Nat)
  | deleteBlob (i : Nat) (file : String)
  | finish (i : Nat)

end Machine

variable {sha : Sha256} {parse : List UInt8 → Option Json}

namespace World

def initial : World sha parse :=
  { store := (openRegistry ⟨∅, .new⟩).2
    pushes := ∅
    collectors := ∅
    stored := []
    collected := [] }

variable (w : World sha parse)

def setPush (p : Nat) (push : Push sha parse) : World sha parse :=
  { w with pushes := w.pushes.insert p push }

def dropPush (p : Nat) : World sha parse :=
  { w with pushes := w.pushes.erase p }

variable (i : Nat)

def setCollector (c : Collector) : World sha parse :=
  { w with collectors := w.collectors.insert i c }

def dropCollector : World sha parse :=
  { w with collectors := w.collectors.erase i }

def setDisk (disk : FileTree FileContent) : World sha parse :=
  { w with store := { w.store with disk } }

/-- `put_blob` up to the check whether the blob is there. -/
def checkBlob (p : Nat) : World sha parse :=
  match w.pushes[p]? with
  | some (.before (data :: todo) image) =>
    if pathExists w.store.disk (blobPath (computeDigest sha data)) then
      w.setPush p (.before todo image)
    else w.setPush p (.absent data todo image)
  | _ => w

def writeBlob (p : Nat) : World sha parse :=
  match w.pushes[p]? with
  | some (.absent data todo image) =>
    let temp := withExtension (blobPath (computeDigest sha data)) "tmp"
    match write w.store.disk temp (.bytes data) with
    | .ok disk => (w.setDisk disk).setPush p (.temp data todo image)
    | .error _ => w.dropPush p
  | _ => w

def renameBlob (p : Nat) : World sha parse :=
  match w.pushes[p]? with
  | some (.temp data todo image) =>
    let path := blobPath (computeDigest sha data)
    match rename w.store.disk (withExtension path "tmp") path with
    | .ok disk => (w.setDisk disk).setPush p (.before todo image)
    | .error _ => w.dropPush p
  | _ => w

/-- The manifest is stored after the last blob. -/
def putManifest (p now : Nat) : World sha parse :=
  match w.pushes[p]? with
  | some (.before [] image) =>
    match Registry.putManifest sha now image.name image.reference image.manifest w.store with
    | (.ok _, store) => { w.dropPush p with store := store, stored := w.stored ++ [image] }
    | (.error _, store) => { w.dropPush p with store := store }
  | _ => w

def deleteImage (name : String) : World sha parse :=
  { w with
    store := (Registry.deleteImage name w.store).2
    stored := w.stored.filter fun image => image.name ≠ name }

/-- `garbage_collect` up to the list of the images. -/
def collect : World sha parse :=
  match w.collectors[i]? with
  | some _ => w
  | none =>
    if pathExists w.store.disk ["manifests"] then
      match readDir w.store.disk ["manifests"] with
      | .ok images => w.setCollector i (.scanning images [] [])
      | .error _ => w
    else w.setCollector i (.scanning [] [] [])

/-- The manifests of an image are listed when those of the image before are read. -/
def scanImage (image : String) : World sha parse :=
  match w.collectors[i]? with
  | some (.scanning images [] referenced) =>
    let sha256Dir := ["manifests", image, "sha256"]
    if image ∉ images then w
    else if pathExists w.store.disk sha256Dir then
      match readDir w.store.disk sha256Dir with
      | .ok files =>
        w.setCollector i
          (.scanning (images.erase image) (files.map fun file => sha256Dir ++ [file]) referenced)
      | .error _ => w.dropCollector i
    else w.setCollector i (.scanning (images.erase image) [] referenced)
  | _ => w

/-- A manifest that cannot be read is passed over. -/
def scanManifest (path : List String) : World sha parse :=
  match w.collectors[i]? with
  | some (.scanning images manifests referenced) =>
    if path ∉ manifests then w
    else
      let digests :=
        match read w.store.disk path with
        | .ok content => manifestDigests parse content.data
        | .error _ => []
      w.setCollector i (.scanning images (manifests.erase path) (digests ++ referenced))
  | _ => w

def listBlobs : World sha parse :=
  match w.collectors[i]? with
  | some (.scanning [] [] referenced) =>
    if pathExists w.store.disk blobsDir then
      match readDir w.store.disk blobsDir with
      | .ok blobs => w.setCollector i (.deleting blobs referenced 0)
      | .error _ => w.dropCollector i
    else w.setCollector i (.deleting [] referenced 0)
  | _ => w

def deleteBlob (file : String) : World sha parse :=
  match w.collectors[i]? with
  | some (.deleting blobs referenced freed) =>
    if file ∉ blobs then w
    else if "sha256:" ++ file ∈ referenced then
      w.setCollector i (.deleting (blobs.erase file) referenced freed)
    else
      let size :=
        match read w.store.disk (blobsDir ++ [file]) with
        | .ok content => content.data.length
        | .error _ => 0
      match removeFile w.store.disk (blobsDir ++ [file]) with
      | .ok disk =>
        (w.setDisk disk).setCollector i (.deleting (blobs.erase file) referenced (freed + size))
      | .error _ => w.dropCollector i
  | _ => w

def finish : World sha parse :=
  match w.collectors[i]? with
  | some (.deleting [] _ freed) =>
    { w.dropCollector i with collected := w.collected ++ [freed] }
  | _ => w

/-- An action that is not due does nothing. -/
def next : Action sha parse → World sha parse
  | .push p image =>
    match w.pushes[p]? with
    | none => w.setPush p (.before image.blobs image)
    | some _ => w
  | .checkBlob p => w.checkBlob p
  | .writeBlob p => w.writeBlob p
  | .renameBlob p => w.renameBlob p
  | .putManifest p now => w.putManifest p now
  | .deleteImage name => w.deleteImage name
  | .collect i => w.collect i
  | .scanImage i image => w.scanImage i image
  | .scanManifest i path => w.scanManifest i path
  | .listBlobs i => w.listBlobs i
  | .deleteBlob i file => w.deleteBlob i file
  | .finish i => w.finish i

def run (actions : List (Action sha parse)) : World sha parse :=
  actions.foldl next w

end World

end ZLayer.Registry
