import ZLayer.Builder.Pipeline
import ZLayer.Lib.Str

/-!
# BuildCache — skipping builds whose build file has not changed

`build_single_image` hashes the build file and looks into the image directory of its first tag: if
the configuration there holds the same hash, the build is skipped.  The sandbox builder, which
writes the configuration after a build, looks once more before it starts.  The images of a wave are
built at the same time, so the steps of several builds may come in any order.

A record is what the configuration of an image directory holds: the hash.  Beside it the model
keeps the bytes that were hashed and the build that wrote the record; no step depends on them.
-/

namespace ZLayer.Builder

open Lib

/-! ## Names -/

def sanitizeImageNameForCache (image : String) : String :=
  String.ofList (image.toList.map fun c => if c = '/' ∨ c = ':' ∨ c = '@' then '_' else c)

/-- The variables are replaced one after the other, in the order of the hash map. -/
def expandTagWithVars (order : HashMap.IterOrder String String) (vars : HashMap String String)
    (tag : String) : String :=
  (order.list vars).foldl
    (fun result entry => Str.replace ("$\x7b" ++ entry.1 ++ "\x7d") entry.2 result) tag

def platformToSuffix (platform : String) : String :=
  match Str.split '/' platform with
  | [] | [_] => Str.replace "/" "-" platform
  | [_, arch] => arch
  | _ :: arch :: variant :: _ => s!"{arch}-{variant}"

/-! ## Builds -/

/-- A call of `build_single_image` or `build_multiplatform_image`, with the bytes that
`compute_file_hash` finds in the build file, if it can be read. -/
structure Task where
  pipeline : ZPipeline
  name : String
  image : PipelineImage
  isImage : (name, image) ∈ pipeline.images
  platform : Option String
  file : Option (List UInt8)
  varOrder : HashMap.IterOrder String String

namespace Task

def expandedTags (t : Task) : List String :=
  t.image.tags.map (expandTagWithVars t.varOrder t.pipeline.vars)

def buildArgs (t : Task) : HashMap String String :=
  HashMap.collectInto (fun _ value => some value) (HashMap.entries t.image.buildArgs)
    t.pipeline.defaults.buildArgs

def noCache (t : Task) : Bool :=
  t.image.noCache.getD t.pipeline.defaults.noCache

end Task

/-- What an image was built from.  The builds of the images it depends on are given by their
numbers; an image for several platforms has one for each. -/
structure Build where
  file : List UInt8
  vars : HashMap String String
  buildArgs : HashMap String String
  platform : Option String
  dependencies : List (List Nat)
  tags : List String

/-- A call of the sandbox builder: for a task, or for one of several platforms of it.  `keys` are
the instruction keys it hashes when it is given no hash, `buildId` names an image without tags. -/
structure BuilderCall where
  task : Task
  oneOf : Option String
  keys : List UInt8
  buildId : String

namespace BuilderCall

def tags (c : BuilderCall) : List String :=
  match c.oneOf with
  | none => c.task.expandedTags
  | some platform => c.task.expandedTags.map fun tag => s!"{tag}-{platformToSuffix platform}"

def platform (c : BuilderCall) : Option String :=
  match c.oneOf with
  | none => c.task.platform
  | some platform => some platform

/-- The bytes behind the hash: those of the build file where the executor passes its hash. -/
def hashed (c : BuilderCall) : List UInt8 :=
  match c.oneOf, c.task.file with
  | none, some bytes => bytes
  | none, none | some _, _ => c.keys

def imageDir (c : BuilderCall) : String :=
  sanitizeImageNameForCache (c.tags.head?.getD s!"sandbox-build:{c.buildId}")

end BuilderCall

/-! ## The data directory -/

/-- The configuration in an image directory. -/
structure ImageRecord where
  sourceHash : String
  hashed : List UInt8
  build : Nat

/-- The image directories, all builds so far, and the builds each image of the current pipeline run
has come to. -/
structure DataDir where
  images : HashMap String ImageRecord
  builds : List Build
  results : HashMap String (List Nat)

def DataDir.empty : DataDir :=
  { images := ∅
    builds := []
    results := ∅ }

namespace DataDir

variable (sha256 : List UInt8 → String)

/-- The record with the expected hash in the directory of the tag. -/
def checkCachedImageHash (d : DataDir) (imageDir expectedHash : String) : Option ImageRecord :=
  d.images[imageDir]?.filter fun record => record.sourceHash = expectedHash

/-- The record for which `build_single_image` skips the build. -/
def skippedBy (d : DataDir) (t : Task) : Option ImageRecord :=
  match t.file, t.expandedTags.head? with
  | some bytes, some tag =>
    d.checkCachedImageHash (sanitizeImageNameForCache tag) (sha256 bytes)
  | _, _ => none

/-- The record for which the sandbox builder skips the build. -/
def unchangedFor (d : DataDir) (c : BuilderCall) : Option ImageRecord :=
  d.checkCachedImageHash c.imageDir (sha256 c.hashed)

def dependencyBuilds (d : DataDir) (t : Task) : List (List Nat) :=
  t.image.dependsOn.map fun name => d.results[name]?.getD []

/-- The image of a task has come to a build, one of several platforms to one more. -/
def addResult (d : DataDir) (c : BuilderCall) (build : Nat) : DataDir :=
  let before := if c.oneOf = none then [] else d.results[c.task.name]?.getD []
  { d with results := d.results.insert c.task.name (before ++ [build]) }

inductive Step
  /-- A pipeline run begins. -/
  | startRun
  /-- `build_single_image` looks for the hash of the build file. -/
  | look (task : Task)
  /-- The sandbox builder looks once more, and removes the image directory if it has to build. -/
  | enter (call : BuilderCall)
  /-- A build that has read these bytes as build file succeeds and is recorded. -/
  | record (call : BuilderCall) (read : List UInt8)
  /-- The image directory of a tag, if it exists, is copied for another tag. -/
  | tagImage (image newTag : String) (dirExists : Bool)

def next (d : DataDir) : Step → DataDir
  | .startRun => { d with results := ∅ }
  | .look t =>
    match d.skippedBy sha256 t with
    | some record => { d with results := d.results.insert t.name [record.build] }
    | none => d
  | .enter c =>
    match d.unchangedFor sha256 c with
    | some record => d.addResult c record.build
    | none => { d with images := d.images.erase c.imageDir }
  | .record c read =>
    let build : Build :=
      { file := read
        vars := c.task.pipeline.vars
        buildArgs := c.task.buildArgs
        platform := c.platform
        dependencies := d.dependencyBuilds c.task
        tags := c.tags }
    let written : ImageRecord :=
      { sourceHash := sha256 c.hashed
        hashed := c.hashed
        build := d.builds.length }
    { d with
      images := d.images.insert c.imageDir written
      builds := d.builds ++ [build] }.addResult c d.builds.length
  | .tagImage image newTag dirExists =>
    let src := sanitizeImageNameForCache image
    let dst := sanitizeImageNameForCache newTag
    -- the old directory of the new tag is removed first, also if it is the one to copy
    let cleared : DataDir := { d with images := d.images.erase dst }
    match cleared.images[src]? with
    | some record => { d with images := d.images.insert dst record }
    | none => if dirExists then cleared else d

end DataDir

end ZLayer.Builder
