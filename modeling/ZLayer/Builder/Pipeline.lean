import ZLayer.Lib.HashMap
import ZLayer.Lib.Layers

/-!
# Pipeline — building the images of a pipeline in waves

A pipeline names its images and what each of them depends on.  `resolve_execution_order` puts them
into waves, and `run` builds the images of a wave concurrently, one wave after the other.  What the
build of an image comes to is a parameter here: an image, an error, or a panic of its task.  The
order inside a wave and the order in which its tasks are joined are arbitrary.

Beside its result a run has a log of the builds it starts and of how they end.
-/

namespace ZLayer.Builder

open Lib

/-! ## Pipelines -/

structure PipelineDefaults where
  buildArgs : HashMap String String
  noCache : Bool
  platforms : List String

structure PipelineImage where
  file : String
  tags : List String
  buildArgs : HashMap String String
  dependsOn : List String
  noCache : Option Bool
  platforms : List String

/-- The images are kept in the order of the manifest, each name once. -/
structure ZPipeline where
  vars : HashMap String String
  defaults : PipelineDefaults
  images : List (String × PipelineImage)
  names_nodup : (images.map Prod.fst).Nodup

structure BuiltImage where
  imageId : String
  tags : List String
  isManifest : Bool
  deriving DecidableEq

/-- The errors that the executor makes itself, and those of a build with their text. -/
inductive BuildError
  | invalidInstruction (instruction reason : String)
  | circularDependency (stages : List String)
  | build (text : String)
  deriving DecidableEq

/-- `{:?}` of a list of names that need no escapes. -/
def debugList (names : List String) : String :=
  "[" ++ ", ".intercalate (names.map fun name => s!"\"{name}\"") ++ "]"

def BuildError.message : BuildError → String
  | .invalidInstruction instruction reason => s!"Invalid instruction '{instruction}': {reason}"
  | .circularDependency stages =>
    "Circular dependency detected in multi-stage build: " ++ debugList stages
  | .build text => text

namespace ZPipeline

def names (p : ZPipeline) : List String := p.images.map Prod.fst

def dependsOn (p : ZPipeline) (name : String) : List String :=
  match p.images.lookup name with
  | some image => image.dependsOn
  | none => []

/-! ## The order -/

/-- The first image of the manifest with an unknown dependency, and the first such. -/
def unknownDependency (p : ZPipeline) : Option (String × String) :=
  p.images.findSome? fun entry =>
    (entry.2.dependsOn.find? fun dep => dep ∉ p.names).map fun dep => (entry.1, dep)

def resolveExecutionOrder (order : SetOrder String) (p : ZPipeline) :
    Except BuildError (List (List String)) :=
  match p.unknownDependency with
  | some (name, dep) =>
    .error (.invalidInstruction "pipeline" s!"Image '{name}' depends on unknown image '{dep}'")
  | none =>
    match Layers.layers p.dependsOn order p.names.toFinset.card ∅ p.names.toFinset with
    | .ok waves => .ok waves
    | .error stages => .error (.circularDependency stages)

end ZPipeline

/-! ## Builds -/

/-- How the task of a build ends. -/
inductive Outcome
  | built (image : BuiltImage)
  | failed (error : BuildError)
  | panicked (joinError : String)
  deriving DecidableEq

def Outcome.isBuilt : Outcome → Bool
  | .built _ => true
  | .failed _ | .panicked _ => false

inductive Event
  | started (name : String)
  | finished (name : String) (outcome : Outcome)
  deriving DecidableEq

structure JoinOrder where
  list : List String → List String
  perm : ∀ wave, (list wave).Perm wave

/-- The result of a joined task; a task that panicked has lost its name. -/
def collected (name : String) : Outcome → String × Except BuildError BuiltImage
  | .built image => (name, .ok image)
  | .failed e => (name, .error e)
  | .panicked joinError =>
    ("unknown", .error (.invalidInstruction "pipeline" s!"Build task panicked: {joinError}"))

structure PipelineResult where
  succeeded : HashMap String BuiltImage
  failed : HashMap String String

section Run

variable (build : String → Outcome) (join : JoinOrder)

def buildWave (wave : List String) : List Event × List (String × Except BuildError BuiltImage) :=
  (wave.map .started ++ (join.list wave).map fun name => .finished name (build name),
    (join.list wave).map fun name => collected name (build name))

def processResults (failFast : Bool) :
    List (String × Except BuildError BuiltImage) → PipelineResult → Except BuildError PipelineResult
  | [], s => .ok s
  | (name, .ok image) :: rest, s =>
    processResults failFast rest { s with succeeded := s.succeeded.insert name image }
  | (name, .error e) :: rest, s =>
    if failFast then .error e
    else processResults failFast rest { s with failed := s.failed.insert name e.message }

def runWaves (failFast : Bool) :
    List (List String) → PipelineResult → List Event × Except BuildError PipelineResult
  | [], s => ([], .ok s)
  | wave :: waves, s =>
    if failFast ∧ ¬ s.failed.isEmpty then ([], .ok s)
    else
      match processResults failFast (buildWave build join wave).2 s with
      | .error e => ((buildWave build join wave).1, .error e)
      | .ok s =>
        ((buildWave build join wave).1 ++ (runWaves failFast waves s).1,
          (runWaves failFast waves s).2)

/-- The log and the result of a run.  Pushing the images afterwards does not change either. -/
def run (order : SetOrder String) (failFast : Bool) (p : ZPipeline) :
    List Event × Except BuildError PipelineResult :=
  match p.resolveExecutionOrder order with
  | .error e => ([], .error e)
  | .ok waves => runWaves build join failFast waves ⟨∅, ∅⟩

end Run

end ZLayer.Builder
