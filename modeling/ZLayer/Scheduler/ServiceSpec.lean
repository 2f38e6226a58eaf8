import ZLayer.Lib.F64
import ZLayer.Lib.Str
import ZLayer.Scheduler.ClusterState

/-!
# ServiceSpec — the part of a service specification that placement reads

The fields of `ServiceSpec`, `ResourcesSpec`, `GpuSpec` and `ReplicaGroup` that decide where a
replica may run and what it takes there.  `F` is the type of `f64` values.
-/

namespace ZLayer.Scheduler

open Lib

inductive NodeMode
  | shared
  | dedicated
  | exclusive
  deriving DecidableEq, Repr

def NodeMode.debug : NodeMode → String
  | .shared => "Shared"
  | .dedicated => "Dedicated"
  | .exclusive => "Exclusive"

structure NodeSelector where
  /-- Labels a node must have. -/
  labels : HashMap String String
  /-- Labels that only rank the nodes. -/
  preferLabels : HashMap String String
  deriving DecidableEq

inductive GroupAffinity
  | spread
  | pack
  | pin (selector : String)
  deriving DecidableEq, Repr

inductive SchedulingPolicy
  | bestEffort
  | gang
  | spread
  deriving DecidableEq, Repr

inductive GpuSharingMode
  | exclusive
  | mps
  | timeSlice
  deriving DecidableEq, Repr

structure GpuSpec where
  count : UInt32
  vendor : String
  /-- Substring of the model name. -/
  model : Option String
  scheduling : Option SchedulingPolicy
  sharing : Option GpuSharingMode
  deriving DecidableEq

structure ResourcesSpec (F : Type) where
  cpu : Option F
  memory : Option String
  gpu : Option GpuSpec

structure TargetPlatform where
  os : OsKind
  arch : ArchKind
  deriving DecidableEq

def OsKind.asOciStr : OsKind → String
  | .linux => "linux"
  | .windows => "windows"
  | .macos => "darwin"

def ArchKind.asOciStr : ArchKind → String
  | .amd64 => "amd64"
  | .arm64 => "arm64"

def TargetPlatform.display (p : TargetPlatform) : String :=
  p.os.asOciStr ++ "/" ++ p.arch.asOciStr

structure ServiceSpec (F : Type) where
  resources : ResourcesSpec F
  nodeMode : NodeMode
  nodeSelector : Option NodeSelector
  affinity : Option GroupAffinity
  platform : Option TargetPlatform

def ServiceSpec.default {F : Type} : ServiceSpec F :=
  { resources :=
      { cpu := none
        memory := none
        gpu := none }
    nodeMode := .shared
    nodeSelector := none
    affinity := none
    platform := none }

structure ReplicaGroup (F : Type) where
  role : String
  count : UInt32
  resources : Option (ResourcesSpec F)
  affinity : GroupAffinity

inductive ScaleSpec
  | adaptive (min max : UInt32)
  | fixed (replicas : UInt32)
  | manual
  deriving DecidableEq, Repr

/-! ## Resource requests -/

/-- The binary suffixes, in the order they are tried. -/
def memorySuffixes : List (String × Nat) :=
  [("Ki", 1024), ("Mi", 1024 ^ 2), ("Gi", 1024 ^ 3), ("Ti", 1024 ^ 4)]

/-- The bytes of a quantity such as `512Mi`; `none` for a malformed one or on overflow. -/
def memoryStringToBytes (value : String) : Option UInt64 :=
  match memorySuffixes.findSome? fun (suffix, mult) =>
      (Str.stripSuffix suffix value).map fun numeric => (numeric, mult) with
  | none => none
  | some (numeric, mult) =>
    -- Only the first matching suffix counts: a bad number before it is not tried again.
    match Str.parseU64 numeric with
    | none => none
    | some n => if n.toNat * mult < 2 ^ 64 then some (UInt64.ofNat (n.toNat * mult)) else none

namespace ServiceSpec

variable {F : Type} [F64 F]

def cpuRequest (spec : ServiceSpec F) : F :=
  spec.resources.cpu.getD 0.0

def memRequest (spec : ServiceSpec F) : UInt64 :=
  (spec.resources.memory.bind memoryStringToBytes).getD 0

end ServiceSpec

end ZLayer.Scheduler
