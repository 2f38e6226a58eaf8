import ZLayer.Scheduler.ServiceSpec

/-!
# NodeState — what the placement algorithm knows about a node

Resources of a node and the GPUs it hands out, and the registry of the containers placed so far.
-/

namespace ZLayer.Scheduler

open Lib Secrets HashMap

/-! ## Containers -/

structure ContainerId where
  service : String
  replica : UInt32
  deriving DecidableEq, Repr

namespace ContainerId

def key (c : ContainerId) : String × UInt32 := (c.service, c.replica)

lemma key_injective : Function.Injective key := by
  rintro ⟨s, i⟩ ⟨t, j⟩ h
  obtain ⟨rfl, rfl⟩ : s = t ∧ i = j := Prod.mk.inj h
  rfl

def ofIndex (service : String) (i : ℕ) : ContainerId :=
  { service := service
    replica := UInt32.ofNat i }

lemma ofIndex_injective {service : String} {i j : ℕ} (hi : i < 2 ^ 32) (hj : j < 2 ^ 32)
    (h : ofIndex service i = ofIndex service j) : i = j := by
  have hreplica : UInt32.ofNat i = UInt32.ofNat j := congrArg ContainerId.replica h
  have hnat := congrArg UInt32.toNat hreplica
  rwa [UInt32.toNat_ofNat_of_lt' hi, UInt32.toNat_ofNat_of_lt' hj] at hnat

instance : Ord ContainerId := ⟨compareOn key⟩

instance : Std.TransOrd ContainerId := inferInstanceAs (Std.TransCmp (compareOn key))

instance : Std.LawfulEqOrd ContainerId where
  eq_of_compare h := key_injective (Std.LawfulEqOrd.eq_of_compare h)

end ContainerId

/-! ## GPUs -/

inductive GpuAllocation
  | free
  | exclusive
  | shared (current max : UInt32)
  deriving DecidableEq, Repr

namespace GpuAllocation

def isAvailable : GpuAllocation → Bool
  | .free => true
  | .exclusive => false
  | .shared current max => current < max

def isFree : GpuAllocation → Bool
  | .free => true
  | _ => false

def grantShare (max : UInt32) : GpuAllocation → GpuAllocation
  | .free => .shared 1 max
  | .shared current limit => .shared (current + 1) limit
  | .exclusive => .exclusive

/-- The state of an available GPU after it has been granted once more. -/
def grant (sharing : Option GpuSharingMode) (slot : GpuAllocation) : GpuAllocation :=
  match sharing with
  | none => .exclusive
  | some .exclusive => .exclusive
  | some .mps => slot.grantShare 8
  | some .timeSlice => slot.grantShare 4

/-- The state of a GPU after one container has given it back. -/
def giveBack : GpuAllocation → GpuAllocation
  | .shared current max => if 1 < current then .shared (current - 1) max else .free
  | .exclusive => .free
  | .free => .free

end GpuAllocation

/-! ## Resources -/

structure NodeResources (F : Type) where
  cpuTotal : F
  cpuUsed : F
  memoryTotal : UInt64
  memoryUsed : UInt64
  gpuTotal : UInt32
  /-- GPUs that are not free. -/
  gpuUsed : UInt32
  gpuModels : List String
  gpuVendor : String
  /-- One entry for each GPU, in detection order. -/
  gpuAllocated : List GpuAllocation

def saturatingSub (a b : UInt64) : UInt64 :=
  if b ≤ a then a - b else 0

def saturatingAdd (a b : UInt64) : UInt64 :=
  if a.toNat + b.toNat < 2 ^ 64 then a + b else u64Max

namespace NodeResources

variable {F : Type} [F64 F]

def new (cpuTotal : F) (memoryTotal : UInt64) : NodeResources F :=
  { cpuTotal := cpuTotal
    cpuUsed := 0.0
    memoryTotal := memoryTotal
    memoryUsed := 0
    gpuTotal := 0
    gpuUsed := 0
    gpuModels := []
    gpuVendor := ""
    gpuAllocated := [] }

def cpuAvailable (r : NodeResources F) : F :=
  F64.max (r.cpuTotal - r.cpuUsed) 0.0

def cpuUtilization (r : NodeResources F) : F :=
  if 0.0 < r.cpuTotal then r.cpuUsed / r.cpuTotal * 100.0 else 0.0

def memoryUtilization (r : NodeResources F) : F :=
  if 0 < r.memoryTotal then F64.ofU64 r.memoryUsed / F64.ofU64 r.memoryTotal * 100.0 else 0.0

def utilization (r : NodeResources F) : F :=
  F64.midpoint r.cpuUtilization r.memoryUtilization

omit [F64 F]

def memoryAvailable (r : NodeResources F) : UInt64 :=
  saturatingSub r.memoryTotal r.memoryUsed

/-- The GPUs that can take another container; nodes without per-GPU state report counts only. -/
def gpuAvailable (r : NodeResources F) : UInt32 :=
  if r.gpuAllocated.isEmpty then
    if r.gpuUsed ≤ r.gpuTotal then r.gpuTotal - r.gpuUsed else 0
  else
    UInt32.ofNat (r.gpuAllocated.countP GpuAllocation.isAvailable)

/-- The indices of available GPUs met from index `i` on, added to `acc` until there are `count`. -/
def pickGpus (count : Nat) : List GpuAllocation → Nat → List UInt32 → List UInt32
  | [], _, acc => acc
  | slot :: rest, i, acc =>
    if slot.isAvailable then
      let picked := acc ++ [UInt32.ofNat i]
      if picked.length = count then picked else pickGpus count rest (i + 1) picked
    else
      pickGpus count rest (i + 1) acc

def updateGpus (f : GpuAllocation → GpuAllocation) (indices : List UInt32)
    (slots : List GpuAllocation) : List GpuAllocation :=
  indices.foldl (fun slots i => slots.modify i.toNat f) slots

def countUsed (slots : List GpuAllocation) : UInt32 :=
  UInt32.ofNat (slots.countP fun slot => !slot.isFree)

def allocateGpus (r : NodeResources F) (count : UInt32) (sharing : Option GpuSharingMode) :
    Option (List UInt32) × NodeResources F :=
  let indices := pickGpus count.toNat r.gpuAllocated 0 []
  if indices.length = count.toNat then
    let slots := updateGpus (GpuAllocation.grant sharing) indices r.gpuAllocated
    (some indices,
      { r with
        gpuAllocated := slots
        gpuUsed := countUsed slots })
  else
    (none, r)

end NodeResources

/-! ## Nodes -/

structure NodeState (F : Type) where
  id : NodeId
  address : String
  labels : HashMap String String
  resources : NodeResources F
  healthy : Bool
  os : Option OsKind
  arch : Option ArchKind

namespace NodeState

variable {F : Type}

def matchesRequiredLabels (n : NodeState F) (selector : NodeSelector) : Bool :=
  (entries selector.labels).all fun kv => n.labels[kv.1]? = some kv.2

def preferredLabelScore (n : NodeState F) (selector : NodeSelector) : Nat :=
  (entries selector.preferLabels).countP fun kv => n.labels[kv.1]? = some kv.2

end NodeState

/-! ## The registry of placements -/

/-- Which containers have been placed where, kept in both directions. -/
structure PlacementState where
  nodeContainers : HashMap NodeId (List ContainerId)
  containerNodes : HashMap ContainerId NodeId
  deriving DecidableEq

namespace PlacementState

def empty : PlacementState :=
  { nodeContainers := ∅
    containerNodes := ∅ }

def containersOnNode (p : PlacementState) (node : NodeId) : List ContainerId :=
  p.nodeContainers[node]?.getD []

def place (p : PlacementState) (c : ContainerId) (node : NodeId) : PlacementState :=
  { nodeContainers := p.nodeContainers.insert node (p.containersOnNode node ++ [c])
    containerNodes := p.containerNodes.insert c node }

def hasServiceOnNode (p : PlacementState) (node : NodeId) (service : String) : Bool :=
  (p.containersOnNode node).any fun c => c.service = service

def hasAnyContainers (p : PlacementState) (node : NodeId) : Bool :=
  !(p.containersOnNode node).isEmpty

def containerCount (p : PlacementState) (node : NodeId) : Nat :=
  (p.containersOnNode node).length

def serviceCountOnNode (p : PlacementState) (node : NodeId) (service : String) : Nat :=
  (p.containersOnNode node).countP fun c => c.service = service

def forget (containers : List ContainerId) (m : HashMap ContainerId NodeId) :
    HashMap ContainerId NodeId :=
  containers.foldl (fun m c => m.erase c) m

def removeNode (p : PlacementState) (node : NodeId) : PlacementState × List ContainerId :=
  let removed := p.containersOnNode node
  ({ nodeContainers := p.nodeContainers.erase node
     containerNodes := forget removed p.containerNodes }, removed)

/-- `Vec::swap_remove` of the element in front of `rest`: the last element takes its place. -/
def swapIn {α : Type} (rest : List α) : List α :=
  match rest.getLast? with
  | none => []
  | some last => last :: rest.dropLast

/-- Walk over a container list with `swap_remove` at the containers of `service`: what stays and
what is removed, each in the order met.  A step shortens `rest` by one, so its length is enough
for the counter. -/
def drainService (service : String) :
    Nat → List ContainerId → List ContainerId → List ContainerId × List ContainerId
  | 0, kept, rest => (kept ++ rest, [])
  | _ + 1, kept, [] => (kept, [])
  | n + 1, kept, c :: rest =>
    if c.service = service then
      let (stays, removed) := drainService service n kept (swapIn rest)
      (stays, c :: removed)
    else
      drainService service n (kept ++ [c]) rest

def removeServiceFromNode (p : PlacementState) (node : NodeId) (service : String) :
    PlacementState × List ContainerId :=
  match p.nodeContainers[node]? with
  | none => (p, [])
  | some containers =>
    let (stays, removed) := drainService service containers.length [] containers
    ({ nodeContainers :=
         if stays.isEmpty then p.nodeContainers.erase node
         else p.nodeContainers.insert node stays
       containerNodes := forget removed p.containerNodes }, removed)

/-! ### Lookups -/

lemma containersOnNode_place (p : PlacementState) (c : ContainerId) (node a : NodeId) :
    (p.place c node).containersOnNode a =
      if node = a then p.containersOnNode a ++ [c] else p.containersOnNode a := by
  unfold containersOnNode place
  rw [lookup_insert]
  by_cases hna : node = a
  · simp [hna, containersOnNode]
  · simp [hna]

lemma lookup_containerNodes_place (p : PlacementState) (c d : ContainerId) (node : NodeId) :
    (p.place c node).containerNodes[d]? =
      if c = d then some node else p.containerNodes[d]? :=
  lookup_insert p.containerNodes c d node

lemma hasServiceOnNode_iff (p : PlacementState) (node : NodeId) (service : String) :
    p.hasServiceOnNode node service = true ↔ ∃ c ∈ p.containersOnNode node,
      c.service = service := by
  simp [hasServiceOnNode]

end PlacementState

end ZLayer.Scheduler
