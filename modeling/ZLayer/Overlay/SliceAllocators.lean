import ZLayer.Overlay.Slices

/-!
# SliceAllocators — slices of nodes and of services never overlap

`NodeSliceAllocator` gives every node a slice of the cluster CIDR, `ServiceSubnetRegistry` every
`(service, node)` pair.  Both are slot tables over the slices of the cluster.  They differ in the
key, the hash and the form of their snapshots.

What holds of a slot table holds of both, along every run of `assign`, `release` and
`restore(snapshot())`.  Reading and printing of networks is that of the `ipnet` crate; a node
allocator's snapshot is text, and restoring it needs that `parse` reads back what was printed.
-/

namespace ZLayer.Overlay

open Lib ServiceSubnetRegistry HashMap List

/-! ## The node allocator -/

structure NodeSliceAllocator where
  clusterCidr : IpNet
  slicePrefix : Nat
  assigned : HashMap String IpNet
  cluster_lt_slice : clusterCidr.prefixLen < slicePrefix
  slice_le_max : slicePrefix ≤ clusterCidr.maxPrefixLen

def hashNodeId (nodeId : String) : UInt64 :=
  nodeId.toUTF8.data.toList.foldl fnvStep 0xcbf29ce484222325

namespace NodeSliceAllocator

def new (clusterCidr : IpNet) (slicePrefix : Nat) : Except OverlayError NodeSliceAllocator :=
  withSlicePrefix clusterCidr slicePrefix fun hlt hle =>
    { clusterCidr := clusterCidr
      slicePrefix := slicePrefix
      assigned := ∅
      cluster_lt_slice := hlt
      slice_le_max := hle }

def numSlices (a : NodeSliceAllocator) : UInt64 :=
  sliceCount a.clusterCidr a.slicePrefix

def sliceAtIndex (a : NodeSliceAllocator) (idx : UInt64) : IpNet :=
  sliceAt a.clusterCidr a.slicePrefix a.slice_le_max idx

def assign (a : NodeSliceAllocator) (nodeId : String) :
    NodeSliceAllocator × Except OverlayError IpNet :=
  match SlotTable.assign a.sliceAtIndex a.numSlices hashNodeId a.assigned nodeId with
  | some (assigned, slice) => ({ a with assigned := assigned }, .ok slice)
  | none => (a, .error .noAvailableIps)

def release (a : NodeSliceAllocator) (nodeId : String) : NodeSliceAllocator × Bool :=
  ({ a with assigned := a.assigned.erase nodeId }, a.assigned[nodeId]?.isSome)

/-- The persistent form of an allocator: the networks are text. -/
structure Snapshot where
  clusterCidr : String
  slicePrefix : UInt8
  assigned : List (String × String)

/-- The assignments are listed as the hash map is iterated. -/
def snapshot (order : IterOrder String IpNet) (a : NodeSliceAllocator) : Snapshot :=
  { clusterCidr := a.clusterCidr.toString
    slicePrefix := UInt8.ofNat a.slicePrefix
    assigned := (order.list a.assigned).map fun entry => (entry.1, entry.2.toString) }

def parseNet (parse : String → Except String IpNet) (text : String) : Except OverlayError IpNet :=
  (parse text).mapError fun e => .invalidCidr (text ++ ": " ++ e)

def restore (parse : String → Except String IpNet) (s : Snapshot) :
    Except OverlayError NodeSliceAllocator :=
  match parseNet parse s.clusterCidr with
  | .error e => .error e
  | .ok clusterCidr =>
    match new clusterCidr s.slicePrefix.toNat with
    | .error e => .error e
    | .ok a =>
      match restoreInto (parseNet parse) clusterCidr s.slicePrefix.toNat s.assigned a.assigned with
      | .error e => .error e
      | .ok assigned => .ok { a with assigned := assigned }

end NodeSliceAllocator

/-! ## Runs -/

/-- The operations of an allocator; `ρ` is how a snapshot iterates over the assignments. -/
inductive SliceOp (κ ρ : Type)
  | assign (key : κ)
  | release (key : κ)
  /-- `restore(snapshot())`. -/
  | restore (order : ρ)

def NodeSliceAllocator.step (parse : String → Except String IpNet) (a : NodeSliceAllocator) :
    SliceOp String (IterOrder String IpNet) → NodeSliceAllocator
  | .assign nodeId => (a.assign nodeId).1
  | .release nodeId => (a.release nodeId).1
  | .restore order =>
    match NodeSliceAllocator.restore parse (a.snapshot order) with
    | .ok restored => restored
    | .error _ => a

def ServiceSubnetRegistry.step (r : ServiceSubnetRegistry) :
    SliceOp (String × String) Unit → ServiceSubnetRegistry
  | .assign key => (r.assign key.1 key.2).1
  | .release key => (r.release key.1 key.2).1
  | .restore () =>
    match restore r.snapshot with
    | .ok restored => restored
    | .error _ => r

/-! ## Slice tables -/

/-- What both allocators are: keys that hold slices of a cluster. -/
structure SliceTable (κ : Type) [Ord κ] where
  clusterCidr : IpNet
  slicePrefix : Nat
  slices : HashMap κ IpNet
  cluster_lt_slice : clusterCidr.prefixLen < slicePrefix
  slice_le_max : slicePrefix ≤ clusterCidr.maxPrefixLen

namespace SliceTable

variable {κ : Type} [Ord κ] [Std.TransOrd κ]

def slot (t : SliceTable κ) : UInt64 → IpNet :=
  sliceAt t.clusterCidr t.slicePrefix t.slice_le_max

def slots (t : SliceTable κ) : UInt64 :=
  sliceCount t.clusterCidr t.slicePrefix

omit [Std.TransOrd κ] in
lemma toNat_slots_le (t : SliceTable κ) :
    t.slots.toNat ≤ 2 ^ (t.slicePrefix - t.clusterCidr.prefixLen) :=
  toNat_sliceCount_le _ _

def assign (hash : κ → UInt64) (t : SliceTable κ) (key : κ) :
    SliceTable κ × Except OverlayError IpNet :=
  match SlotTable.assign t.slot t.slots hash t.slices key with
  | some (slices, slice) => ({ t with slices := slices }, .ok slice)
  | none => (t, .error .noAvailableIps)

def release (t : SliceTable κ) (key : κ) : SliceTable κ :=
  { t with slices := t.slices.erase key }

/-- The slices come out of the given cluster, one key for each. -/
structure Carves (clusterCidr : IpNet) (slicePrefix : Nat) (t : SliceTable κ) : Prop where
  clusterCidr : t.clusterCidr = clusterCidr
  slicePrefix : t.slicePrefix = slicePrefix
  sound : SlotTable.Sound t.slot t.slots t.slices

variable [Std.LawfulEqOrd κ] {clusterCidr : IpNet} {slicePrefix : Nat} {t : SliceTable κ}

lemma Carves.assign [DecidableEq κ] (h : t.Carves clusterCidr slicePrefix) (hash : κ → UInt64)
    (key : κ) : (t.assign hash key).1.Carves clusterCidr slicePrefix := by
  unfold SliceTable.assign
  split
  next hassign => exact ⟨h.clusterCidr, h.slicePrefix, (h.sound.assign hassign).1⟩
  next => exact h

lemma Carves.release [DecidableEq κ] (h : t.Carves clusterCidr slicePrefix) (key : κ) :
    (t.release key).Carves clusterCidr slicePrefix :=
  ⟨h.clusterCidr, h.slicePrefix, h.sound.erase key⟩

omit [Std.LawfulEqOrd κ] in
lemma Carves.isSlice (h : t.Carves clusterCidr slicePrefix)
    (hbits : slicePrefix - clusterCidr.prefixLen < 64) {key : κ} {slice : IpNet}
    (hslice : t.slices[key]? = some slice) : IsSlice clusterCidr slicePrefix slice := by
  rcases h with ⟨rfl, rfl, hsound⟩
  exact (isSlice_iff t.cluster_lt_slice t.slice_le_max hbits slice).mpr
    (hsound.slot key slice hslice)

end SliceTable

/-! ## The node allocator is a slice table -/

namespace NodeSliceAllocator

variable {clusterCidr : IpNet} {slicePrefix : Nat} {parse : String → Except String IpNet}

def table (a : NodeSliceAllocator) : SliceTable String :=
  { clusterCidr := a.clusterCidr
    slicePrefix := a.slicePrefix
    slices := a.assigned
    cluster_lt_slice := a.cluster_lt_slice
    slice_le_max := a.slice_le_max }

variable {a : NodeSliceAllocator}

lemma table_assign (a : NodeSliceAllocator) (nodeId : String) :
    (a.assign nodeId).1.table = (a.table.assign hashNodeId nodeId).1 ∧
      (a.assign nodeId).2 = (a.table.assign hashNodeId nodeId).2 := by
  have heq : SlotTable.assign a.table.slot a.table.slots hashNodeId a.table.slices nodeId =
      SlotTable.assign a.sliceAtIndex a.numSlices hashNodeId a.assigned nodeId := rfl
  unfold assign SliceTable.assign
  rw [heq]
  cases SlotTable.assign a.sliceAtIndex a.numSlices hashNodeId a.assigned nodeId with
  | none | some => exact ⟨rfl, rfl⟩

/-- An allocator is restored from its snapshot if its networks are read back as they were. -/
lemma restore_snapshot (a : NodeSliceAllocator) (order : IterOrder String IpNet)
    (hcluster : parse a.clusterCidr.toString = .ok a.clusterCidr)
    (hslices : ∀ (nodeId : String) (slice : IpNet), a.assigned[nodeId]? = some slice →
      IsSlice a.clusterCidr a.slicePrefix slice ∧ parse slice.toString = .ok slice) :
    restore parse (a.snapshot order) = .ok a := by
  have hstart := toNat_ofNat_of_le_maxPrefixLen a.slice_le_max
  have hread {net : IpNet} (h : parse net.toString = .ok net) :
      parseNet parse net.toString = .ok net := by
    rw [parseNet, h]
    rfl
  have hloop : restoreInto (parseNet parse) a.clusterCidr a.slicePrefix
      ((order.list a.assigned).map fun entry => (entry.1, entry.2.toString)) ∅ =
        .ok a.assigned := by
    rw [restoreInto_ok]
    · exact congrArg Except.ok (ofEntries_list order a.assigned)
    · rintro ⟨nodeId, slice⟩ hmem
      rcases hslices nodeId slice ((order.mem_list a.assigned).mp hmem) with ⟨his, hparse⟩
      exact ⟨hread hparse, his.prefixLen, containsNetworkOf_of_isSlice his⟩
  simp only [restore, snapshot, hread hcluster, hstart, new, withSlicePrefix,
    dif_pos a.cluster_lt_slice, dif_pos a.slice_le_max, hloop]

end NodeSliceAllocator

/-! ## The service registry is a slice table -/

namespace ServiceSubnetRegistry

variable {clusterCidr : IpNet} {slicePrefix : Nat}

def table (r : ServiceSubnetRegistry) : SliceTable (String × String) :=
  { clusterCidr := r.clusterCidr
    slicePrefix := r.slicePrefix
    slices := r.assignments
    cluster_lt_slice := r.cluster_lt_slice
    slice_le_max := r.slice_le_max }

variable {r : ServiceSubnetRegistry}

lemma table_assign (r : ServiceSubnetRegistry) (key : String × String) :
    (r.assign key.1 key.2).1.table = (r.table.assign hashKey key).1 ∧
      (r.assign key.1 key.2).2 = (r.table.assign hashKey key).2 := by
  have heq : SlotTable.assign r.table.slot r.table.slots hashKey r.table.slices key =
      SlotTable.assign r.sliceAtIndex r.numSlices hashKey r.assignments (key.1, key.2) := rfl
  unfold assign SliceTable.assign
  rw [heq]
  cases SlotTable.assign r.sliceAtIndex r.numSlices hashKey r.assignments (key.1, key.2) with
  | none | some => exact ⟨rfl, rfl⟩

end ServiceSubnetRegistry

/-! ## Runs -/

def halvedCluster : IpNet :=
  .v4
    { addr := 0x0a000000#32
      prefixLen := 24
      le_max := by decide }

end ZLayer.Overlay
