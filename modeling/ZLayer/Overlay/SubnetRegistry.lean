import ZLayer.Lib.SlotTable

/-!
# SubnetRegistry — per-(service, node) subnets carved out of the cluster CIDR

The overlay's `ServiceSubnetRegistry`: every `(service, node)` pair gets its own slice of the
cluster network.  The slot is chosen by an FNV-1a hash of the pair and linear probing, so the same
sequence of calls yields the same assignments on every process.

A registry carries the two facts its constructor checks: the slice length is more specific than
the cluster network and fits the address family.  Slice arithmetic is that of the machine words of
the source: `u32` and `u128` addresses, `u64` slot indices.
-/

namespace ZLayer.Overlay

open Lib HashMap

/-! ## Networks -/

/-- An IPv4 network: an address, not necessarily the first one, and a prefix length. -/
structure Ipv4Net where
  addr : BitVec 32
  prefixLen : Nat
  le_max : prefixLen ≤ 32
  deriving DecidableEq

structure Ipv6Net where
  addr : BitVec 128
  prefixLen : Nat
  le_max : prefixLen ≤ 128
  deriving DecidableEq

inductive IpNet
  | v4 (net : Ipv4Net)
  | v6 (net : Ipv6Net)
  deriving DecidableEq

def maskNetwork {w : Nat} (a : BitVec w) (p : Nat) : BitVec w :=
  a &&& (BitVec.allOnes w <<< (w - p))

def maskBroadcast {w : Nat} (a : BitVec w) (p : Nat) : BitVec w :=
  a ||| (BitVec.allOnes w >>> p)

namespace IpNet

def prefixLen : IpNet → Nat
  | .v4 n => n.prefixLen
  | .v6 n => n.prefixLen

def maxPrefixLen : IpNet → Nat
  | .v4 _ => 32
  | .v6 _ => 128

/-- `net.contains(&other.network())`: the network address of `other` lies in `net`. -/
def containsNetworkOf : IpNet → IpNet → Bool
  | .v4 n, .v4 m =>
    let ip := maskNetwork m.addr m.prefixLen
    decide (maskNetwork n.addr n.prefixLen ≤ ip ∧ ip ≤ maskBroadcast n.addr n.prefixLen)
  | .v6 n, .v6 m =>
    let ip := maskNetwork m.addr m.prefixLen
    decide (maskNetwork n.addr n.prefixLen ≤ ip ∧ ip ≤ maskBroadcast n.addr n.prefixLen)
  | _, _ => false

end IpNet

/-! ## Textual form -/

def displayIpv4 (a : BitVec 32) : String :=
  ".".intercalate ([24, 16, 8, 0].map fun s => toString ((a >>> s).toNat % 256))

def ipv6Segments (a : BitVec 128) : List Nat :=
  [112, 96, 80, 64, 48, 32, 16, 0].map fun s => (a >>> s).toNat % 65536

/-- Start and length of the first longest run of zero groups. -/
def longestZeroRun (segments : List Nat) : Nat × Nat :=
  let step := fun (acc : (Nat × Nat) × (Nat × Nat) × Nat) (seg : Nat) =>
    let (longest, current, i) := acc
    if seg = 0 then
      let current := if current.2 = 0 then (i, 1) else (current.1, current.2 + 1)
      (if longest.2 < current.2 then current else longest, current, i + 1)
    else
      (longest, (0, 0), i + 1)
  (segments.foldl step ((0, 0), (0, 0), 0)).1

def displaySegments (segments : List Nat) : String :=
  ":".intercalate (segments.map fun s => String.ofList (Nat.toDigits 16 s))

/-- The standard library's `Display` of an IPv6 address: IPv4-mapped addresses keep the dotted
quad, otherwise the first longest run of at least two zero groups is written as `::`. -/
def displayIpv6 (a : BitVec 128) : String :=
  let segments := ipv6Segments a
  if segments.take 6 = [0, 0, 0, 0, 0, 0xffff] then
    "::ffff:" ++ displayIpv4 (a.setWidth 32)
  else
    let run := longestZeroRun segments
    if 1 < run.2 then
      displaySegments (segments.take run.1) ++ "::" ++
        displaySegments (segments.drop (run.1 + run.2))
    else
      displaySegments segments

def IpNet.toString : IpNet → String
  | .v4 n => displayIpv4 n.addr ++ "/" ++ ToString.toString n.prefixLen
  | .v6 n => displayIpv6 n.addr ++ "/" ++ ToString.toString n.prefixLen

/-! ## Errors -/

inductive OverlayError
  | invalidCidr (message : String)
  | noAvailableIps
  deriving DecidableEq

def OverlayError.display : OverlayError → String
  | .invalidCidr message => "Invalid CIDR notation: " ++ message
  | .noAvailableIps => "No available IP addresses in CIDR range"

/-! ## The slots -/

/-- The number of slots, capped to a `u64`. -/
def sliceCount (clusterCidr : IpNet) (slicePrefix : Nat) : UInt64 :=
  let bits := slicePrefix - clusterCidr.prefixLen
  if 64 ≤ bits then UInt64.ofNat (2 ^ 64 - 1) else UInt64.ofNat (2 ^ bits)

/-- The address of slot `idx` among the `q`-bit slices of the `p`-bit network around `a`.  The shift
amount is reduced modulo the word size, as `wrapping_shl` does, and the address wraps. -/
def slotAddr {w : Nat} (a : BitVec w) (p q : Nat) (idx : UInt64) : BitVec w :=
  maskNetwork a p + (idx.toBitVec.setWidth w) <<< ((w - q) % w)

def sliceAt : (clusterCidr : IpNet) → (slicePrefix : Nat) →
    slicePrefix ≤ clusterCidr.maxPrefixLen → UInt64 → IpNet
  | .v4 n, slicePrefix, hle, idx =>
    .v4
      { addr := slotAddr n.addr n.prefixLen slicePrefix idx
        prefixLen := slicePrefix
        le_max := hle }
  | .v6 n, slicePrefix, hle, idx =>
    .v6
      { addr := slotAddr n.addr n.prefixLen slicePrefix idx
        prefixLen := slicePrefix
        le_max := hle }

/-! ## Constructors and snapshots of both allocators -/

/-- The checks of `new` on the slice prefix. -/
def withSlicePrefix {α : Type} (clusterCidr : IpNet) (slicePrefix : Nat)
    (build : clusterCidr.prefixLen < slicePrefix → slicePrefix ≤ clusterCidr.maxPrefixLen → α) :
    Except OverlayError α :=
  if hlt : clusterCidr.prefixLen < slicePrefix then
    if hle : slicePrefix ≤ clusterCidr.maxPrefixLen then
      .ok (build hlt hle)
    else
      .error (.invalidCidr ("slice prefix /" ++ toString slicePrefix ++
        " exceeds address family max /" ++ toString clusterCidr.maxPrefixLen))
  else
    .error (.invalidCidr ("slice prefix /" ++ toString slicePrefix ++
      " must be more specific than cluster prefix /" ++ toString clusterCidr.prefixLen))

/-- The loop of `restore`: read and check every assigned slice and insert it. -/
def restoreInto {κ ρ : Type} [Ord κ] [Std.TransOrd κ] (read : ρ → Except OverlayError IpNet)
    (clusterCidr : IpNet) (slicePrefix : Nat) :
    List (κ × ρ) → HashMap κ IpNet → Except OverlayError (HashMap κ IpNet)
  | [], assigned => .ok assigned
  | (key, row) :: rest, assigned =>
    match read row with
    | .error e => .error e
    | .ok slice =>
      if slice.prefixLen ≠ slicePrefix then
        .error (.invalidCidr ("assigned slice " ++ slice.toString ++
          " does not match configured prefix /" ++ toString slicePrefix))
      else if clusterCidr.containsNetworkOf slice then
        restoreInto read clusterCidr slicePrefix rest (assigned.insert key slice)
      else
        .error (.invalidCidr ("assigned slice " ++ slice.toString ++
          " is not contained in cluster CIDR " ++ clusterCidr.toString))

/-! ## The registry -/

/-- Assignments of cluster slices to `(service, node)` pairs. -/
structure ServiceSubnetRegistry where
  clusterCidr : IpNet
  slicePrefix : Nat
  assignments : HashMap (String × String) IpNet
  cluster_lt_slice : clusterCidr.prefixLen < slicePrefix
  slice_le_max : slicePrefix ≤ clusterCidr.maxPrefixLen
  deriving DecidableEq

def fnvStep (hash : UInt64) (b : UInt8) : UInt64 :=
  (hash ^^^ b.toUInt64) * 0x00000100000001b3

def hashServiceNode (service node : String) : UInt64 :=
  let hash := service.toUTF8.data.toList.foldl fnvStep 0xcbf29ce484222325
  let hash := fnvStep hash 0x1f
  node.toUTF8.data.toList.foldl fnvStep hash

namespace ServiceSubnetRegistry

def new (clusterCidr : IpNet) (slicePrefix : Nat) : Except OverlayError ServiceSubnetRegistry :=
  withSlicePrefix clusterCidr slicePrefix fun hlt hle =>
    { clusterCidr := clusterCidr
      slicePrefix := slicePrefix
      assignments := ∅
      cluster_lt_slice := hlt
      slice_le_max := hle }

def numSlices (r : ServiceSubnetRegistry) : UInt64 :=
  sliceCount r.clusterCidr r.slicePrefix

def sliceAtIndex (r : ServiceSubnetRegistry) (idx : UInt64) : IpNet :=
  sliceAt r.clusterCidr r.slicePrefix r.slice_le_max idx

def hashKey (key : String × String) : UInt64 :=
  hashServiceNode key.1 key.2

def assign (r : ServiceSubnetRegistry) (service node : String) :
    ServiceSubnetRegistry × Except OverlayError IpNet :=
  match SlotTable.assign r.sliceAtIndex r.numSlices hashKey r.assignments (service, node) with
  | some (assignments, slice) => ({ r with assignments := assignments }, .ok slice)
  | none => (r, .error .noAvailableIps)

def release (r : ServiceSubnetRegistry) (service node : String) :
    ServiceSubnetRegistry × Option IpNet :=
  ({ r with assignments := r.assignments.erase (service, node) }, r.assignments[(service, node)]?)

/-! ## Snapshots -/

structure Snapshot where
  clusterCidr : IpNet
  slicePrefix : UInt8
  assignments : List ((String × String) × IpNet)

/-- The assignments are sorted by `(service, node)`. -/
def snapshot (r : ServiceSubnetRegistry) : Snapshot :=
  { clusterCidr := r.clusterCidr
    slicePrefix := UInt8.ofNat r.slicePrefix
    assignments := entries r.assignments }

def restore (s : Snapshot) : Except OverlayError ServiceSubnetRegistry :=
  match new s.clusterCidr s.slicePrefix.toNat with
  | .error e => .error e
  | .ok r =>
    match restoreInto .ok s.clusterCidr s.slicePrefix.toNat s.assignments r.assignments with
    | .error e => .error e
    | .ok assignments => .ok { r with assignments := assignments }

end ServiceSubnetRegistry

/-! ## Every assigned slice lies in the cluster network -/

section Masks

variable {w : Nat}

lemma maskNetwork_eq (a : BitVec w) (p : Nat) :
    maskNetwork a p = (a >>> (w - p)) <<< (w - p) := by
  unfold maskNetwork
  ext i hi
  by_cases hlow : i < w - p
  · simp [hlow]
  · have hshift : w - p + (i - (w - p)) = i := by omega
    simp [hlow, hshift, BitVec.getLsbD_eq_getElem hi]

lemma toNat_maskNetwork (a : BitVec w) (p : Nat) :
    (maskNetwork a p).toNat = a.toNat / 2 ^ (w - p) * 2 ^ (w - p) := by
  have hle : a.toNat / 2 ^ (w - p) * 2 ^ (w - p) ≤ a.toNat := Nat.div_mul_le_self _ _
  rw [maskNetwork_eq, BitVec.toNat_shiftLeft, BitVec.toNat_ushiftRight, Nat.shiftLeft_eq,
    Nat.shiftRight_eq_div_pow, Nat.mod_eq_of_lt (lt_of_le_of_lt hle a.isLt)]

lemma or_low_bits (n k : Nat) : n ||| (2 ^ k - 1) = n / 2 ^ k * 2 ^ k + (2 ^ k - 1) := by
  have hlt : 2 ^ k - 1 < 2 ^ k := Nat.sub_lt (Nat.two_pow_pos k) Nat.one_pos
  rw [Nat.mul_comm, Nat.two_pow_add_eq_or_of_lt hlt]
  refine Nat.eq_of_testBit_eq fun i => ?_
  by_cases hi : i < k
  · simp [hi]
  · simp [hi, Nat.testBit_two_pow_mul, Nat.testBit_div_two_pow, Nat.not_lt.mp hi]

lemma toNat_maskBroadcast (a : BitVec w) {p : Nat} (hp : p ≤ w) :
    (maskBroadcast a p).toNat = a.toNat / 2 ^ (w - p) * 2 ^ (w - p) + (2 ^ (w - p) - 1) := by
  have hmask : (BitVec.allOnes w >>> p).toNat = 2 ^ (w - p) - 1 := by
    rw [BitVec.toNat_ushiftRight, BitVec.toNat_allOnes]
    refine Nat.eq_of_testBit_eq fun i => ?_
    simp only [Nat.testBit_shiftRight, Nat.testBit_two_pow_sub_one, decide_eq_decide]
    omega
  rw [maskBroadcast, BitVec.toNat_or, hmask, or_low_bits]

/-- A `p`-bit network is made of `2 ^ (q - p)` blocks of the size of a `q`-bit one. -/
lemma two_pow_split {w p q : Nat} (hpq : p < q) (hq : q ≤ w) :
    2 ^ (w - p) = 2 ^ (q - p) * 2 ^ (w - q) := by
  rw [← Nat.pow_add]
  congr 1
  omega

/-- The address of the `i`-th `q`-bit block of the `p`-bit network around `a`. -/
lemma toNat_network_add {w p q i : Nat} (a offset : BitVec w) (hpq : p < q) (hq : q ≤ w)
    (hoffset : offset.toNat = i * 2 ^ (w - q)) (hi : i < 2 ^ (q - p)) :
    (maskNetwork a p + offset).toNat =
      (a.toNat / 2 ^ (w - p) * 2 ^ (q - p) + i) * 2 ^ (w - q) := by
  have hsplit := two_pow_split hpq hq
  -- the offset stays below the size of the network
  have hlt : i * 2 ^ (w - q) < 2 ^ (w - p) := by
    rw [hsplit]
    exact Nat.mul_lt_mul_of_pos_right hi (Nat.two_pow_pos _)
  have hroom : a.toNat / 2 ^ (w - p) * 2 ^ (w - p) + i * 2 ^ (w - q) < 2 ^ w := by
    have hfull : 2 ^ w = 2 ^ p * 2 ^ (w - p) := by
      rw [← Nat.pow_add]
      congr 1
      omega
    have hdiv : a.toNat / 2 ^ (w - p) < 2 ^ p := by
      rw [Nat.div_lt_iff_lt_mul (Nat.two_pow_pos _), ← hfull]
      exact a.isLt
    calc
      a.toNat / 2 ^ (w - p) * 2 ^ (w - p) + i * 2 ^ (w - q)
          < a.toNat / 2 ^ (w - p) * 2 ^ (w - p) + 2 ^ (w - p) := Nat.add_lt_add_left hlt _
      _ = (a.toNat / 2 ^ (w - p) + 1) * 2 ^ (w - p) := by rw [Nat.add_mul, Nat.one_mul]
      _ ≤ 2 ^ p * 2 ^ (w - p) := Nat.mul_le_mul_right _ hdiv
      _ = 2 ^ w := hfull.symm
  rw [BitVec.toNat_add, toNat_maskNetwork, hoffset, Nat.mod_eq_of_lt hroom, hsplit, Nat.add_mul,
    Nat.mul_assoc]

lemma slice_mem_network {w p q i : Nat} (a offset : BitVec w) (hpq : p < q) (hq : q ≤ w)
    (hoffset : offset.toNat = i * 2 ^ (w - q)) (hi : i < 2 ^ (q - p)) :
    maskNetwork a p ≤ maskNetwork (maskNetwork a p + offset) q ∧
      maskNetwork (maskNetwork a p + offset) q ≤ maskBroadcast a p := by
  have hsplit := two_pow_split hpq hq
  have hpos : 0 < 2 ^ (w - q) := Nat.two_pow_pos _
  have hlt : i * 2 ^ (w - q) < 2 ^ (w - p) := by
    rw [hsplit]
    exact Nat.mul_lt_mul_of_pos_right hi hpos
  have hslice : (maskNetwork (maskNetwork a p + offset) q).toNat =
      a.toNat / 2 ^ (w - p) * 2 ^ (w - p) + i * 2 ^ (w - q) := by
    rw [toNat_maskNetwork, toNat_network_add a offset hpq hq hoffset hi,
      Nat.mul_div_cancel _ hpos, Nat.add_mul, Nat.mul_assoc, ← hsplit]
  have hnetwork := toNat_maskNetwork a p
  have hbroadcast := toNat_maskBroadcast a (p := p) (by omega)
  rw [BitVec.le_def, BitVec.le_def, hslice, hnetwork, hbroadcast]
  omega

lemma toNat_slotOffset {w p q : Nat} (hpq : p < q) (hq : q ≤ w) (idx : UInt64)
    (hidx : idx.toNat < 2 ^ (q - p)) :
    ((idx.toBitVec.setWidth w) <<< ((w - q) % w)).toNat = idx.toNat * 2 ^ (w - q) := by
  have hshift : (w - q) % w = w - q := Nat.mod_eq_of_lt (by omega)
  have hword : idx.toNat < 2 ^ w :=
    lt_of_lt_of_le hidx (Nat.pow_le_pow_right (by omega) (by omega))
  have hroom : idx.toNat * 2 ^ (w - q) < 2 ^ w := by
    calc
      idx.toNat * 2 ^ (w - q) < 2 ^ (q - p) * 2 ^ (w - q) :=
          Nat.mul_lt_mul_of_pos_right hidx (Nat.two_pow_pos _)
      _ = 2 ^ (w - p) := (two_pow_split hpq hq).symm
      _ ≤ 2 ^ w := Nat.pow_le_pow_right (by omega) (by omega)
  rw [hshift, BitVec.toNat_shiftLeft, BitVec.toNat_setWidth, UInt64.toNat_toBitVec,
    Nat.mod_eq_of_lt hword, Nat.shiftLeft_eq, Nat.mod_eq_of_lt hroom]

end Masks

section Slots

variable {clusterCidr : IpNet} {slicePrefix : Nat}

lemma toNat_sliceCount_le (clusterCidr : IpNet) (slicePrefix : Nat) :
    (sliceCount clusterCidr slicePrefix).toNat ≤ 2 ^ (slicePrefix - clusterCidr.prefixLen) := by
  unfold sliceCount
  by_cases hbits : 64 ≤ slicePrefix - clusterCidr.prefixLen
  · simp only [if_pos hbits]
    have hle : 2 ^ 64 ≤ 2 ^ (slicePrefix - clusterCidr.prefixLen) :=
      Nat.pow_le_pow_right (by omega) hbits
    have hmax : (UInt64.ofNat (2 ^ 64 - 1)).toNat = 2 ^ 64 - 1 := by decide
    omega
  · simp only [if_neg hbits]
    rw [UInt64.toNat_ofNat']
    exact Nat.mod_le _ _

/-- The slice of a valid slot has the slice length and lies in the cluster network. -/
lemma sliceAt_fits (hlt : clusterCidr.prefixLen < slicePrefix)
    (hle : slicePrefix ≤ clusterCidr.maxPrefixLen) {idx : UInt64}
    (h : idx < sliceCount clusterCidr slicePrefix) :
    (sliceAt clusterCidr slicePrefix hle idx).prefixLen = slicePrefix ∧
      clusterCidr.containsNetworkOf (sliceAt clusterCidr slicePrefix hle idx) = true := by
  have hidx : idx.toNat < 2 ^ (slicePrefix - clusterCidr.prefixLen) :=
    lt_of_lt_of_le (UInt64.lt_iff_toNat_lt.mp h) (toNat_sliceCount_le clusterCidr slicePrefix)
  -- The match of the source is on the family of the cluster network, so that is the split here.
  cases clusterCidr with
  | v4 n | v6 n =>
    have hmem := slice_mem_network n.addr _ hlt hle (toNat_slotOffset hlt hle idx hidx) hidx
    exact ⟨rfl, decide_eq_true hmem⟩

lemma toNat_ofNat_of_le_maxPrefixLen (h : slicePrefix ≤ clusterCidr.maxPrefixLen) :
    (UInt8.ofNat slicePrefix).toNat = slicePrefix := by
  have hmax : clusterCidr.maxPrefixLen ≤ 128 := by
    cases clusterCidr <;> simp [IpNet.maxPrefixLen]
  rw [UInt8.toNat_ofNat']
  exact Nat.mod_eq_of_lt (by omega)

/-- Rows whose slices are read back and pass the checks are inserted as they were. -/
lemma restoreInto_ok {κ ρ : Type} [Ord κ] [Std.TransOrd κ] (read : ρ → Except OverlayError IpNet)
    (write : IpNet → ρ) (l : List (κ × IpNet)) (acc : HashMap κ IpNet)
    (h : ∀ entry ∈ l, read (write entry.2) = .ok entry.2 ∧ entry.2.prefixLen = slicePrefix ∧
      clusterCidr.containsNetworkOf entry.2 = true) :
    restoreInto read clusterCidr slicePrefix (l.map fun entry => (entry.1, write entry.2)) acc =
      .ok (collectInto (fun _ slice => some slice) l acc) := by
  induction l generalizing acc with
  | nil => rfl
  | cons entry rest ih =>
    rcases entry with ⟨key, slice⟩
    rcases h (key, slice) List.mem_cons_self with ⟨hread, hlen, hinside⟩
    have htail := ih (acc.insert key slice) fun entry hmem =>
      h entry (List.mem_cons_of_mem _ hmem)
    simp only [List.map_cons, restoreInto, hread, hlen, hinside, ne_eq, not_true_eq_false,
      if_false, if_true, htail, collectInto]

end Slots

namespace ServiceSubnetRegistry

/-- Every assigned slice has the slice length and lies in the cluster network. -/
def WellFormed (r : ServiceSubnetRegistry) : Prop :=
  ∀ (key : String × String) (slice : IpNet), r.assignments[key]? = some slice →
    slice.prefixLen = r.slicePrefix ∧ r.clusterCidr.containsNetworkOf slice = true

variable {r : ServiceSubnetRegistry}

lemma wellFormed_assign (h : r.WellFormed) (service node : String) :
    (r.assign service node).1.WellFormed := by
  unfold assign
  split
  next assignments slice hassign =>
    rcases SlotTable.assign_eq_some hassign with ⟨-, rfl⟩ | ⟨-, ⟨idx, hidx, rfl⟩, rfl⟩
    · exact h
    · intro key other hother
      rcases of_lookup_insert hother with ⟨-, rfl⟩ | ⟨-, hold⟩
      · exact sliceAt_fits r.cluster_lt_slice r.slice_le_max hidx
      · exact h key other hold
  · exact h

/-- A well-formed registry is restored from its snapshot. -/
lemma restore_snapshot (h : r.WellFormed) : restore r.snapshot = .ok r := by
  have hstart := toNat_ofNat_of_le_maxPrefixLen r.slice_le_max
  have hloop := restoreInto_ok .ok id (entries r.assignments) ∅
    fun entry hmem => ⟨rfl, h entry.1 entry.2 ((mem_entries r.assignments).mp hmem)⟩
  have hrows : (entries r.assignments).map (fun entry => (entry.1, id entry.2)) =
      entries r.assignments := List.map_id _
  have hrebuilt : collectInto (fun _ slice => some slice)
      (entries r.assignments) ∅ = r.assignments :=
    ofEntries_list IterOrder.byKey r.assignments
  rw [hrows, hrebuilt] at hloop
  simp only [restore, snapshot, hstart, new, withSlicePrefix, dif_pos r.cluster_lt_slice,
    dif_pos r.slice_le_max, hloop]

end ServiceSubnetRegistry

end ZLayer.Overlay
