import Mathlib.Data.Set.Card
import ZLayer.Overlay.SubnetRegistry

/-!
# Slices — the networks a cluster CIDR is carved into

A cluster has `sliceCount` slots, the slice in slot `idx` being `sliceAt idx`.  On the other side
stands what a slice is for: a network of the slice length, aligned, whose addresses all belong to
the cluster.

An address belongs to a network exactly when both agree on the bits of the prefix, that is, when
they have the same quotient by the network's size.  With fewer than 64 bits between the two lengths
the slots are exactly the slices, each once, and two different slices share no address.
-/

namespace ZLayer.Overlay

open Lib

/-! ## Addresses of a network -/

inductive IpAddr
  | v4 (addr : BitVec 32)
  | v6 (addr : BitVec 128)
  deriving DecidableEq

def IpNet.contains : IpNet → IpAddr → Bool
  | .v4 n, .v4 ip =>
    decide (maskNetwork n.addr n.prefixLen ≤ ip ∧ ip ≤ maskBroadcast n.addr n.prefixLen)
  | .v6 n, .v6 ip =>
    decide (maskNetwork n.addr n.prefixLen ≤ ip ∧ ip ≤ maskBroadcast n.addr n.prefixLen)
  | _, _ => false

/-- The address of the network is its first one. -/
def IpNet.Aligned : IpNet → Prop
  | .v4 n => maskNetwork n.addr n.prefixLen = n.addr
  | .v6 n => maskNetwork n.addr n.prefixLen = n.addr

/-- A network of the slice length that is aligned and lies in the cluster. -/
structure IsSlice (clusterCidr : IpNet) (slicePrefix : Nat) (slice : IpNet) : Prop where
  prefixLen : slice.prefixLen = slicePrefix
  aligned : slice.Aligned
  inside : ∀ ip, slice.contains ip = true → clusterCidr.contains ip = true

/-! ## Addresses as quotients -/

section Quotients

variable {w p q : Nat}

/-- The address belongs to the `p`-bit network around `a`. -/
def InNetwork (a : BitVec w) (p : Nat) (ip : BitVec w) : Prop :=
  maskNetwork a p ≤ ip ∧ ip ≤ maskBroadcast a p

lemma inNetwork_iff {a ip : BitVec w} (hp : p ≤ w) :
    InNetwork a p ip ↔ ip.toNat / 2 ^ (w - p) = a.toNat / 2 ^ (w - p) := by
  have hpos : 0 < 2 ^ (w - p) := Nat.two_pow_pos _
  rw [InNetwork, BitVec.le_def, BitVec.le_def, toNat_maskNetwork, toNat_maskBroadcast a hp,
    Nat.div_eq_iff hpos, Nat.add_sub_assoc hpos]

lemma inNetwork_self (a : BitVec w) (hp : p ≤ w) : InNetwork a p a :=
  (inNetwork_iff hp).mpr rfl

lemma aligned_iff (a : BitVec w) : maskNetwork a q = a ↔ 2 ^ (w - q) ∣ a.toNat := by
  rw [← BitVec.toNat_inj, toNat_maskNetwork]
  exact Nat.dvd_iff_div_mul_eq _ _ |>.symm

lemma div_eq_of_div_eq {x y : Nat} (hpq : p < q) (hq : q ≤ w)
    (h : x / 2 ^ (w - q) = y / 2 ^ (w - q)) : x / 2 ^ (w - p) = y / 2 ^ (w - p) := by
  rw [two_pow_split hpq hq, Nat.mul_comm, ← Nat.div_div_eq_div_mul, h, Nat.div_div_eq_div_mul]

lemma forall_inNetwork_iff {a s : BitVec w} (hpq : p < q) (hq : q ≤ w) :
    (∀ ip, InNetwork s q ip → InNetwork a p ip) ↔
      s.toNat / 2 ^ (w - p) = a.toNat / 2 ^ (w - p) := by
  have hp : p ≤ w := by omega
  constructor
  · intro h
    exact (inNetwork_iff hp).mp (h s (inNetwork_self s hq))
  · intro h ip hip
    rw [inNetwork_iff hp, ← h]
    exact div_eq_of_div_eq hpq hq ((inNetwork_iff hq).mp hip)

lemma eq_of_inNetwork {s t ip : BitVec w} (hlen : p = q) (hq : q ≤ w) (hs : maskNetwork s p = s)
    (ht : maskNetwork t q = t) (hsip : InNetwork s p ip) (htip : InNetwork t q ip) : s = t := by
  subst hlen
  rw [inNetwork_iff hq] at hsip htip
  rw [← hs, ← ht, ← BitVec.toNat_inj, toNat_maskNetwork, toNat_maskNetwork, ← hsip, ← htip]

lemma toNat_slotAddr (a : BitVec w) (hpq : p < q) (hq : q ≤ w) {idx : UInt64}
    (hidx : idx.toNat < 2 ^ (q - p)) :
    (slotAddr a p q idx).toNat =
      (a.toNat / 2 ^ (w - p) * 2 ^ (q - p) + idx.toNat) * 2 ^ (w - q) :=
  toNat_network_add a _ hpq hq (toNat_slotOffset hpq hq idx hidx) hidx

lemma toNat_ofNat_of_lt_two_pow {n bits : Nat} (h : n < 2 ^ bits) (hbits : bits < 64) :
    (UInt64.ofNat n).toNat = n :=
  UInt64.toNat_ofNat_of_lt' (lt_trans h (Nat.pow_lt_pow_right (by omega) hbits))

/-- A slot is an aligned `q`-bit network inside the `p`-bit network around `a`. -/
lemma slice_of_slot (a : BitVec w) (hpq : p < q) (hq : q ≤ w) {idx : UInt64}
    (hidx : idx.toNat < 2 ^ (q - p)) :
    maskNetwork (slotAddr a p q idx) q = slotAddr a p q idx ∧
      ∀ ip, InNetwork (slotAddr a p q idx) q ip → InNetwork a p ip := by
  rw [aligned_iff, forall_inNetwork_iff hpq hq, toNat_slotAddr a hpq hq hidx]
  refine ⟨Nat.dvd_mul_left _ _, ?_⟩
  -- the slot number is below `2 ^ (q - p)`, so dividing takes it away
  rw [two_pow_split hpq hq, Nat.mul_div_mul_right _ _ (Nat.two_pow_pos _),
    Nat.mul_comm (a.toNat / _), Nat.mul_add_div (Nat.two_pow_pos _), Nat.div_eq_of_lt hidx,
    Nat.add_zero]

/-- The aligned `q`-bit networks inside the `p`-bit network around `a` are slots. -/
lemma slot_of_slice {a s : BitVec w} (hpq : p < q) (hq : q ≤ w) (hbits : q - p < 64)
    (h : maskNetwork s q = s ∧ ∀ ip, InNetwork s q ip → InNetwork a p ip) :
    ∃ idx : UInt64, idx.toNat < 2 ^ (q - p) ∧ s = slotAddr a p q idx := by
  rw [aligned_iff, forall_inNetwork_iff hpq hq] at h
  rcases h with ⟨⟨block, hblock⟩, hnetwork⟩
  -- the block's number within the network is the slot
  have hnumber : block / 2 ^ (q - p) = a.toNat / 2 ^ (w - p) := by
    rw [← hnetwork, hblock, two_pow_split hpq hq, Nat.mul_comm (2 ^ (q - p)),
      Nat.mul_div_mul_left _ _ (Nat.two_pow_pos _)]
  have hrest : block % 2 ^ (q - p) < 2 ^ (q - p) := Nat.mod_lt _ (Nat.two_pow_pos _)
  have hword := toNat_ofNat_of_lt_two_pow hrest hbits
  refine ⟨UInt64.ofNat (block % 2 ^ (q - p)), by rw [hword]; exact hrest, ?_⟩
  rw [← BitVec.toNat_inj, toNat_slotAddr a hpq hq (by rw [hword]; exact hrest), hword, hblock,
    ← hnumber, Nat.div_add_mod', Nat.mul_comm]

end Quotients

/-! ## Slots and slices of a cluster -/

attribute [ext] Ipv4Net Ipv6Net

section Cluster

variable {clusterCidr : IpNet} {slicePrefix : Nat}

lemma toNat_sliceCount (hbits : slicePrefix - clusterCidr.prefixLen < 64) :
    (sliceCount clusterCidr slicePrefix).toNat = 2 ^ (slicePrefix - clusterCidr.prefixLen) := by
  simp only [sliceCount, if_neg (Nat.not_le.mpr hbits)]
  exact UInt64.toNat_ofNat_of_lt' (Nat.pow_lt_pow_right (by omega) hbits)

lemma lt_sliceCount_iff (hbits : slicePrefix - clusterCidr.prefixLen < 64) {idx : UInt64} :
    idx < sliceCount clusterCidr slicePrefix ↔
      idx.toNat < 2 ^ (slicePrefix - clusterCidr.prefixLen) := by
  rw [UInt64.lt_iff_toNat_lt, toNat_sliceCount hbits]

lemma contains_v4_iff (n : Ipv4Net) (ip : BitVec 32) :
    (IpNet.v4 n).contains (.v4 ip) = true ↔ InNetwork n.addr n.prefixLen ip :=
  decide_eq_true_iff

lemma contains_v6_iff (n : Ipv6Net) (ip : BitVec 128) :
    (IpNet.v6 n).contains (.v6 ip) = true ↔ InNetwork n.addr n.prefixLen ip :=
  decide_eq_true_iff

lemma contains_addr_v4 (n : Ipv4Net) : (IpNet.v4 n).contains (.v4 n.addr) = true :=
  (contains_v4_iff n n.addr).mpr (inNetwork_self n.addr n.le_max)

lemma contains_addr_v6 (n : Ipv6Net) : (IpNet.v6 n).contains (.v6 n.addr) = true :=
  (contains_v6_iff n n.addr).mpr (inNetwork_self n.addr n.le_max)

lemma isSlice_v4_iff (n m : Ipv4Net) : IsSlice (.v4 n) slicePrefix (.v4 m) ↔
      m.prefixLen = slicePrefix ∧ maskNetwork m.addr m.prefixLen = m.addr ∧
        ∀ ip, InNetwork m.addr m.prefixLen ip → InNetwork n.addr n.prefixLen ip := by
  simp only [← contains_v4_iff]
  constructor
  · intro h
    exact ⟨h.prefixLen, h.aligned, fun ip => h.inside (.v4 ip)⟩
  · rintro ⟨hlen, haligned, hinside⟩
    refine ⟨hlen, haligned, ?_⟩
    intro ip hip
    -- a network has addresses of its own family only
    cases ip with
    | v4 ip => exact hinside ip hip
    | v6 ip => cases hip

lemma isSlice_v6_iff (n m : Ipv6Net) : IsSlice (.v6 n) slicePrefix (.v6 m) ↔
      m.prefixLen = slicePrefix ∧ maskNetwork m.addr m.prefixLen = m.addr ∧
        ∀ ip, InNetwork m.addr m.prefixLen ip → InNetwork n.addr n.prefixLen ip := by
  simp only [← contains_v6_iff]
  constructor
  · intro h
    exact ⟨h.prefixLen, h.aligned, fun ip => h.inside (.v6 ip)⟩
  · rintro ⟨hlen, haligned, hinside⟩
    refine ⟨hlen, haligned, ?_⟩
    intro ip hip
    cases ip with
    | v4 ip => cases hip
    | v6 ip => exact hinside ip hip

lemma not_isSlice_v6_of_v4 (n : Ipv4Net) (m : Ipv6Net) :
    ¬ IsSlice (.v4 n) slicePrefix (.v6 m) := by
  intro h
  -- a slice has its own address, and the cluster none of that family
  have hself := h.inside (.v6 m.addr) (contains_addr_v6 m)
  cases hself

lemma not_isSlice_v4_of_v6 (n : Ipv6Net) (m : Ipv4Net) :
    ¬ IsSlice (.v6 n) slicePrefix (.v4 m) := by
  intro h
  have hself := h.inside (.v4 m.addr) (contains_addr_v4 m)
  cases hself

section

variable (hlt : clusterCidr.prefixLen < slicePrefix)
  (hle : slicePrefix ≤ clusterCidr.maxPrefixLen)

include hlt hle

/-- Every slot is a slice, also where there are more slices than slots. -/
lemma isSlice_sliceAt {idx : UInt64}
    (hidx : idx.toNat < 2 ^ (slicePrefix - clusterCidr.prefixLen)) :
    IsSlice clusterCidr slicePrefix (sliceAt clusterCidr slicePrefix hle idx) := by
  cases clusterCidr with
  | v4 n => exact (isSlice_v4_iff n _).mpr ⟨rfl, slice_of_slot n.addr hlt hle hidx⟩
  | v6 n => exact (isSlice_v6_iff n _).mpr ⟨rfl, slice_of_slot n.addr hlt hle hidx⟩

lemma isSlice_iff (hbits : slicePrefix - clusterCidr.prefixLen < 64) (slice : IpNet) :
    IsSlice clusterCidr slicePrefix slice ↔
      ∃ idx < sliceCount clusterCidr slicePrefix,
        slice = sliceAt clusterCidr slicePrefix hle idx := by
  simp only [lt_sliceCount_iff hbits]
  refine ⟨fun h => ?_, ?_⟩
  · cases clusterCidr with
    | v4 n =>
      cases slice with
      | v4 m =>
        rcases m with ⟨addr, len, hlen⟩
        rcases (isSlice_v4_iff n _).mp h with ⟨rfl, hslice⟩
        rcases slot_of_slice hlt hle hbits hslice with ⟨idx, hidx, haddr⟩
        exact ⟨idx, hidx, congrArg IpNet.v4 (Ipv4Net.ext haddr rfl)⟩
      | v6 m => exact absurd h (not_isSlice_v6_of_v4 n m)
    | v6 n =>
      cases slice with
      | v4 m => exact absurd h (not_isSlice_v4_of_v6 n m)
      | v6 m =>
        rcases m with ⟨addr, len, hlen⟩
        rcases (isSlice_v6_iff n _).mp h with ⟨rfl, hslice⟩
        rcases slot_of_slice hlt hle hbits hslice with ⟨idx, hidx, haddr⟩
        exact ⟨idx, hidx, congrArg IpNet.v6 (Ipv6Net.ext haddr rfl)⟩
  · rintro ⟨idx, hidx, rfl⟩
    exact isSlice_sliceAt hlt hle hidx

end

lemma disjoint_of_isSlice {s t : IpNet} (hs : IsSlice clusterCidr slicePrefix s)
    (ht : IsSlice clusterCidr slicePrefix t) (hne : s ≠ t) (ip : IpAddr) :
    ¬ (s.contains ip = true ∧ t.contains ip = true) := by
  rintro ⟨hsip, htip⟩
  refine hne ?_
  have hlen : s.prefixLen = t.prefixLen := hs.prefixLen.trans ht.prefixLen.symm
  -- both are of the family of the common address
  cases s with
  | v4 n =>
    cases t with
    | v4 m =>
      cases ip with
      | v4 ip =>
        rw [contains_v4_iff] at hsip htip
        have haddr := eq_of_inNetwork hlen m.le_max hs.aligned ht.aligned hsip htip
        exact congrArg IpNet.v4 (Ipv4Net.ext haddr hlen)
      | v6 ip => cases hsip
    | v6 m => cases ip <;> first | cases hsip | cases htip
  | v6 n =>
    cases t with
    | v4 m => cases ip <;> first | cases hsip | cases htip
    | v6 m =>
      cases ip with
      | v4 ip => cases hsip
      | v6 ip =>
        rw [contains_v6_iff] at hsip htip
        have haddr := eq_of_inNetwork hlen m.le_max hs.aligned ht.aligned hsip htip
        exact congrArg IpNet.v6 (Ipv6Net.ext haddr hlen)

lemma containsNetworkOf_of_isSlice {slice : IpNet} (h : IsSlice clusterCidr slicePrefix slice) :
    clusterCidr.containsNetworkOf slice = true := by
  have haligned := h.aligned
  cases slice with
  | v4 m =>
    cases clusterCidr with
    | v4 n =>
      have hself := h.inside (.v4 m.addr) (contains_addr_v4 m)
      rw [← haligned] at hself
      exact hself
    | v6 n => exact absurd h (not_isSlice_v4_of_v6 n m)
  | v6 m =>
    cases clusterCidr with
    | v4 n => exact absurd h (not_isSlice_v6_of_v4 n m)
    | v6 n =>
      have hself := h.inside (.v6 m.addr) (contains_addr_v6 m)
      rw [← haligned] at hself
      exact hself

end Cluster

end ZLayer.Overlay
