import ZLayer.Overlay.SliceAllocators

/-!
# ProbeArithmetic — the words of the probing loop

The loop of `assign` computes `start + i` in a `u64`.  A cluster with 64 or more bits between the
prefixes has `u64::MAX` slots, and the sum passes the end of the word once the slots from `start` to
the last one, and then the first one, are found taken.  Shifts and addresses are exact in every
configuration.
-/

namespace ZLayer.Overlay

open Lib

/-- With `u64::MAX` slots the sum leaves the word exactly when the loop passes the last slot and the
first.  The loop gets to iteration `i` when the `i` iterations before find nothing. -/
lemma sum_fits_iff {β : Type} [DecidableEq β] {slot : UInt64 → β} {slots start : UInt64}
    {taken : List β} (hslots : slots.toNat = 2 ^ 64 - 1) (hstart : start < slots) :
    (∀ i < slots.toNat, SlotTable.probe slot slots taken start 0 i = none →
        start.toNat + i < 2 ^ 64) ↔
      start ≤ 1 ∨ ∃ idx < slots, (idx = 0 ∨ start ≤ idx) ∧ slot idx ∉ taken := by
  simp only [SlotTable.probe_eq_none_iff, UInt64.lt_iff_toNat_lt, UInt64.le_iff_toNat_le] at *
  have hzero : UInt64.toNat 0 < slots.toNat := by
    rw [UInt64.toNat_zero]
    omega
  rw [UInt64.toNat_one]
  constructor
  · intro h
    by_contra! hno
    rcases hno with ⟨hone, htaken⟩
    have := h (2 ^ 64 - start.toNat) (by omega) fun k hk => ?_
    · omega
    -- iteration `k` looks at slot `start + k`, or at the first one if `k` is the last
    have hfit : start.toNat + k < 2 ^ 64 := by omega
    by_cases hlast : start.toNat + k = slots.toNat
    · have hvisit : (start + (0 + UInt64.ofNat k)) % slots = 0 :=
        SlotTable.visit_eq hfit hzero (.inr (by rw [hlast, UInt64.toNat_zero, Nat.zero_add]))
      rw [hvisit]
      exact htaken 0 hzero (.inl rfl)
    · have hvisit := SlotTable.toNat_visit hfit slots
      rw [Nat.mod_eq_of_lt (by omega)] at hvisit
      exact htaken _ (by omega) (.inr (by omega))
  · rintro (hone | ⟨idx, hidx, hpos, hfree⟩) i hi htaken
    · omega
    by_contra hover
    -- the iteration that looks at the free slot comes before
    have hvisit : ∃ k < i, start.toNat + k < 2 ^ 64 ∧ (start.toNat + k = idx.toNat ∨
        start.toNat + k = idx.toNat + slots.toNat) := by
      rcases hpos with rfl | hle
      · rw [UInt64.toNat_zero]
        exact ⟨slots.toNat - start.toNat, by omega, by omega, .inr (by omega)⟩
      · exact ⟨idx.toNat - start.toNat, by omega, by omega, .inl (by omega)⟩
    rcases hvisit with ⟨k, hk, hfit, hsum⟩
    exact hfree (SlotTable.visit_eq hfit hidx hsum ▸ htaken k hk)

/-- The address of a network, and that of its first address, as numbers. -/
def IpNet.addrNat : IpNet → Nat
  | .v4 n => n.addr.toNat
  | .v6 n => n.addr.toNat

def IpNet.networkNat : IpNet → Nat
  | .v4 n => (maskNetwork n.addr n.prefixLen).toNat
  | .v6 n => (maskNetwork n.addr n.prefixLen).toNat

namespace SliceTable

variable {κ : Type} [Ord κ] [Std.TransOrd κ]

/-- No sum of the loop leaves the word, the shift is less than the word's width, and the address of
every slot is what it is in the integers. -/
structure ExactProbe (hash : κ → UInt64) (t : SliceTable κ) (key : κ) : Prop where
  sum : t.slices[key]? = none → ∀ i < t.slots.toNat,
    SlotTable.probe t.slot t.slots (SlotTable.values t.slices) (hash key % t.slots) 0 i = none →
      (hash key % t.slots).toNat + i < 2 ^ 64
  shift : t.clusterCidr.maxPrefixLen - t.slicePrefix < t.clusterCidr.maxPrefixLen
  address : ∀ idx < t.slots, (t.slot idx).addrNat = t.clusterCidr.networkNat +
    idx.toNat * 2 ^ (t.clusterCidr.maxPrefixLen - t.slicePrefix)

/-- The key has a slice, or there are fewer than 64 bits between the prefixes, or the loop starts at
one of the first two slots, or a slot from its start on, or the first one, is free. -/
def ProbeFits (hash : κ → UInt64) (t : SliceTable κ) (key : κ) : Prop :=
  t.slices[key]? ≠ none ∨ t.slicePrefix - t.clusterCidr.prefixLen < 64 ∨ hash key % t.slots ≤ 1 ∨
    ∃ idx < t.slots, (idx = 0 ∨ hash key % t.slots ≤ idx) ∧
      t.slot idx ∉ SlotTable.values t.slices

omit [Std.TransOrd κ] in
lemma addrNat_slot (t : SliceTable κ) {idx : UInt64} (hidx : idx < t.slots) :
    (t.slot idx).addrNat = t.clusterCidr.networkNat +
      idx.toNat * 2 ^ (t.clusterCidr.maxPrefixLen - t.slicePrefix) := by
  have hcount := lt_of_lt_of_le (UInt64.lt_iff_toNat_lt.mp hidx) t.toNat_slots_le
  rcases t with ⟨cidr, slicePrefix, slices, hlt, hle⟩
  have hsum : ∀ {w p : Nat} (a : BitVec w), p < slicePrefix → slicePrefix ≤ w →
      idx.toNat < 2 ^ (slicePrefix - p) → (slotAddr a p slicePrefix idx).toNat =
        (maskNetwork a p).toNat + idx.toNat * 2 ^ (w - slicePrefix) := by
    intro w p a hp hw hi
    rw [toNat_slotAddr a hp hw hi, toNat_maskNetwork, two_pow_split hp hw, Nat.add_mul,
      Nat.mul_assoc]
  cases cidr with
  | v4 n | v6 n => exact hsum n.addr hlt hle hcount

lemma exactProbe_iff (hash : κ → UInt64) (t : SliceTable κ) (key : κ) :
    t.ExactProbe hash key ↔ t.ProbeFits hash key := by
  have hpos : 0 < t.slots.toNat := by
    unfold slots sliceCount
    dsimp only
    split_ifs with h
    · decide
    · rw [UInt64.toNat_ofNat_of_lt' (Nat.pow_lt_pow_right Nat.one_lt_two (Nat.not_le.mp h))]
      exact Nat.two_pow_pos _
  have hstart : hash key % t.slots < t.slots := by
    rw [UInt64.lt_iff_toNat_lt, UInt64.toNat_mod]
    exact Nat.mod_lt _ hpos
  have hshift : t.clusterCidr.maxPrefixLen - t.slicePrefix < t.clusterCidr.maxPrefixLen := by
    have := t.cluster_lt_slice
    have := t.slice_le_max
    omega
  have hsum : t.ExactProbe hash key ↔ (t.slices[key]? = none → ∀ i < t.slots.toNat,
      SlotTable.probe t.slot t.slots (SlotTable.values t.slices) (hash key % t.slots) 0 i = none →
        (hash key % t.slots).toNat + i < 2 ^ 64) :=
    ⟨ExactProbe.sum, fun h => ⟨h, hshift, fun _ => t.addrNat_slot⟩⟩
  rw [hsum, ProbeFits, ← imp_iff_not_or]
  refine imp_congr_right fun _ => ?_
  by_cases hbits : t.slicePrefix - t.clusterCidr.prefixLen < 64
  · refine iff_of_true (fun i hi _ => ?_) (.inl hbits)
    rw [UInt64.lt_iff_toNat_lt] at hstart
    have hle : 2 ^ (t.slicePrefix - t.clusterCidr.prefixLen) ≤ 2 ^ 63 :=
      Nat.pow_le_pow_right (by omega) (by omega)
    have := t.toNat_slots_le
    omega
  · have hslots : t.slots.toNat = 2 ^ 64 - 1 := by
      simp only [slots, sliceCount, if_pos (Nat.not_lt.mp hbits)]
      rfl
    rw [sum_fits_iff hslots hstart, or_iff_right hbits]

end SliceTable

/-- When the arithmetic of the two `assign`s is exact. -/
theorem probe_arithmetic_exact_iff (a : NodeSliceAllocator) (nodeId : String)
    (r : ServiceSubnetRegistry) (key : String × String) :
    (a.table.ExactProbe hashNodeId nodeId ↔ a.table.ProbeFits hashNodeId nodeId) ∧
      (r.table.ExactProbe ServiceSubnetRegistry.hashKey key ↔
        r.table.ProbeFits ServiceSubnetRegistry.hashKey key) :=
  ⟨a.table.exactProbe_iff hashNodeId nodeId,
    r.table.exactProbe_iff ServiceSubnetRegistry.hashKey key⟩

/-- All of IPv6 in /64 slices, of which the last slot and the first one are taken. -/
def wideAllocator : NodeSliceAllocator :=
  { clusterCidr := .v6 ⟨0#128, 0, by decide⟩
    slicePrefix := 64
    assigned := HashMap.ofEntries
      [("a", .v6 ⟨0xfffffffffffffffe0000000000000000#128, 64, by decide⟩),
        ("b", .v6 ⟨0#128, 64, by decide⟩)]
    cluster_lt_slice := by decide
    slice_le_max := by decide }

/-- The loop for this node id starts at the last slot, and its third sum is 2 ^ 64. -/
theorem probe_sum_overflows : ¬ wideAllocator.table.ExactProbe hashNodeId "7S[5HGeU=?J" := by
  intro h
  have := h.sum (by decide +kernel) 2 (by decide +kernel) (by decide +kernel)
  revert this
  decide +kernel

end ZLayer.Overlay
