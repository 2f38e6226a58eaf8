import ZLayer.Overlay.SliceAllocators

/-!
# RestoredSlices — what a snapshot may put into an allocator

`restore` looks at every row of a snapshot by itself: the slice has the slice length, and its
network address lies in the cluster.  It does not ask whether the address of the row is that network
address, nor whether another key has the same slice.  The restored slices are apart, and every later
`assign` keeps clear of them, exactly when the rows have these two properties anyway.
-/

namespace ZLayer.Overlay

open Lib ServiceSubnetRegistry HashMap

/-! ## Valid tables -/

namespace SliceTable

variable {κ : Type} [Ord κ] [Std.TransOrd κ]

/-- Every key holds a slice of the cluster, and no two keys have an address in common. -/
structure Valid (t : SliceTable κ) : Prop where
  isSlice : ∀ (key : κ) (slice : IpNet), t.slices[key]? = some slice →
    IsSlice t.clusterCidr t.slicePrefix slice
  disjoint : ∀ (key other : κ) (s s' : IpNet), key ≠ other → t.slices[key]? = some s →
    t.slices[other]? = some s' → ∀ ip, ¬ (s.contains ip = true ∧ s'.contains ip = true)

variable [Std.LawfulEqOrd κ] {t : SliceTable κ}

lemma Valid.insert (h : t.Valid) {slice : IpNet}
    (his : IsSlice t.clusterCidr t.slicePrefix slice) (hfree : slice ∉ SlotTable.values t.slices)
    (key : κ) : Valid { t with slices := t.slices.insert key slice } := by
  have hapart : ∀ (other : κ) (s : IpNet), t.slices[other]? = some s →
      ∀ ip, ¬ (slice.contains ip = true ∧ s.contains ip = true) := by
    intro other s hs
    refine disjoint_of_isSlice his (h.isSlice other s hs) ?_
    rintro rfl
    exact hfree ((SlotTable.mem_values t.slices).mpr ⟨other, hs⟩)
  constructor
  · intro other s hs
    rcases of_lookup_insert hs with ⟨-, rfl⟩ | ⟨-, hs⟩
    · exact his
    · exact h.isSlice other s hs
  · intro k l s s' hne hs hs' ip hip
    rcases of_lookup_insert hs with ⟨rfl, rfl⟩ | ⟨-, hs⟩ <;>
      rcases of_lookup_insert hs' with ⟨rfl, rfl⟩ | ⟨-, hs'⟩
    · exact hne rfl
    · exact hapart l s' hs' ip hip
    · exact hapart k s hs ip hip.symm
    · exact h.disjoint k l s s' hne hs hs' ip hip

/-- An assignment keeps the table valid, and the key holds what was returned. -/
lemma Valid.assign (h : t.Valid) (hash : κ → UInt64) (key : κ) :
    (t.assign hash key).1.Valid ∧ ∀ slice, (t.assign hash key).2 = .ok slice →
      (t.assign hash key).1.slices[key]? = some slice := by
  classical
  unfold SliceTable.assign
  split
  next slices slice hassign =>
    rcases SlotTable.assign_eq_some hassign with ⟨hheld, rfl⟩ | ⟨hfree, ⟨idx, hidx, rfl⟩, rfl⟩
    · exact ⟨h, fun _ heq => Except.ok.inj heq ▸ hheld⟩
    · have his := isSlice_sliceAt t.cluster_lt_slice t.slice_le_max
        (lt_of_lt_of_le (UInt64.lt_iff_toNat_lt.mp hidx) t.toNat_slots_le)
      exact ⟨h.insert his hfree key, fun _ heq => Except.ok.inj heq ▸ by
        rw [lookup_insert, if_pos rfl]⟩
  next => exact ⟨h, nofun⟩

lemma Valid.release (h : t.Valid) (key : κ) : (t.release key).Valid :=
  ⟨fun other s hs => h.isSlice other s (of_lookup_erase hs).2,
    fun k l s s' hne hs hs' => h.disjoint k l s s' hne (of_lookup_erase hs).2
      (of_lookup_erase hs').2⟩

end SliceTable

/-! ## Later calls -/

section Later

variable {σ κ : Type} [Ord κ] [Std.TransOrd κ]

/-- A call of `assign` or `release`. -/
def callOf (assign : σ → κ → σ × Except OverlayError IpNet) (release : σ → κ → σ) (s : σ) :
    SliceOp κ Empty → σ
  | .assign key => (assign s key).1
  | .release key => release s key
  | .restore order => nomatch order

/-- The slices of the start are valid, and whatever calls follow, no slice that is assigned overlaps
one that another key holds. -/
structure StaysApart (table : σ → SliceTable κ) (assign : σ → κ → σ × Except OverlayError IpNet)
    (release : σ → κ → σ) (start : σ) : Prop where
  valid : (table start).Valid
  later : ∀ (ops : List (SliceOp κ Empty)) (key : κ) (slice : IpNet),
    (assign (ops.foldl (callOf assign release) start) key).2 = .ok slice →
      ∀ (other : κ) (s : IpNet), other ≠ key →
        (table (ops.foldl (callOf assign release) start)).slices[other]? = some s →
          ∀ ip, ¬ (slice.contains ip = true ∧ s.contains ip = true)

lemma staysApart_iff [Std.LawfulEqOrd κ] {table : σ → SliceTable κ} {hash : κ → UInt64}
    {assign : σ → κ → σ × Except OverlayError IpNet} {release : σ → κ → σ}
    (hassign : ∀ s key, table (assign s key).1 = ((table s).assign hash key).1 ∧
      (assign s key).2 = ((table s).assign hash key).2)
    (hrelease : ∀ s key, table (release s key) = (table s).release key) (start : σ) :
    StaysApart table assign release start ↔ (table start).Valid := by
  refine ⟨StaysApart.valid, fun h => ⟨h, ?_⟩⟩
  intro ops key slice hslice other s hne hs ip hip
  have hvalid : (table (ops.foldl (callOf assign release) start)).Valid := by
    refine List.foldlRecOn (motive := fun s => (table s).Valid) ops _ h fun s hs op _ => ?_
    cases op with
    | assign key =>
      simp only [callOf, (hassign s key).1]
      exact (hs.assign hash key).1
    | release key =>
      simp only [callOf, hrelease]
      exact hs.release key
    | restore order => cases order
  rw [(hassign _ key).2] at hslice
  rcases hvalid.assign hash key with ⟨hnext, hkey⟩
  -- a slice that another key holds is still held after the assignment
  have hstill : ((table (ops.foldl (callOf assign release) start)).assign
      hash key).1.slices[other]? =
      some s := by
    classical
    unfold SliceTable.assign
    split
    next hsome =>
      rcases SlotTable.assign_eq_some hsome with ⟨-, rfl⟩ | ⟨-, -, rfl⟩
      · exact hs
      · rw [lookup_insert_of_ne _ _ (Ne.symm hne), hs]
    next => exact hs
  exact hnext.disjoint key other slice s (Ne.symm hne) (hkey slice hslice) hstill ip hip

end Later

/-! ## Rows -/

section Rows

variable {κ : Type} [Ord κ] [Std.TransOrd κ]

/-- The last row of every key has an aligned slice, which no other key has. -/
def CleanRows (rows : List (κ × IpNet)) : Prop :=
  ∀ (key : κ) (slice : IpNet), (ofEntries rows)[key]? = some slice →
    slice.Aligned ∧ ∀ other : κ, (ofEntries rows)[other]? = some slice → other = key

/-- What `restore` checks of a row. -/
def Checked (clusterCidr : IpNet) (slicePrefix : Nat) (slice : IpNet) : Prop :=
  slice.prefixLen = slicePrefix ∧ clusterCidr.containsNetworkOf slice = true

lemma inNetwork_of_maskNetwork {w p q : Nat} {a s ip : BitVec w} (hpq : p < q) (hq : q ≤ w)
    (hs : InNetwork a p (maskNetwork s q)) (hip : InNetwork s q ip) : InNetwork a p ip := by
  have hp : p ≤ w := by omega
  rw [inNetwork_iff hp] at hs ⊢
  rw [inNetwork_iff hq] at hip
  rw [← hs]
  refine div_eq_of_div_eq hpq hq ?_
  rw [hip, toNat_maskNetwork, Nat.mul_div_cancel _ (Nat.two_pow_pos _)]

/-- With its network address the whole slice lies in the cluster. -/
lemma Checked.inside {clusterCidr slice : IpNet} {slicePrefix : Nat}
    (hlt : clusterCidr.prefixLen < slicePrefix) (h : Checked clusterCidr slicePrefix slice)
    (ip : IpAddr) (hip : slice.contains ip = true) : clusterCidr.contains ip = true := by
  rcases h with ⟨rfl, hinside⟩
  cases clusterCidr <;> cases slice <;> cases ip <;> try contradiction
  all_goals
    simp only [IpNet.contains, IpNet.containsNetworkOf, IpNet.prefixLen, decide_eq_true_eq] at *
  next n m ip => exact inNetwork_of_maskNetwork hlt m.le_max hinside hip
  next n m ip => exact inNetwork_of_maskNetwork hlt m.le_max hinside hip

lemma contains_own (slice : IpNet) : ∃ ip, slice.contains ip = true := by
  cases slice with
  | v4 n => exact ⟨_, contains_addr_v4 n⟩
  | v6 n => exact ⟨_, contains_addr_v6 n⟩

lemma valid_iff_cleanRows [Std.LawfulEqOrd κ] {t : SliceTable κ} {rows : List (κ × IpNet)}
    (hslices : t.slices = ofEntries rows)
    (hrows : ∀ row ∈ rows, Checked t.clusterCidr t.slicePrefix row.2) :
    t.Valid ↔ CleanRows rows := by
  have hchecked : ∀ (key : κ) (slice : IpNet), t.slices[key]? = some slice →
      Checked t.clusterCidr t.slicePrefix slice := fun key slice hkey =>
    hrows (key, slice) (mem_of_lookup_ofEntries (hslices ▸ hkey))
  unfold CleanRows
  rw [← hslices]
  constructor
  · intro h key slice hkey
    refine ⟨(h.isSlice key slice hkey).aligned, fun other hother => ?_⟩
    by_contra hne
    rcases contains_own slice with ⟨ip, hip⟩
    exact h.disjoint other key slice slice hne hother hkey ip ⟨hip, hip⟩
  · intro h
    have his : ∀ (key : κ) (slice : IpNet), t.slices[key]? = some slice →
        IsSlice t.clusterCidr t.slicePrefix slice := fun key slice hkey =>
      ⟨(hchecked key slice hkey).1, (h key slice hkey).1,
        (hchecked key slice hkey).inside t.cluster_lt_slice⟩
    refine ⟨his, fun key other s s' hne hs hs' => ?_⟩
    refine disjoint_of_isSlice (his key s hs) (his other s' hs') ?_
    rintro rfl
    exact hne ((h other s hs').2 key hs)

end Rows

/-! ## Restored allocators -/

/-- The rows of a node allocator's snapshot, read. -/
def NodeSliceAllocator.readRows (parse : String → Except String IpNet)
    (rows : List (String × String)) : List (String × IpNet) :=
  rows.filterMap fun row => (parse row.2).toOption.map fun slice => (row.1, slice)

/-- What was restored are the rows that could be read, and they passed the checks. -/
lemma of_restoreInto {κ ρ : Type} [Ord κ] [Std.TransOrd κ] {read : ρ → Except OverlayError IpNet}
    {clusterCidr : IpNet} {slicePrefix : Nat} {rows : List (κ × ρ)}
    {acc assigned : HashMap κ IpNet}
    (h : restoreInto read clusterCidr slicePrefix rows acc = .ok assigned) :
    let slices := rows.filterMap fun row => (read row.2).toOption.map fun slice => (row.1, slice)
    assigned = collectInto (fun _ slice => some slice) slices acc ∧
      ∀ row ∈ slices, Checked clusterCidr slicePrefix row.2 := by
  induction rows generalizing acc with
  | nil =>
    cases h
    exact ⟨rfl, nofun⟩
  | cons row rows ih =>
    rcases row with ⟨key, row⟩
    rw [restoreInto] at h
    cases hread : read row with
    | error e =>
      rw [hread] at h
      cases h
    | ok slice =>
      rw [hread] at h
      dsimp only at h
      split_ifs at h with hlen hinside
      simp only [List.filterMap_cons, hread, Except.toOption, Option.map_some]
      exact ⟨(ih h).1, List.forall_mem_cons.mpr ⟨⟨not_not.mp hlen, hinside⟩, (ih h).2⟩⟩

/-- A restored allocator is valid, and stays so, exactly when the rows of the snapshot are clean. -/
theorem restored_slices_apart_iff (parse : String → Except String IpNet) :
    (∀ s a, NodeSliceAllocator.restore parse s = .ok a →
      (StaysApart NodeSliceAllocator.table NodeSliceAllocator.assign
          (fun a nodeId => (a.release nodeId).1) a ↔
        CleanRows (NodeSliceAllocator.readRows parse s.assigned))) ∧
    (∀ s r, restore s = .ok r →
      (StaysApart table (fun r key => r.assign key.1 key.2)
          (fun r key => (r.release key.1 key.2).1) r ↔
        CleanRows s.assignments)) := by
  constructor
  · intro s a h
    rw [staysApart_iff NodeSliceAllocator.table_assign fun _ _ => rfl]
    unfold NodeSliceAllocator.restore NodeSliceAllocator.new withSlicePrefix at h
    split at h
    · cases h
    next cidr hcidr =>
      split_ifs at h with hlt hle
      dsimp only at h
      split at h
      · cases h
      next assigned hloop =>
        cases h
        have hread (text : String) :
            (NodeSliceAllocator.parseNet parse text).toOption = (parse text).toOption := by
          unfold NodeSliceAllocator.parseNet
          cases parse text <;> rfl
        have hrestored := of_restoreInto hloop
        simp only [hread] at hrestored
        exact valid_iff_cleanRows hrestored.1 hrestored.2
  · intro s r h
    rw [staysApart_iff table_assign fun _ _ => rfl]
    unfold restore new withSlicePrefix at h
    split_ifs at h with hlt hle
    dsimp only at h
    split at h
    · cases h
    next assignments hloop =>
      cases h
      have hrestored := of_restoreInto hloop
      simp only [Except.toOption, Option.map_some, Prod.mk.eta, List.filterMap_some] at hrestored
      exact valid_iff_cleanRows hrestored.1 hrestored.2

/-- A row with the address 10.0.0.5/25 where 10.0.0.0/25 is meant. -/
def hostBitsSnapshot : Snapshot :=
  { clusterCidr := halvedCluster
    slicePrefix := 25
    assignments := [(("web", "1"), .v4 ⟨0x0a000005#32, 25, by decide⟩)] }

/-- The slice with the host bits is not recognized, and its addresses are assigned again. -/
theorem restored_slice_assigned_again : ∃ r slice held,
    restore hostBitsSnapshot = .ok r ∧
      r.assignments[("web", "1")]? = some held ∧ (r.assign "web" "2").2 = .ok slice ∧
        ∃ ip, slice.contains ip = true ∧ held.contains ip = true :=
  ⟨_, _, _, rfl, rfl, rfl, .v4 0x0a000005#32, by decide +kernel⟩

end ZLayer.Overlay
