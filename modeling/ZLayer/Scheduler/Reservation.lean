import ZLayer.Scheduler.Placement

/-!
# Reservation — what a pass takes from each node

A pass changes a node only by reserving the requests of the replicas it puts there, and the
reservation depends on the node's own state alone.  So after a pass a node is its start state with
one reservation for each replica placed on it, and a replica was accepted by the state the earlier
ones had left.
-/

namespace ZLayer.Scheduler

open Lib List NodeState

variable {F : Type} [F64 F]

/-! ## Granting GPUs -/

lemma toNat_succ_of_lt {a b : UInt32} (h : a < b) : (a + 1).toNat = a.toNat + 1 := by
  rw [UInt32.toNat_add]
  exact Nat.mod_eq_of_lt (Nat.lt_of_le_of_lt (UInt32.lt_iff_toNat_lt.mp h) b.toNat_lt)

/-- A grant takes the whole GPU or a share of it. -/
lemma GpuAllocation.grant_cases (sharing : Option GpuSharingMode) :
    ((sharing = none || sharing = some .exclusive) = true ∧ grant sharing = fun _ => .exclusive) ∨
      (sharing = none || sharing = some .exclusive) = false ∧
        ∃ max, 1 ≤ max ∧ grant sharing = grantShare max := by
  cases sharing with
  | none => exact .inl ⟨rfl, rfl⟩
  | some mode =>
    cases mode with
    | exclusive => exact .inl ⟨rfl, rfl⟩
    | mps => exact .inr ⟨rfl, 8, by decide, rfl⟩
    | timeSlice => exact .inr ⟨rfl, 4, by decide, rfl⟩

namespace NodeResources

lemma pickGpus_eq {count i : ℕ} {slots : List GpuAllocation} {acc : List UInt32}
    (h : acc.length < count) :
    pickGpus count slots i acc = acc ++
      ((slots.findIdxs GpuAllocation.isAvailable i).take (count - acc.length)).map
        UInt32.ofNat := by
  induction slots generalizing i acc with
  | nil => simp [pickGpus]
  | cons slot rest ih =>
    rw [pickGpus, findIdxs_cons]
    by_cases havail : slot.isAvailable = true
    · have hpos : count - acc.length = (count - (acc ++ [UInt32.ofNat i]).length) + 1 := by
        rw [length_append, length_singleton]
        omega
      rw [if_pos havail, if_pos havail, hpos, take_succ_cons]
      dsimp only
      split
      next hfull => simp [hfull]
      next hmore =>
        rw [ih (by rw [length_append, length_singleton] at hmore ⊢; omega)]
        simp
    · rw [if_neg havail, if_neg havail, ih h]

lemma map_toNat_pickGpus {count : ℕ} {slots : List GpuAllocation} (hcount : 0 < count)
    (hslots : slots.length ≤ 2 ^ 32) : (pickGpus count slots 0 []).map UInt32.toNat =
      (slots.findIdxs GpuAllocation.isAvailable).take count := by
  rw [pickGpus_eq hcount, nil_append, map_map]
  refine (map_congr_left ?_).trans (map_id' _)
  intro k hk
  have hlt := lt_add_of_mem_findIdxs k (mem_of_mem_take hk)
  exact UInt32.toNat_ofNat_of_lt' (lt_of_lt_of_le (by simpa using hlt) hslots)

lemma available_of_mem_findIdxs {slots : List GpuAllocation} {k : ℕ}
    (hk : k ∈ slots.findIdxs GpuAllocation.isAvailable) :
    ∃ slot, slots[k]? = some slot ∧ slot.isAvailable = true := by
  obtain ⟨hlt, havail⟩ := mem_findIdxs_iff_exists_getElem_pos.mp hk
  exact ⟨_, List.getElem?_eq_getElem hlt, havail⟩

lemma length_updateGpus (f : GpuAllocation → GpuAllocation) (indices : List UInt32)
    (slots : List GpuAllocation) : (updateGpus f indices slots).length = slots.length := by
  induction indices generalizing slots with
  | nil => rfl
  | cons i rest ih =>
    calc (updateGpus f (i :: rest) slots).length
        = (slots.modify i.toNat f).length := ih _
      _ = slots.length := length_modify ..

/-- Distinct entries are rewritten once each. -/
lemma lookup_updateGpus {f : GpuAllocation → GpuAllocation} {indices : List UInt32}
    (hnodup : (indices.map UInt32.toNat).Nodup) (slots : List GpuAllocation) (k : ℕ) :
    (updateGpus f indices slots)[k]? =
      if k ∈ indices.map UInt32.toNat then slots[k]?.map f else slots[k]? := by
  induction indices generalizing slots with
  | nil => rfl
  | cons i rest ih =>
    obtain ⟨hnew, hrest⟩ := nodup_cons.mp hnodup
    have hstep : (updateGpus f (i :: rest) slots)[k]? =
        (updateGpus f rest (slots.modify i.toNat f))[k]? := rfl
    rw [hstep, ih hrest, List.getElem?_modify]
    by_cases hi : i.toNat = k
    · subst hi
      simp [hnew]
    · simp [hi, Ne.symm hi]

end NodeResources

def ServiceSpec.gpuExclusive (spec : ServiceSpec F) : Bool :=
  spec.gpuSharing = none || spec.gpuSharing = some .exclusive

namespace NodeState

/-- The GPUs a replica is granted on the node, and the resources that are left. -/
def reservation (spec : ServiceSpec F) (n : NodeState F) : List UInt32 × NodeResources F :=
  reserveGpus spec.gpuCount spec.gpuSharing
    (reserveCpuMem spec.cpuReserved spec.memRequest n.resources)

def reserve (spec : ServiceSpec F) (n : NodeState F) : NodeState F :=
  { n with resources := (n.reservation spec).2 }

variable {spec : ServiceSpec F} {n : NodeState F}

/-- Either nothing is granted and the GPUs stay as they are, or the picked ones are marked. -/
lemma reservation_cases (spec : ServiceSpec F) (n : NodeState F) : ((n.reservation spec).1 = [] ∧
      (n.reservation spec).2 =
        reserveCpuMem spec.cpuReserved spec.memRequest n.resources) ∨
    ∃ slots,
      (n.reservation spec).1 =
        NodeResources.pickGpus spec.gpuCount.toNat n.resources.gpuAllocated 0 [] ∧
      slots = NodeResources.updateGpus (GpuAllocation.grant spec.gpuSharing)
        (n.reservation spec).1 n.resources.gpuAllocated ∧
      (n.reservation spec).2 =
        { reserveCpuMem spec.cpuReserved spec.memRequest n.resources with
          gpuAllocated := slots
          gpuUsed := NodeResources.countUsed slots } ∧
      0 < spec.gpuCount := by
  unfold reservation reserveGpus
  by_cases hcount : 0 < spec.gpuCount
  · simp only [if_pos hcount, NodeResources.allocateGpus]
    split
    · exact .inr ⟨_, rfl, rfl, rfl, hcount⟩
    · exact .inl ⟨rfl, rfl⟩
  · exact .inl ⟨by rw [if_neg hcount], by rw [if_neg hcount]⟩

variable {g : UInt32}

lemma gpuCount_pos_of_granted (hg : g ∈ (n.reservation spec).1) : 0 < spec.gpuCount := by
  rcases reservation_cases spec n with ⟨hnil, -⟩ | ⟨slots, -, -, -, hpos⟩
  · rw [hnil] at hg
    cases hg
  · exact hpos

/-- The granted GPUs are the first available ones. -/
lemma map_toNat_reservation (spec : ServiceSpec F)
    (hslots : n.resources.gpuAllocated.length ≤ 2 ^ 32) : (n.reservation spec).1 = [] ∨
    (n.reservation spec).1.map UInt32.toNat =
      (n.resources.gpuAllocated.findIdxs GpuAllocation.isAvailable).take spec.gpuCount.toNat := by
  rcases reservation_cases spec n with ⟨hnil, -⟩ | ⟨slots, hpick, -, -, hpos⟩
  · exact .inl hnil
  · rw [hpick]
    exact .inr (NodeResources.map_toNat_pickGpus hpos hslots)

lemma nodup_reservation (hslots : n.resources.gpuAllocated.length ≤ 2 ^ 32) :
    ((n.reservation spec).1.map UInt32.toNat).Nodup := by
  rcases map_toNat_reservation spec hslots with hnil | heq
  · rw [hnil]
    exact nodup_nil
  · rw [heq]
    exact nodup_findIdxs.sublist (take_sublist _ _)

lemma available_of_granted (hslots : n.resources.gpuAllocated.length ≤ 2 ^ 32)
    (hg : g ∈ (n.reservation spec).1) :
    ∃ slot, n.resources.gpuAllocated[g.toNat]? = some slot ∧ slot.isAvailable = true := by
  have hmem := mem_map_of_mem (f := UInt32.toNat) hg
  rcases map_toNat_reservation spec hslots with hnil | heq
  · rw [hnil] at hg
    cases hg
  · rw [heq] at hmem
    exact NodeResources.available_of_mem_findIdxs (mem_of_mem_take hmem)

omit [F64 F] in
lemma grant_of_gpuExclusive (h : spec.gpuExclusive = true) :
    GpuAllocation.grant spec.gpuSharing = fun _ => .exclusive := by
  rcases GpuAllocation.grant_cases spec.gpuSharing with ⟨-, hgrant⟩ | ⟨hfalse, -⟩
  · exact hgrant
  · exact absurd h (Bool.eq_false_iff.mp hfalse)

/-- An exclusive reservation takes the granted GPUs, and those taken before stay taken. -/
lemma exclusive_after_reserve (hexcl : spec.gpuExclusive = true)
    (hslots : n.resources.gpuAllocated.length ≤ 2 ^ 32)
    (h : g ∈ (n.reservation spec).1 ∨ n.resources.gpuAllocated[g.toNat]? = some .exclusive) :
    (n.reserve spec).resources.gpuAllocated[g.toNat]? = some .exclusive := by
  rcases reservation_cases spec n with ⟨hnil, hsame⟩ | ⟨slots, -, hslotsEq, hres, -⟩
  · rw [reserve, hsame]
    rcases h with hg | hold
    · rw [hnil] at hg
      cases hg
    · exact hold
  · -- The update marks the picked entries and leaves the others.
    have hafter : (n.reserve spec).resources.gpuAllocated = slots := by rw [reserve, hres]
    rw [hafter, hslotsEq, grant_of_gpuExclusive hexcl,
      NodeResources.lookup_updateGpus (nodup_reservation hslots)]
    rcases h with hg | hold
    · obtain ⟨slot, hslot, -⟩ := available_of_granted hslots hg
      rw [if_pos (mem_map_of_mem hg), hslot]
      rfl
    · rw [hold]
      simp

/-! ## What a reservation leaves alone -/

lemma admits_reserve (lowercase : String → String) (other : ServiceSpec F) :
    admits lowercase other (n.reserve spec) = admits lowercase other n := by
  have hres : (n.reserve spec).resources = (n.reservation spec).2 := rfl
  have hgpu : (n.reserve spec).resources.gpuVendor = n.resources.gpuVendor ∧
      (n.reserve spec).resources.gpuModels = n.resources.gpuModels := by
    rcases reservation_cases spec n with ⟨-, hsame⟩ | ⟨slots, -, -, hafter, -⟩
    · rw [hres, hsame]
      exact ⟨rfl, rfl⟩
    · rw [hres, hafter]
      exact ⟨rfl, rfl⟩
  unfold admits gpuKindMatches
  rw [hgpu.1, hgpu.2]
  rfl

lemma slots_reserve :
    (n.reserve spec).resources.gpuAllocated.length = n.resources.gpuAllocated.length ∧
      (n.reserve spec).resources.gpuTotal = n.resources.gpuTotal := by
  have hres : (n.reserve spec).resources = (n.reservation spec).2 := rfl
  rcases reservation_cases spec n with ⟨-, hsame⟩ | ⟨slots, -, hslots, hafter, -⟩
  · rw [hres, hsame]
    exact ⟨rfl, rfl⟩
  · rw [hres, hafter, hslots]
    exact ⟨NodeResources.length_updateGpus _ _ _, rfl⟩

end NodeState

/-! ## The nodes during a pass -/

def takenOn (decisions : List (PlacementDecision F)) (id : NodeId) : ℕ :=
  decisions.countP fun d => d.nodeId = some id

omit [F64 F] in
/-- With distinct ids the first node with an id is the only one. -/
lemma updateNode_eq_map {nodes : List (NodeState F)} (hids : (nodes.map (·.id)).Nodup)
    (id : NodeId) (f : NodeState F → NodeState F) :
    updateNode id f nodes = nodes.map fun n => if n.id = id then f n else n := by
  induction nodes with
  | nil => rfl
  | cons n rest ih =>
    obtain ⟨hnew, hrest⟩ := nodup_cons.mp hids
    by_cases hn : n.id = id
    · have hsame : rest.map (fun n => if n.id = id then f n else n) = rest := by
        refine (map_congr_left ?_).trans (map_id' rest)
        intro m hm
        refine if_neg fun hmid => hnew ?_
        exact mem_map.mpr ⟨m, hm, hmid.trans hn.symm⟩
      rw [updateNode, if_pos hn, map_cons, if_pos hn, hsame]
    · rw [updateNode, if_neg hn, map_cons, if_neg hn, ih hrest]

omit [F64 F] in
lemma find?_id_of_mem {nodes : List (NodeState F)} (hids : (nodes.map (·.id)).Nodup)
    {m : NodeState F} (hm : m ∈ nodes) : nodes.find? (fun n => n.id = m.id) = some m := by
  induction nodes with
  | nil => cases hm
  | cons n rest ih =>
    obtain ⟨hnew, hrest⟩ := nodup_cons.mp hids
    rcases mem_cons.mp hm with rfl | htail
    · simp
    · have hne : ¬n.id = m.id := by
        intro heq
        exact hnew (mem_map.mpr ⟨m, htail, heq.symm⟩)
      rw [List.find?_cons_of_neg (by simpa using hne)]
      exact ih hrest htail

variable {nodes : List (NodeState F)}

lemma reserveNodeResources_of_mem (spec : ServiceSpec F) (hids : (nodes.map (·.id)).Nodup)
    {m : NodeState F} (hm : m ∈ nodes) :
    reserveNodeResources nodes m.id spec.cpuReserved spec.memRequest spec.gpuCount
        spec.gpuSharing =
      ((m.reservation spec).1,
        nodes.map fun n => if n.id = m.id then n.reserve spec else n) := by
  have hsame : ∀ n ∈ nodes, n.id = m.id → n = m := fun n hn hid =>
    inj_on_of_nodup_map hids hn hm hid
  unfold reserveNodeResources
  simp only [find?_id_of_mem hids hm, updateNode_eq_map hids]
  refine Prod.ext rfl (map_congr_left ?_)
  intro n hn
  by_cases hid : n.id = m.id
  · rw [if_pos hid, if_pos hid, hsame n hn hid]
    rfl
  · rw [if_neg hid, if_neg hid]

/-! ### Lists that may repeat an id -/

omit [F64 F] in
lemma mem_updateNode {id : NodeId} {f : NodeState F → NodeState F} {nodes : List (NodeState F)}
    {n : NodeState F} (h : n ∈ updateNode id f nodes) :
    n ∈ nodes ∨ ∃ m, nodes.find? (fun n => n.id = id) = some m ∧ n = f m := by
  induction nodes with
  | nil => cases h
  | cons a rest ih =>
    by_cases ha : a.id = id
    · rw [updateNode, if_pos ha] at h
      rcases mem_cons.mp h with hnew | hrest
      · exact .inr ⟨a, List.find?_cons_of_pos (by simpa using ha), hnew⟩
      · exact .inl (mem_cons_of_mem a hrest)
    · rw [updateNode, if_neg ha] at h
      rcases mem_cons.mp h with rfl | hrest
      · exact .inl mem_cons_self
      · rcases ih hrest with hold | ⟨m, hm, hn⟩
        · exact .inl (mem_cons_of_mem a hold)
        · exact .inr ⟨m, by rwa [List.find?_cons_of_neg (by simpa using ha)], hn⟩

/-- Every node after a reservation is one of the nodes before it, up to what it reserves. -/
lemma mem_reserveNodeResources {spec : ServiceSpec F} {id : NodeId} {n : NodeState F}
    (h : n ∈ (reserveNodeResources nodes id spec.cpuReserved spec.memRequest spec.gpuCount
      spec.gpuSharing).2) :
    ∃ m ∈ nodes, n = m ∨ n = m.reserve spec := by
  unfold reserveNodeResources at h
  cases hfind : nodes.find? fun n => n.id = id with
  | none =>
    simp only [hfind] at h
    exact ⟨n, h, .inl rfl⟩
  | some node =>
    simp only [hfind] at h
    rcases mem_updateNode h with hold | ⟨m, hm, hn⟩
    · exact ⟨n, hold, .inl rfl⟩
    · rw [hfind] at hm
      obtain rfl : node = m := Option.some.inj hm
      exact ⟨node, mem_of_find?_eq_some hfind, .inr hn⟩

/-! ### Lists with distinct ids -/

/-- What a pass over `start` has done so far. -/
structure Reserved (lowercase : String → String) (service : String) (spec : ServiceSpec F)
    (start : List (NodeState F)) (pass : Pass F) : Prop where
  nodes_eq : pass.nodes =
    start.map fun n => (reserve spec)^[takenOn pass.decisions n.id] n
  /-- A placed replica was accepted by its node as the earlier replicas had left it. -/
  placed : ∀ (j : ℕ) (d : PlacementDecision F) (id : NodeId),
    pass.decisions[j]? = some d → d.nodeId = some id →
      ∃ n ∈ start, n.id = id ∧ ∃ placements,
        Suitable lowercase service spec placements
          ((reserve spec)^[takenOn (pass.decisions.take j) id] n) ∧
        d.gpuIndices = (((reserve spec)^[takenOn (pass.decisions.take j) id]
          n).reservation spec).1

section Loop

variable {lowercase : String → String} {service : String} {spec : ServiceSpec F}
  {start : List (NodeState F)}

lemma id_iterate_reserve (k : ℕ) (n : NodeState F) :
    ((reserve spec)^[k] n).id = n.id := by
  induction k with
  | zero => rfl
  | succ k ih => rw [Function.iterate_succ_apply']; exact ih

lemma slots_iterate_reserve (spec : ServiceSpec F) (k : ℕ) (n : NodeState F) :
    ((reserve spec)^[k] n).resources.gpuAllocated.length =
        n.resources.gpuAllocated.length ∧
      ((reserve spec)^[k] n).resources.gpuTotal = n.resources.gpuTotal := by
  induction k with
  | zero => exact ⟨rfl, rfl⟩
  | succ k ih =>
    rw [Function.iterate_succ_apply', slots_reserve.1, slots_reserve.2]
    exact ih

lemma admits_iterate_reserve (other : ServiceSpec F) (k : ℕ) (n : NodeState F) :
    admits lowercase other ((reserve spec)^[k] n) = admits lowercase other n := by
  induction k with
  | zero => rfl
  | succ k ih => rw [Function.iterate_succ_apply', admits_reserve, ih]

variable {n : NodeState F}

/-- A GPU granted exclusively is not granted again on the same node. -/
lemma granted_once (hexcl : spec.gpuExclusive = true)
    (hslots : n.resources.gpuAllocated.length ≤ 2 ^ 32) {a b : ℕ} (hab : a < b) {g : UInt32}
    (hg : g ∈ (((reserve spec)^[a] n).reservation spec).1) :
    g ∉ (((reserve spec)^[b] n).reservation spec).1 := by
  have hlen : ∀ k, ((reserve spec)^[k] n).resources.gpuAllocated.length ≤ 2 ^ 32 :=
    fun k => (slots_iterate_reserve spec k n).1 ▸ hslots
  -- From the grant on the GPU is marked exclusive.
  have hmarked : ((reserve spec)^[b] n).resources.gpuAllocated[g.toNat]? =
      some .exclusive := by
    induction b, hab using Nat.le_induction with
    | base =>
      rw [Function.iterate_succ_apply']
      exact exclusive_after_reserve hexcl (hlen a) (.inl hg)
    | succ b _ ih =>
      rw [Function.iterate_succ_apply']
      exact exclusive_after_reserve hexcl (hlen b) (.inr ih)
  intro hagain
  obtain ⟨slot, hslot, havail⟩ := available_of_granted (hlen b) hagain
  rw [hmarked] at hslot
  rw [← Option.some.inj hslot] at havail
  cases havail

variable {pass : Pass F}

lemma Reserved.ids_eq (h : Reserved lowercase service spec start pass) :
    pass.nodes.map (·.id) = start.map (·.id) := by
  rw [h.nodes_eq, map_map]
  refine map_congr_left ?_
  intro n _
  exact id_iterate_reserve _ n

omit [F64 F] in
lemma takenOn_append_singleton (decisions : List (PlacementDecision F))
    (d : PlacementDecision F) (id : NodeId) :
    takenOn (decisions ++ [d]) id =
      takenOn decisions id + if d.nodeId = some id then 1 else 0 := by
  simp [takenOn, countP_append, countP_cons]

omit [F64 F] in
lemma takenOn_append_of_none (decisions : List (PlacementDecision F))
    {d : PlacementDecision F} (hd : d.nodeId = none) (id : NodeId) :
    takenOn (decisions ++ [d]) id = takenOn decisions id := by
  rw [takenOn_append_singleton, hd, if_neg (by simp), Nat.add_zero]

lemma takenOn_placeOn (pass : Pass F) (replica : UInt32) (m : NodeState F) (id : NodeId) :
    takenOn (placeOn service spec pass replica m).decisions id =
      takenOn pass.decisions id + if m.id = id then 1 else 0 := by
  refine (takenOn_append_singleton _ _ _).trans ?_
  simp only [Option.some.injEq]

omit [F64 F] in
/-- A placed replica counts from the next decision on. -/
lemma takenOn_take_lt {decisions : List (PlacementDecision F)} {j k : ℕ} (hjk : j < k)
    {d : PlacementDecision F} {id : NodeId} (hj : decisions[j]? = some d)
    (hd : d.nodeId = some id) : takenOn (decisions.take j) id < takenOn (decisions.take k) id := by
  have hsnoc : decisions.take (j + 1) = decisions.take j ++ [d] := by
    rw [take_add_one, hj]
    rfl
  calc takenOn (decisions.take j) id
      < takenOn (decisions.take j) id + 1 := Nat.lt_succ_self _
    _ = takenOn (decisions.take (j + 1)) id := by
        rw [hsnoc, takenOn_append_singleton, if_pos hd]
    _ ≤ takenOn (decisions.take k) id :=
        (take_sublist_take_left hjk).countP_le

omit [F64 F] in
lemma lookup_append_singleton {l : List (PlacementDecision F)} {new d : PlacementDecision F}
    {i : ℕ} (h : (l ++ [new])[i]? = some d) :
    i < l.length ∧ l[i]? = some d ∨ i = l.length ∧ d = new := by
  by_cases hlt : i < l.length
  · exact .inl ⟨hlt, by rwa [List.getElem?_append_left hlt] at h⟩
  · rw [List.getElem?_append_right (Nat.not_lt.mp hlt)] at h
    have hbound := (List.getElem?_eq_some_iff.mp h).1
    rw [length_singleton] at hbound
    exact .inr ⟨by omega, mem_singleton.mp (mem_of_getElem? h)⟩

lemma Reserved.unplaced (h : Reserved lowercase service spec start pass)
    {d : PlacementDecision F} (hd : d.nodeId = none) :
    Reserved lowercase service spec start { pass with decisions := pass.decisions ++ [d] } := by
  refine ⟨?_, ?_⟩
  · rw [h.nodes_eq]
    refine map_congr_left ?_
    intro n _
    rw [takenOn_append_of_none _ hd]
  · intro j d' id hj hid
    rcases lookup_append_singleton hj with ⟨hlt, hj⟩ | ⟨-, rfl⟩
    · rw [take_append_of_le_length hlt.le]
      exact h.placed j d' id hj hid
    · -- The new decision names no node.
      rw [hd] at hid
      cases hid

variable {m : NodeState F}

lemma nodes_placeOn (hids : (pass.nodes.map (·.id)).Nodup) (hm : m ∈ pass.nodes)
    (replica : UInt32) : (placeOn service spec pass replica m).nodes =
      pass.nodes.map fun n => if n.id = m.id then n.reserve spec else n := by
  simp only [placeOn, reserveNodeResources_of_mem spec hids hm]

lemma Reserved.placeOn (h : Reserved lowercase service spec start pass)
    (hids : (start.map (·.id)).Nodup)
    (hm : m ∈ suitableNodes lowercase service spec pass.nodes pass.placements) (replica : UInt32) :
    Reserved lowercase service spec start (placeOn service spec pass replica m) := by
  have hmem := mem_of_mem_suitableNodes hm
  have hnodup : (pass.nodes.map (·.id)).Nodup := h.ids_eq ▸ hids
  -- The selected node is a start node with the reservations made so far.
  obtain ⟨n, hn, hstate⟩ : ∃ n ∈ start,
      (reserve spec)^[takenOn pass.decisions n.id] n = m := by
    rw [h.nodes_eq] at hmem
    exact mem_map.mp hmem
  have hnid : n.id = m.id := by rw [← hstate, id_iterate_reserve]
  have hmemPass := mem_of_mem_suitableNodes hm
  refine ⟨?_, ?_⟩
  · rw [nodes_placeOn hnodup hmemPass, h.nodes_eq, map_map]
    refine map_congr_left ?_
    intro k _
    rw [takenOn_placeOn, Function.comp_apply, id_iterate_reserve]
    by_cases hk : k.id = m.id
    · rw [if_pos hk, if_pos hk.symm, Function.iterate_succ_apply']
    · rw [if_neg hk, if_neg (Ne.symm hk), Nat.add_zero]
  · intro j d id hj hid
    simp only [Scheduler.placeOn, reserveNodeResources_of_mem spec hnodup hmemPass] at hj ⊢
    rcases lookup_append_singleton hj with ⟨hlt, hj⟩ | ⟨hj0, rfl⟩
    · rw [take_append_of_le_length hlt.le]
      exact h.placed j d id hj hid
    · -- The new decision comes last, with all earlier ones before it.
      rw [hj0, take_left']
      · rw [← Option.some.inj hid, ← hnid]
        refine ⟨n, hn, rfl, pass.placements, ?_⟩
        rw [hstate]
        exact ⟨suitable_of_mem hm, rfl⟩
      · rfl

/-- Induction along a pass over nodes with distinct ids, of which it is known what they reserve. -/
lemma reserved_rec {P : ℕ → Pass F → Prop} (hids : (start.map (·.id)).Nodup)
    {replicas : UInt32} {placements : PlacementState}
    (hstart : P 0 { nodes := start, placements := placements, decisions := [] })
    (hnone : ∀ i pass, Reserved lowercase service spec start pass → P i pass →
      suitableNodes lowercase service spec pass.nodes pass.placements = [] →
      P (i + 1) { pass with
        decisions := pass.decisions ++
          [unplacedDecision service spec pass.nodes (UInt32.ofNat i)] })
    (hplace : ∀ i < replicas.toNat, ∀ pass, Reserved lowercase service spec start pass →
      P i pass → ∀ m, Selected lowercase service spec pass m →
        P (i + 1) (Scheduler.placeOn service spec pass (UInt32.ofNat i) m)) :
    Reserved lowercase service spec start
        (placeLoop lowercase service spec replicas start placements) ∧
      P replicas.toNat (placeLoop lowercase service spec replicas start placements) := by
  refine placeLoop_rec lowercase service spec
    (P := fun i pass => Reserved lowercase service spec start pass ∧ P i pass)
    ⟨⟨(map_id' start).symm, fun j d id hj => by simp at hj⟩, hstart⟩ ?_ ?_
  · rintro i pass ⟨hres, hP⟩ hempty
    exact ⟨hres.unplaced rfl, hnone i pass hres hP hempty⟩
  · rintro i hi pass ⟨hres, hP⟩ m hm
    exact ⟨hres.placeOn hids hm.mem _, hplace i hi pass hres hP m hm⟩

/-! ## Replicas one node can take -/

/-- In shared mode the filter looks at the node alone. -/
def accepts (lowercase : String → String) (service : String) (spec : ServiceSpec F)
    (n : NodeState F) : Bool :=
  canPlaceOnNode lowercase n service .shared spec.nodeSelector .empty (some spec) &&
    affinityAdmits spec.effectiveAffinity n

/-- How many of `k` replicas the node can take one after the other. -/
def room (lowercase : String → String) (service : String) (spec : ServiceSpec F)
    (n : NodeState F) : ℕ → ℕ
  | 0 => 0
  | k + 1 =>
    let taken := room lowercase service spec n k
    if accepts lowercase service spec ((reserve spec)^[taken] n) then taken + 1
    else taken

lemma mem_suitableNodes_of_shared (hmode : spec.nodeMode = .shared) {nodes : List (NodeState F)}
    {placements : PlacementState} :
    m ∈ suitableNodes lowercase service spec nodes placements ↔
      m ∈ nodes ∧ accepts lowercase service spec m = true := by
  simp only [suitableNodes, mem_filter, accepts, canPlaceOnNode, hmode, Bool.and_eq_true,
    and_assoc]

lemma room_le_succ (n : NodeState F) (k : ℕ) :
    room lowercase service spec n k ≤ room lowercase service spec n (k + 1) := by
  simp only [room]
  split
  · exact Nat.le_succ _
  · exact Nat.le_refl _

/-- A pass in shared mode puts no more replicas on a node than the node can take alone. -/
lemma takenOn_placeLoop_le (hids : (start.map (·.id)).Nodup) (hmode : spec.nodeMode = .shared)
    (replicas : UInt32) (placements : PlacementState) (hn : n ∈ start) :
    takenOn (placeLoop lowercase service spec replicas start placements).decisions n.id ≤
      room lowercase service spec n replicas.toNat := by
  refine (reserved_rec
    (P := fun i pass => takenOn pass.decisions n.id ≤ room lowercase service spec n i)
    hids (Nat.zero_le _) ?_ ?_).2
  · intro i pass _ hle _
    rw [takenOn_append_of_none _ rfl]
    exact hle.trans (room_le_succ n i)
  · intro i _ pass hres hle m hm
    rw [takenOn_placeOn]
    by_cases hid : m.id = n.id
    · -- The node accepts one more replica after those it has.
      obtain ⟨hmem, haccepts⟩ := (mem_suitableNodes_of_shared hmode).mp hm.mem
      rw [hres.nodes_eq] at hmem
      obtain ⟨k, hk, rfl⟩ := mem_map.mp hmem
      rw [inj_on_of_nodup_map hids hk hn ((id_iterate_reserve ..).symm.trans hid)] at haccepts
      rw [if_pos hid]
      rcases Nat.lt_or_eq_of_le hle with hlt | heq
      · exact (Nat.succ_le_of_lt hlt).trans (room_le_succ n i)
      · simp only [room, ← heq, haccepts, if_true]
        exact Nat.le_refl _
    · rw [if_neg hid, Nat.add_zero]
      exact hle.trans (room_le_succ n i)

/-- A node that is alone takes as many replicas as it can. -/
lemma takenOn_placeLoop_singleton (hmode : spec.nodeMode = .shared) (replicas : UInt32)
    (placements : PlacementState) (n : NodeState F) :
    takenOn (placeLoop lowercase service spec replicas [n] placements).decisions n.id =
      room lowercase service spec n replicas.toNat := by
  have hids : (([n] : List (NodeState F)).map (·.id)).Nodup := nodup_singleton _
  refine (reserved_rec
    (P := fun i pass => takenOn pass.decisions n.id = room lowercase service spec n i)
    hids rfl ?_ ?_).2
  · intro i pass hres htaken hempty
    -- No node was suitable, so the node refuses the next replica.
    have hrefuses : accepts lowercase service spec
        ((reserve spec)^[room lowercase service spec n i] n) = false := by
      by_contra haccepts
      have hmem : (reserve spec)^[room lowercase service spec n i] n ∈
          suitableNodes lowercase service spec pass.nodes pass.placements := by
        refine (mem_suitableNodes_of_shared hmode).mpr ⟨?_, Bool.not_eq_false _ ▸ haccepts⟩
        rw [hres.nodes_eq, ← htaken]
        exact mem_singleton.mpr rfl
      rw [hempty] at hmem
      cases hmem
    rw [takenOn_append_of_none _ rfl, htaken]
    simp [room, hrefuses]
  · intro i _ pass hres htaken m hm
    obtain ⟨hmem, haccepts⟩ := (mem_suitableNodes_of_shared hmode).mp hm.mem
    rw [hres.nodes_eq, map_singleton, htaken] at hmem
    obtain rfl := mem_singleton.mp hmem
    rw [takenOn_placeOn, id_iterate_reserve, if_pos rfl, htaken]
    simp [room, haccepts]

end Loop

end ZLayer.Scheduler
