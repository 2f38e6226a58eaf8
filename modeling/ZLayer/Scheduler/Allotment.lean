import Mathlib.Algebra.BigOperators.Group.Finset.Piecewise
import ZLayer.Scheduler.Reservation

/-!
# Allotment — how many replicas each node gets

The loop of a pass is greedy: each replica goes to the best of the nodes that are suitable at that
point.  In dedicated mode every placement takes one node out of the suitable ones and leaves the
others as they are, so the loop fills all of them before it fails.  Under spread affinity the best
node is one with the fewest containers of the service, whatever breaks the ties, so the nodes
differ by one container at most.
-/

namespace ZLayer.Scheduler

open Lib List

variable {F : Type} [F64 F] {lowercase : String → String} {service : String}
  {spec : ServiceSpec F} {pass : Pass F} {m : NodeState F} {placements : PlacementState}
  {nodes : List (NodeState F)} {replicas : UInt32}

/-! ## One more replica -/

lemma serviceCountOnNode_placeOn (pass : Pass F) (replica : UInt32) (m : NodeState F)
    (id : NodeId) :
    (placeOn service spec pass replica m).placements.serviceCountOnNode id service =
      pass.placements.serviceCountOnNode id service + if m.id = id then 1 else 0 := by
  change List.countP _ ((pass.placements.place _ m.id).containersOnNode id) = _
  rw [PlacementState.containersOnNode_place]
  by_cases hid : m.id = id
  · simp [hid, PlacementState.serviceCountOnNode]
  · simp [hid, PlacementState.serviceCountOnNode]

/-- The registry counts what the decisions say. -/
lemma serviceCountOnNode_placeLoop (replicas : UInt32) (nodes : List (NodeState F))
    (placements : PlacementState) (id : NodeId) :
    (placeLoop lowercase service spec replicas nodes placements).placements.serviceCountOnNode id
        service =
      placements.serviceCountOnNode id service +
        takenOn (placeLoop lowercase service spec replicas nodes placements).decisions id := by
  refine placeLoop_rec lowercase service spec
    (P := fun _ pass => pass.placements.serviceCountOnNode id service =
      placements.serviceCountOnNode id service + takenOn pass.decisions id) rfl ?_ ?_
  · intro i pass hcount _
    rw [takenOn_append_of_none _ rfl]
    exact hcount
  · intro i _ pass hcount m _
    rw [serviceCountOnNode_placeOn, takenOn_placeOn, hcount, Nat.add_assoc]

lemma placeServiceReplicas_of_not_gang (hgang : spec.isGang = false) :
    placeServiceReplicas lowercase service spec replicas nodes placements =
      placeLoop lowercase service spec replicas nodes placements := by
  simp [placeServiceReplicas, finalizeGang, hgang]

/-! ## Dedicated nodes -/

/-- A node that gets a replica is suitable no more, and the others are as suitable as before. -/
lemma suitableNodes_placeOn (hmode : spec.nodeMode = .dedicated)
    (hids : (pass.nodes.map (·.id)).Nodup) (hm : m ∈ pass.nodes) (replica : UInt32) :
    suitableNodes lowercase service spec (placeOn service spec pass replica m).nodes
        (placeOn service spec pass replica m).placements =
      (suitableNodes lowercase service spec pass.nodes pass.placements).filter
        (·.id ≠ m.id) := by
  have hhas : ∀ id, (placeOn service spec pass replica m).placements.hasServiceOnNode id service =
      (decide (m.id = id) || pass.placements.hasServiceOnNode id service) := by
    intro id
    change ((pass.placements.place _ m.id).containersOnNode id).any _ = _
    rw [PlacementState.containersOnNode_place]
    by_cases hid : m.id = id
    · simp [hid]
    · simp [hid, PlacementState.hasServiceOnNode]
  rw [nodes_placeOn hids hm]
  simp only [suitableNodes, filter_filter]
  rw [filter_map, filter_congr (q := fun n => decide (n.id ≠ m.id) &&
    (affinityAdmits spec.effectiveAffinity n && canPlaceOnNode lowercase n service spec.nodeMode
      spec.nodeSelector pass.placements (some spec)))]
  · refine (map_congr_left ?_).trans (map_id' _)
    intro n hn
    have hn := (mem_filter.mp hn).2
    rw [Bool.and_eq_true, decide_eq_true_iff] at hn
    rw [if_neg hn.1]
  · intro n _
    by_cases hid : n.id = m.id
    · simp [canPlaceOnNode, hmode, hhas, hid, NodeState.reserve]
    · simp [canPlaceOnNode, hmode, hhas, hid, Ne.symm hid]

omit [F64 F] in
lemma length_filter_id_ne (hids : (nodes.map (·.id)).Nodup) (hm : m ∈ nodes) :
    (nodes.filter (·.id ≠ m.id)).length + 1 = nodes.length := by
  have hone : nodes.countP (fun n => decide (n.id = m.id)) = 1 := by
    have hcount := count_eq_one_of_mem hids (mem_map_of_mem hm)
    rwa [List.count, countP_map] at hcount
  have hsplit := length_eq_countP_add_countP (fun n => decide (n.id = m.id)) (l := nodes)
  simp only [countP_eq_length_filter, decide_eq_true_eq, ← ne_eq] at hone hsplit
  omega

def placedCount (decisions : List (PlacementDecision F)) : ℕ :=
  decisions.countP (·.isSuccess)

/-- The loop of a pass in dedicated mode after `i` replicas; at its start `eligible` nodes were
suitable. -/
structure Dedicating (lowercase : String → String) (service : String) (spec : ServiceSpec F)
    (eligible i : ℕ) (pass : Pass F) : Prop where
  once : ∀ id, 0 < takenOn pass.decisions id →
    pass.placements.serviceCountOnNode id service = 1
  left : placedCount pass.decisions +
    (suitableNodes lowercase service spec pass.nodes pass.placements).length = eligible
  placed : placedCount pass.decisions = min i eligible

lemma Dedicating.placeOn {eligible i : ℕ}
    (h : Dedicating lowercase service spec eligible i pass) (hmode : spec.nodeMode = .dedicated)
    (hids : (pass.nodes.map (·.id)).Nodup)
    (hm : m ∈ suitableNodes lowercase service spec pass.nodes pass.placements) :
    Dedicating lowercase service spec eligible (i + 1)
      (placeOn service spec pass (UInt32.ofNat i) m) := by
  have hsublist : (suitableNodes lowercase service spec pass.nodes pass.placements).Sublist
      pass.nodes := filter_sublist.trans filter_sublist
  have hless := length_filter_id_ne (hids.sublist (hsublist.map _)) hm
  have hcount : placedCount (Scheduler.placeOn service spec pass (UInt32.ofNat i) m).decisions =
      placedCount pass.decisions + 1 := by
    simp [placedCount, Scheduler.placeOn, PlacementDecision.isSuccess]
  have hleft := h.left
  have hplaced := h.placed
  refine ⟨?_, ?_, by omega⟩
  · intro id hid
    rw [serviceCountOnNode_placeOn]
    rw [takenOn_placeOn] at hid
    by_cases heq : m.id = id
    · -- the selected node had no container of the service
      subst heq
      have hfree := hasServiceOnNode_of_modeAdmits (by simp [hmode]) (suitable_of_mem hm).mode
      have hzero : pass.placements.serviceCountOnNode m.id service = 0 := by
        simpa [PlacementState.serviceCountOnNode, PlacementState.hasServiceOnNode] using hfree
      rw [hzero, if_pos rfl]
    · rw [if_neg heq] at hid ⊢
      exact h.once id hid
  · rw [suitableNodes_placeOn hmode hids (mem_of_mem_suitableNodes hm), hcount]
    omega

/-- A service in dedicated mode has one container on each node that a pass decides for, and a pass
places a replica on every suitable node, or all replicas. -/
theorem dedicated_placement (lowercase : String → String) (service : String) (spec : ServiceSpec F)
    (replicas : UInt32) (nodes : List (NodeState F)) (placements : PlacementState)
    (hids : (nodes.map (·.id)).Nodup) (hmode : spec.nodeMode = .dedicated)
    (hgang : spec.isGang = false) :
    let pass := placeServiceReplicas lowercase service spec replicas nodes placements
    (∀ id, pass.placements.serviceCountOnNode id service =
      placements.serviceCountOnNode id service + takenOn pass.decisions id) ∧
    (∀ id, 0 < takenOn pass.decisions id → pass.placements.serviceCountOnNode id service = 1) ∧
    placedCount pass.decisions =
      min replicas.toNat (suitableNodes lowercase service spec nodes placements).length := by
  rw [placeServiceReplicas_of_not_gang hgang]
  have hloop : Dedicating lowercase service spec
      (suitableNodes lowercase service spec nodes placements).length replicas.toNat
      (placeLoop lowercase service spec replicas nodes placements) := by
    refine (reserved_rec hids ?_ ?_ ?_).2
    · exact ⟨nofun, Nat.zero_add _, (Nat.zero_min _).symm⟩
    · intro i pass _ h hempty
      have hcount : placedCount (pass.decisions ++
          [unplacedDecision service spec pass.nodes (UInt32.ofNat i)]) =
          placedCount pass.decisions := by
        simp [placedCount, unplacedDecision, PlacementDecision.isSuccess]
      have hleft := h.left
      have hplaced := h.placed
      rw [hempty, length_nil] at hleft
      refine ⟨fun id hid => h.once id ?_, by rw [hcount, hempty]; exact hleft,
        by rw [hcount]; omega⟩
      rwa [takenOn_append_of_none _ rfl] at hid
    · intro i _ pass hres h m hm
      exact h.placeOn hmode (hres.ids_eq ▸ hids) hm.mem
  exact ⟨serviceCountOnNode_placeLoop replicas nodes placements, hloop.once, hloop.placed⟩

/-- A healthy node with four gigabytes. -/
def roomyNode (id : NodeId) : NodeState Float :=
  { id := id
    address := ""
    labels := ∅
    resources := .new 4.0 4294967296
    healthy := true
    os := none
    arch := none }

def dedicatedSpec : ServiceSpec Float :=
  { (ServiceSpec.default : ServiceSpec Float) with
    nodeMode := .dedicated }

theorem dedicated_placement_two_nodes :
    placedCount (placeServiceReplicas id "db" dedicatedSpec 3 [roomyNode 1, roomyNode 2]
      .empty).decisions = min 3 2 :=
  (dedicated_placement id "db" dedicatedSpec 3 [roomyNode 1, roomyNode 2] .empty (by decide) rfl
    rfl).2.2.trans (by decide +kernel)

/-! ## Spreading -/

/-- A comparison that puts the smaller key first selects a smallest key, however it breaks ties. -/
lemma maxBy_key_le {α : Type} {cmp : α → α → Ordering} {k : α → ℕ}
    (hcmp : ∀ a b, if cmp a b = .gt then k a ≤ k b else k b ≤ k a)
    (first : α) (rest : List α) : ∀ x ∈ first :: rest, k (maxBy cmp first rest) ≤ k x := by
  induction rest generalizing first with
  | nil =>
    intro x hx
    rw [mem_singleton.mp hx]
    exact Nat.le_refl _
  | cons y rest ih =>
    -- the better of the two in front is no worse than either
    have hfront := hcmp first y
    by_cases hgt : cmp first y = .gt
    · have hstep : maxBy cmp first (y :: rest) = maxBy cmp first rest := by simp [maxBy, hgt]
      rw [if_pos hgt] at hfront
      intro x hx
      rw [hstep]
      rcases mem_cons.mp hx with rfl | hx
      · exact ih x x mem_cons_self
      rcases mem_cons.mp hx with rfl | hx
      · exact (ih first first mem_cons_self).trans hfront
      · exact ih first x (mem_cons_of_mem _ hx)
    · have hstep : maxBy cmp first (y :: rest) = maxBy cmp y rest := by
        rw [maxBy, foldl_cons]
        cases hc : cmp first y with
        | gt => exact absurd hc hgt
        | lt | eq => rfl
      rw [if_neg hgt] at hfront
      intro x hx
      rw [hstep]
      rcases mem_cons.mp hx with rfl | hx
      · exact (ih y y mem_cons_self).trans hfront
      · exact ih y x hx

/-- The service asks for nothing but that its replicas are spread. -/
structure SpreadsOnly (spec : ServiceSpec F) : Prop where
  mode : spec.nodeMode = .shared
  affinity : spec.affinity = some .spread
  gpu : spec.resources.gpu = none
  cpu : ¬0.0 < spec.cpuRequest
  memory : spec.memRequest = 0
  labels : ∀ selector ∈ spec.nodeSelector, selector.preferLabels = ∅

lemma SpreadsOnly.accepts_reserve (h : SpreadsOnly spec) (n : NodeState F) :
    accepts lowercase service spec (n.reserve spec) = accepts lowercase service spec n := by
  have hcapacity : ∀ n : NodeState F, nodeHasCapacity n spec = true := by
    simp [nodeHasCapacity, h.cpu, h.memory]
  simp only [accepts, canPlaceOnNode, h.gpu, Option.bind_some, Option.all_some, hcapacity,
    affinityAdmits, ServiceSpec.effectiveAffinity, h.affinity]
  rfl

/-- The selected node has the fewest containers of the service. -/
lemma SpreadsOnly.selected_le (h : SpreadsOnly spec)
    (hm : Selected lowercase service spec pass m) :
    ∀ n ∈ suitableNodes lowercase service spec pass.nodes pass.placements,
      pass.placements.serviceCountOnNode m.id service ≤
        pass.placements.serviceCountOnNode n.id service := by
  have hscore : ∀ n : NodeState F, (spec.nodeSelector.map n.preferredLabelScore).getD 0 = 0 := by
    intro n
    cases hs : spec.nodeSelector with
    | none => rfl
    | some selector =>
      simp [NodeState.preferredLabelScore, h.labels selector hs, HashMap.entries]
  rcases hm with ⟨first, rest, hsuitable, rfl⟩
  rw [hsuitable]
  simp only [selectNode, h.mode, selectForBinPacking]
  refine maxBy_key_le (k := fun n : NodeState F =>
    pass.placements.serviceCountOnNode n.id service) ?_ first rest
  intro a b
  simp only [byPreferredLabels, hscore, Std.ReflCmp.compare_self, binPackingTie, h.gpu,
    Option.bind_some, Option.isSome_none, ServiceSpec.effectiveAffinity, h.affinity,
    Option.getD_some, Bool.false_eq_true, if_false]
  cases hcount : compare (pass.placements.serviceCountOnNode b.id service)
    (pass.placements.serviceCountOnNode a.id service) with
  | lt => exact (Nat.compare_eq_lt.mp hcount).le
  | gt => exact (Nat.compare_eq_gt.mp hcount).le
  | eq =>
    -- the utilizations decide, and the counts are equal
    have hsame := Nat.compare_eq_eq.mp hcount
    change if cmpUtilization b a = .gt then _ else _
    split
    · exact hsame.ge
    · exact hsame.le

/-- The loop of a pass that spreads the service over the nodes `eligible`, after `i` replicas. -/
structure Spreading (service : String) (eligible : Finset NodeId) (i : ℕ) (pass : Pass F) :
    Prop where
  level : ∀ a ∈ eligible, ∀ b ∈ eligible, pass.placements.serviceCountOnNode a service ≤
    pass.placements.serviceCountOnNode b service + 1
  total : ∑ id ∈ eligible, pass.placements.serviceCountOnNode id service = i

lemma Spreading.placeOn {eligible : Finset NodeId} {i : ℕ}
    (h : Spreading service eligible i pass) (hm : m.id ∈ eligible)
    (hleast : ∀ id ∈ eligible, pass.placements.serviceCountOnNode m.id service ≤
      pass.placements.serviceCountOnNode id service) :
    Spreading service eligible (i + 1) (placeOn service spec pass (UInt32.ofNat i) m) := by
  refine ⟨?_, ?_⟩
  · intro a ha b hb
    have hab := h.level a ha b hb
    have hbm := hleast b hb
    rw [serviceCountOnNode_placeOn, serviceCountOnNode_placeOn]
    split
    next heq =>
      rw [← heq]
      omega
    · omega
  · simp only [serviceCountOnNode_placeOn, Finset.sum_add_distrib, h.total]
    rw [Finset.sum_ite_eq, if_pos hm]

/-- The nodes that were suitable at the start of the pass are suitable to its end. -/
lemma SpreadsOnly.ids_suitableNodes (h : SpreadsOnly spec)
    (hres : Reserved lowercase service spec nodes pass) (placements : PlacementState) :
    (suitableNodes lowercase service spec pass.nodes pass.placements).map (·.id) =
      (suitableNodes lowercase service spec nodes placements).map (·.id) := by
  have hsame : ∀ (k : ℕ) (n : NodeState F),
      accepts lowercase service spec ((NodeState.reserve spec)^[k] n) =
        accepts lowercase service spec n := by
    intro k n
    induction k with
    | zero => rfl
    | succ k ih => rw [Function.iterate_succ_apply', h.accepts_reserve, ih]
  have hfilter : ∀ (l : List (NodeState F)) (p : PlacementState),
      suitableNodes lowercase service spec l p = l.filter (accepts lowercase service spec) := by
    intro l p
    rw [suitableNodes, filter_filter]
    refine filter_congr fun n _ => ?_
    simp only [accepts, canPlaceOnNode, h.mode, Bool.and_comm]
  rw [hfilter, hfilter, hres.nodes_eq, filter_map, map_map]
  simp only [Function.comp_def, hsame, id_iterate_reserve]

/-- Spread affinity, with no other request of the service: the numbers of its containers on two
suitable nodes differ by at most one, whatever comparison of utilizations breaks the ties, and
every replica is placed as soon as some node is suitable. -/
theorem spread_balanced (lowercase : String → String) (service : String) (spec : ServiceSpec F)
    (replicas : UInt32) (nodes : List (NodeState F)) (placements : PlacementState)
    (hids : (nodes.map (·.id)).Nodup) (hspec : SpreadsOnly spec)
    (hfresh : ∀ id, placements.serviceCountOnNode id service = 0) :
    let after := (placeServiceReplicas lowercase service spec replicas nodes placements).placements
    let suitable := (suitableNodes lowercase service spec nodes placements).map (·.id)
    (∀ a ∈ suitable, ∀ b ∈ suitable,
      after.serviceCountOnNode a service ≤ after.serviceCountOnNode b service + 1) ∧
    (suitable.map fun id => after.serviceCountOnNode id service).sum =
      if suitable = [] then 0 else replicas.toNat := by
  have hgang : spec.isGang = false := by simp [ServiceSpec.isGang, hspec.gpu]
  rw [placeServiceReplicas_of_not_gang hgang]
  intro after suitable
  have hnodup : suitable.Nodup := hids.sublist
    ((filter_sublist.trans filter_sublist).map _)
  have hloop : suitable = [] ∨ Spreading service suitable.toFinset replicas.toNat
      (placeLoop lowercase service spec replicas nodes placements) := by
    refine (reserved_rec
      (P := fun i pass => suitable = [] ∨ Spreading service suitable.toFinset i pass)
      hids (.inr ⟨?_, ?_⟩) ?_ ?_).2
    · intro a _ b _
      rw [hfresh, hfresh]
      exact Nat.zero_le _
    · exact Finset.sum_eq_zero fun id _ => hfresh id
    · intro i pass hres _ hempty
      have hids' := hspec.ids_suitableNodes hres placements
      rw [hempty] at hids'
      exact .inl hids'.symm
    · intro i _ pass hres h m hm
      have hids' : _ = suitable := hspec.ids_suitableNodes hres placements
      refine h.imp_right fun h => h.placeOn ?_ ?_
      · rw [mem_toFinset, ← hids']
        exact mem_map_of_mem hm.mem
      · intro id hid
        rw [mem_toFinset, ← hids'] at hid
        obtain ⟨n, hn, rfl⟩ := mem_map.mp hid
        exact hspec.selected_le hm n hn
  by_cases hempty : suitable = []
  · simp [hempty]
  · have h := hloop.resolve_left hempty
    refine ⟨fun a ha b hb => h.level a (mem_toFinset.mpr ha) b (mem_toFinset.mpr hb), ?_⟩
    rw [← sum_toFinset _ hnodup, h.total, if_neg hempty]

def spreadSpec : ServiceSpec Float :=
  { (ServiceSpec.default : ServiceSpec Float) with
    affinity := some .spread }

lemma spreadsOnly_spreadSpec : SpreadsOnly spreadSpec :=
  ⟨rfl, rfl, rfl, by decide +kernel, by decide +kernel, nofun⟩

/-- Five replicas on two nodes. -/
theorem spread_balanced_two_nodes :
    let after := (placeServiceReplicas id "web" spreadSpec 5 [roomyNode 1, roomyNode 2]
      .empty).placements
    after.serviceCountOnNode 1 "web" ≤ after.serviceCountOnNode 2 "web" + 1 :=
  (spread_balanced id "web" spreadSpec 5 [roomyNode 1, roomyNode 2] .empty (by decide)
    spreadsOnly_spreadSpec fun _ => rfl).1 1 (by decide +kernel) 2 (by decide +kernel)

/-- Without a suitable node no replica is counted anywhere. -/
theorem nothing_spread_over_no_node :
    SpreadsOnly spreadSpec ∧
      ((suitableNodes id "web" spreadSpec [] .empty).map fun n =>
        (placeServiceReplicas id "web" spreadSpec 1 [] .empty).placements.serviceCountOnNode n.id
          "web").sum ≠ (1 : UInt32).toNat :=
  ⟨spreadsOnly_spreadSpec, by decide +kernel⟩

end ZLayer.Scheduler
