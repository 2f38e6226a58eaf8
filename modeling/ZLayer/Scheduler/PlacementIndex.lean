import ZLayer.Lib.BTreeMap
import ZLayer.Scheduler.Placement

/-!
# PlacementIndex — the two directions of the placement registry

The registry keeps the containers of each node and the node of each container.  The two agree as
long as no container that is still recorded is placed again: `place` appends the container to its
new node and overwrites its entry in the other map, but leaves it on the list of its old node.
-/

namespace ZLayer.Scheduler

open Lib List HashMap

variable (lowercase : String → String) (service : String)

namespace PlacementState

/-- A container is listed once on the node it is recorded for and on no other node, and no node
has an empty list. -/
structure Consistent (p : PlacementState) : Prop where
  count_eq : ∀ (node : NodeId) (c : ContainerId),
    (p.containersOnNode node).count c = if p.containerNodes[c]? = some node then 1 else 0
  ne_nil : ∀ node : NodeId, p.nodeContainers[node]? ≠ some []

lemma consistent_empty : Consistent empty := by
  refine ⟨?_, ?_⟩
  · intro node c
    simp [containersOnNode, empty]
  · intro node
    simp [empty]

variable {p : PlacementState} {c : ContainerId} {node : NodeId}

lemma Consistent.recorded (h : Consistent p) (hc : c ∈ p.containersOnNode node) :
    p.containerNodes[c]? = some node := by
  have hpos := count_pos_iff.mpr hc
  rw [h.count_eq] at hpos
  by_contra hne
  rw [if_neg hne] at hpos
  exact absurd hpos (Nat.lt_irrefl 0)

/-! ## Placing -/

lemma Consistent.place (h : Consistent p) (hc : p.containerNodes[c]? = none) (node : NodeId) :
    Consistent (p.place c node) := by
  refine ⟨?_, ?_⟩
  · intro a d
    have hold := h.count_eq a d
    rw [containersOnNode_place, lookup_containerNodes_place]
    by_cases hcd : c = d
    · -- The new container was on no list before.
      subst hcd
      rw [hc] at hold
      by_cases hna : node = a
      · simp [hna, hold]
      · simp [hna, hold]
    · by_cases hna : node = a
      · simp [hna, hcd, hold]
      · simp [hna, hcd, hold]
  · intro a
    change (p.nodeContainers.insert node _)[a]? ≠ some []
    rw [lookup_insert]
    by_cases hna : node = a
    · simp [hna]
    · simpa [hna] using h.ne_nil a

/-! ## Removing -/

/-- Leave `stays` on a node and forget the removed containers. -/
def shrink (p : PlacementState) (node : NodeId) (stays removed : List ContainerId) :
    PlacementState :=
  { nodeContainers :=
      if stays.isEmpty then p.nodeContainers.erase node
      else p.nodeContainers.insert node stays
    containerNodes := forget removed p.containerNodes }

variable {stays removed : List ContainerId}

lemma nodeContainers_shrink (a : NodeId) : (p.shrink node stays removed).nodeContainers[a]? =
      if node = a then (if stays = [] then none else some stays) else p.nodeContainers[a]? := by
  cases stays with
  | nil => exact lookup_erase ..
  | cons c rest => exact lookup_insert ..

lemma containersOnNode_shrink (a : NodeId) : (p.shrink node stays removed).containersOnNode a =
      if node = a then stays else p.containersOnNode a := by
  rw [containersOnNode, nodeContainers_shrink]
  by_cases hna : node = a
  · cases stays <;> simp [hna]
  · simp [hna, containersOnNode]

lemma nodeContainers_shrink_ne_nil (h : ∀ a : NodeId, p.nodeContainers[a]? ≠ some [])
    (a : NodeId) : (p.shrink node stays removed).nodeContainers[a]? ≠ some [] := by
  rw [nodeContainers_shrink]
  by_cases hna : node = a
  · cases stays <;> simp [hna]
  · rw [if_neg hna]
    exact h a

/-- Replacing the list of one node by a part of it and forgetting the rest. -/
lemma Consistent.shrink (h : Consistent p)
    (hperm : (stays ++ removed).Perm (p.containersOnNode node)) :
    Consistent (p.shrink node stays removed) := by
  refine ⟨?_, ?_⟩
  · intro a c
    have hold := h.count_eq a c
    have hsplit : stays.count c + removed.count c = (p.containersOnNode node).count c := by
      rw [← count_append]
      exact hperm.count_eq c
    rw [containersOnNode_shrink, PlacementState.shrink, forget,
      BTreeMap.lookup_foldl_erase]
    by_cases hremoved : c ∈ removed
    · -- A removed container was recorded on `node` alone.
      have hmem : c ∈ p.containersOnNode node :=
        hperm.subset (mem_append_right _ hremoved)
      have hnode := h.recorded hmem
      have hpos := count_pos_iff.mpr hremoved
      have hone := h.count_eq node c
      rw [hnode] at hold
      rw [hnode, if_pos rfl] at hone
      by_cases hna : node = a
      · simp only [if_pos hna, if_pos hremoved]
        simp
        omega
      · have hother : (p.containersOnNode a).count c = 0 := by
          simpa [hna] using hold
        simp [hna, hremoved, hother]
    · -- A container that is not removed is on the same lists as before.
      have hzero : removed.count c = 0 := count_eq_zero.mpr hremoved
      rw [if_neg hremoved]
      by_cases hna : node = a
      · rw [if_pos hna, ← hold, ← hna]
        omega
      · rw [if_neg hna, hold]
  · exact nodeContainers_shrink_ne_nil h.ne_nil

lemma swapIn_perm {α : Type} (rest : List α) : (swapIn rest).Perm rest := by
  unfold swapIn
  cases hlast : rest.getLast? with
  | none =>
    rw [List.getLast?_eq_none_iff.mp hlast]
  | some last =>
    obtain ⟨front, rfl⟩ := List.getLast?_eq_some_iff.mp hlast
    rw [dropLast_concat]
    exact (perm_append_singleton last front).symm

/-- The walk splits a list into what stays and what is removed. -/
lemma drainService_perm (n : ℕ) (kept rest : List ContainerId) :
    ((drainService service n kept rest).1 ++ (drainService service n kept rest).2).Perm
      (kept ++ rest) := by
  -- induction on the counter; the walk may also swap the last element to the front of `rest`
  induction n generalizing kept rest with
  | zero => simp [drainService]
  | succ n ih =>
    cases rest with
    | nil => simp [drainService]
    | cons c rest =>
      by_cases hc : c.service = service
      · simp only [drainService, if_pos hc]
        have hwalk := ih kept (swapIn rest)
        calc
          _ = _ ++ c :: _ := rfl
          List.Perm _ (c :: ((drainService service n kept (swapIn rest)).1 ++
                (drainService service n kept (swapIn rest)).2)) := perm_middle
          List.Perm _ (c :: (kept ++ swapIn rest)) := hwalk.cons c
          List.Perm _ (c :: (kept ++ rest)) := ((swapIn_perm rest).append_left kept).cons c
          List.Perm _ (kept ++ c :: rest) := perm_middle.symm
      · simp only [drainService, if_neg hc]
        simpa using ih (kept ++ [c]) rest

lemma removeServiceFromNode_eq (p : PlacementState) (node : NodeId) (service : String) :
    (p.removeServiceFromNode node service).1 = p.shrink node
      (drainService service (p.containersOnNode node).length [] (p.containersOnNode node)).1
      (drainService service (p.containersOnNode node).length [] (p.containersOnNode node)).2 := by
  unfold PlacementState.removeServiceFromNode containersOnNode
  cases hnode : p.nodeContainers[node]? with
  | some containers => rfl
  | none =>
    have hsame : p.nodeContainers.erase node = p.nodeContainers := by
      refine Std.ExtTreeMap.ext_getElem? fun a => ?_
      rw [lookup_erase]
      split
      next heq => rw [← heq, hnode]
      · rfl
    simp [drainService, shrink, forget, hsame]

lemma Consistent.removeServiceFromNode (h : Consistent p) (node : NodeId) (service : String) :
    Consistent (p.removeServiceFromNode node service).1 := by
  rw [removeServiceFromNode_eq]
  exact h.shrink (drainService_perm service _ [] _)

lemma Consistent.removeNode (h : Consistent p) (node : NodeId) :
    Consistent (p.removeNode node).1 := by
  have hall : ([] ++ p.containersOnNode node).Perm (p.containersOnNode node) := List.Perm.refl _
  exact h.shrink hall

end PlacementState

/-! ## Passes -/

variable {F : Type} [F64 F]

/-- No container with an index below `replicas` is recorded for the service. -/
def Unrecorded (replicas : UInt32) (p : PlacementState) : Prop :=
  ∀ i < replicas.toNat, p.containerNodes[ContainerId.ofIndex service i]? = none

variable {pass : Pass F}

variable {p : PlacementState}

variable (spec : ServiceSpec F)

lemma consistent_placeServiceReplicas (replicas : UInt32) (nodes : List (NodeState F))
    (h : p.Consistent) (hfresh : Unrecorded service replicas p) :
    (placeServiceReplicas lowercase service spec replicas nodes p).placements.Consistent := by
  -- While index `i` is at hand, the indices from `i` on are not recorded.
  have hloop : (placeLoop lowercase service spec replicas nodes p).placements.Consistent := by
    refine (placeLoop_rec lowercase service spec
      (P := fun i pass => pass.placements.Consistent ∧ ∀ j, i ≤ j → j < replicas.toNat →
        pass.placements.containerNodes[ContainerId.ofIndex service j]? = none)
      ⟨h, fun j _ hj => hfresh j hj⟩ ?_ ?_).1
    · rintro i pass ⟨hcons, hnone⟩ -
      exact ⟨hcons, fun j hij hj => hnone j (Nat.le_of_succ_le hij) hj⟩
    · rintro i hi pass ⟨hcons, hnone⟩ node -
      refine ⟨hcons.place (hnone i (Nat.le_refl i) hi) node.id, ?_⟩
      intro j hij hj
      have hne : ContainerId.ofIndex service i ≠ ContainerId.ofIndex service j := by
        intro heq
        have hlt : j < 2 ^ 32 := Nat.lt_trans hj replicas.toNat_lt
        have hij' := ContainerId.ofIndex_injective (Nat.lt_trans hij hlt) hlt heq
        exact absurd hij (by rw [hij']; exact Nat.lt_irrefl j)
      exact (PlacementState.lookup_containerNodes_place _ _ _ _).trans
        ((if_neg hne).trans (hnone j (Nat.le_of_succ_le hij) hj))
  rcases placeServiceReplicas_cases lowercase service spec replicas nodes p with heq | ⟨-, heq⟩
  · rw [heq]
    exact hloop
  · rw [heq]
    exact gangRollback_induction service spec replicas _
      (fun _ id hp => hp.removeServiceFromNode id service) hloop

/-- Groups number their replicas from zero under one service name, so at most one of them may have
replicas at all. -/
def UnrecordedGroups (groups : List (ReplicaGroup F)) (p : PlacementState) :
    Prop :=
  (groups.filter fun g => g.count ≠ 0).length ≤ 1 ∧
    ∀ g ∈ groups, Unrecorded service g.count p

lemma placements_placeGroup_of_zero (pass : Pass F) {group : ReplicaGroup F}
    (h : group.count = 0) :
    (placeGroup lowercase service spec pass group).placements = pass.placements := by
  simp [placeGroup, h, placeServiceReplicas, placeLoop, finalizeGang]

lemma placements_foldl_of_zero {groups : List (ReplicaGroup F)} (pass : Pass F)
    (h : ∀ g ∈ groups, g.count = 0) :
    (groups.foldl (placeGroup lowercase service spec) pass).placements = pass.placements := by
  induction groups generalizing pass with
  | nil => rfl
  | cons g groups ih =>
    rw [foldl_cons, ih _ fun g' hg' => h g' (mem_cons_of_mem g hg'),
      placements_placeGroup_of_zero _ _ _ _ (h g mem_cons_self)]

/-- Up to the one group with replicas nothing is recorded, and after it nothing is placed. -/
lemma consistent_foldl_placeGroup (groups : List (ReplicaGroup F))
    (h : pass.placements.Consistent) (hfresh : UnrecordedGroups service groups pass.placements) :
    (groups.foldl (placeGroup lowercase service spec) pass).placements.Consistent := by
  induction groups generalizing pass with
  | nil => exact h
  | cons g groups ih =>
    rcases hfresh with ⟨hone, hun⟩
    rw [foldl_cons]
    by_cases hg : g.count = 0
    · have hsame := placements_placeGroup_of_zero lowercase service spec pass hg
      refine ih (hsame ▸ h) ?_
      rw [hsame]
      refine ⟨?_, fun g' hg' => hun g' (mem_cons_of_mem g hg')⟩
      simpa [filter_cons, hg] using hone
    · -- This is the group with replicas, and the others have none.
      have hrest : ∀ g' ∈ groups, g'.count = 0 := by
        have hnil : (groups.filter fun g => g.count ≠ 0) = [] := by
          simpa [filter_cons, hg] using hone
        intro g' hg'
        by_contra hne
        have hmem : g' ∈ groups.filter fun g => g.count ≠ 0 :=
          mem_filter.mpr ⟨hg', by simpa using hne⟩
        rw [hnil] at hmem
        cases hmem
      rw [placements_foldl_of_zero lowercase service spec _ hrest]
      exact consistent_placeServiceReplicas lowercase service _ g.count pass.nodes h
        (hun g mem_cons_self)

/-! ## Runs -/

inductive RegistryOp (F : Type)
  | placeServiceReplicas (service : String) (spec : ServiceSpec F) (replicas : UInt32)
      (nodes : List (NodeState F))
  | placeServiceWithGroups (service : String) (spec : ServiceSpec F)
      (groups : List (ReplicaGroup F)) (nodes : List (NodeState F))
  | removeNode (node : NodeId)
  | removeServiceFromNode (node : NodeId) (service : String)

namespace RegistryOp

def apply (p : PlacementState) : RegistryOp F → PlacementState
  | .placeServiceReplicas service spec replicas nodes =>
    (Scheduler.placeServiceReplicas lowercase service spec replicas nodes p).placements
  | .placeServiceWithGroups service spec groups nodes =>
    (Scheduler.placeServiceWithGroups lowercase service spec groups nodes p).placements
  | .removeNode node => (p.removeNode node).1
  | .removeServiceFromNode node service => (p.removeServiceFromNode node service).1

/-- The operation places no container that is still recorded, and no container twice. -/
def PlacesFresh (p : PlacementState) : RegistryOp F → Prop
  | .placeServiceReplicas service _ replicas _ => Unrecorded service replicas p
  | .placeServiceWithGroups service _ groups _ => UnrecordedGroups service groups p
  | .removeNode _ => True
  | .removeServiceFromNode _ _ => True

lemma consistent_apply {p : PlacementState} (op : RegistryOp F) (h : p.Consistent)
    (hfresh : PlacesFresh p op) : (apply lowercase p op).Consistent := by
  cases op with
  | placeServiceReplicas service spec replicas nodes =>
    exact consistent_placeServiceReplicas lowercase service spec replicas nodes h hfresh
  | placeServiceWithGroups service spec groups nodes =>
    exact consistent_foldl_placeGroup lowercase service spec groups h hfresh
  | removeNode node => exact h.removeNode node
  | removeServiceFromNode node service => exact h.removeServiceFromNode node service

/-- In every run from the empty registry whose operations place only containers that are not
recorded, both directions of the registry agree in every state reached. -/
theorem consistent_of_placesFresh (ops : List (RegistryOp F))
    (h : Machine.Along (apply lowercase) PlacesFresh .empty ops) (k : ℕ) :
    ((ops.take k).foldl (apply lowercase) .empty).Consistent :=
  (h.take k).invariant (fun _ op hp hfresh => consistent_apply lowercase op hp hfresh)
    PlacementState.consistent_empty

def idleNode (id : NodeId) : NodeState Float :=
  { id := id
    address := ""
    labels := ∅
    resources := .new 0.0 0
    healthy := true
    os := none
    arch := none }

def reschedule : List (RegistryOp Float) :=
  [.placeServiceReplicas "web" .default 1 [idleNode 1],
   .removeNode 1,
   .placeServiceReplicas "web" .default 1 [idleNode 2]]

theorem consistent_after_reschedule : ((reschedule.take 3).foldl (apply id) .empty).Consistent := by
  refine consistent_of_placesFresh id reschedule ⟨?_, trivial, ?_, trivial⟩ 3
  · unfold PlacesFresh Unrecorded
    decide +kernel
  · unfold PlacesFresh Unrecorded
    decide +kernel

def scaleTwice : List (RegistryOp Float) :=
  [.placeServiceReplicas "web" .default 1 [idleNode 1],
   .placeServiceReplicas "web" .default 1 [idleNode 1]]

/-- The second pass lists the container a second time. -/
theorem listed_twice_after_second_pass : ¬(scaleTwice.foldl (apply id) .empty).Consistent := by
  intro h
  exact absurd (h.count_eq 1 (ContainerId.ofIndex "web" 0)) (by decide +kernel)

end RegistryOp

end ZLayer.Scheduler
