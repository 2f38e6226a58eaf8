import Mathlib.Data.List.Range
import ZLayer.Agent.ScaleEffects
import ZLayer.Lib.Machine

/-!
# ScaleTarget — which containers a service has after scaling

Scaling up numbers the replicas of a group from 1 in each group.  Scaling down makes the ids from
the running number of the replica over all groups, with the role of that replica.  The two agree
for the replicas of the first group that has any, and for no other: a service can be scaled down
only as long as all its containers are of that group.
-/

namespace ZLayer.Agent

open Lib List

/-! ## The declared replicas -/

def firstCount : List ReplicaGroup → Nat
  | [] => 0
  | group :: groups => if group.count.toNat = 0 then firstCount groups else group.count.toNat

namespace ServiceInstance

/-- The role and index of the first `n` replicas, in the order of the groups. -/
def declared (inst : ServiceInstance) (n : Nat) : List (String × Nat) :=
  match inst.spec.replicaGroups with
  | some groups => (groupReplicas groups).take n
  | none => (range n).map fun i => ("default", i + 1)

def declaredIds (inst : ServiceInstance) (n : Nat) : List ContainerId :=
  (inst.declared n).map fun replica => inst.containerId replica.1 replica.2

/-- The first `n` replicas are all of the first group that has any. -/
def Fits (inst : ServiceInstance) (n : Nat) : Prop :=
  match inst.spec.replicaGroups with
  | some groups => n ≤ firstCount groups
  | none => True

instance decidableFits (inst : ServiceInstance) (n : Nat) : Decidable (inst.Fits n) :=
  match h : inst.spec.replicaGroups with
  | some groups => decidable_of_iff (n ≤ firstCount groups) (by simp [Fits, h])
  | none => isTrue (by simp [Fits, h])

def Declares (spec : ServiceSpec) (n : Nat) : Prop :=
  ∀ groups ∈ spec.replicaGroups, n ≤ (groups.map fun group => group.count.toNat).sum

end ServiceInstance

lemma range_append_range' {n target : Nat} (h : n ≤ target) :
    range target = range n ++ range' n (target - n) := by
  rcases Nat.exists_eq_add_of_le h with ⟨k, rfl⟩
  have hsplit : range' 0 n ++ range' (0 + n) k = range' 0 (n + k) :=
    range'_append_1
  rw [Nat.add_sub_cancel_left, range_eq_range', range_eq_range', ← hsplit, Nat.zero_add]

lemma length_groupReplicas (groups : List ReplicaGroup) :
    (groupReplicas groups).length = (groups.map fun group => group.count.toNat).sum := by
  simp [groupReplicas, length_flatMap]

lemma groupReplicas_cons (group : ReplicaGroup) (groups : List ReplicaGroup) :
    groupReplicas (group :: groups) =
      ((range group.count.toNat).map fun idx => (group.role, idx + 1)) ++
        groupReplicas groups := rfl

variable {groups : List ReplicaGroup} {role : String} {index : Nat}

lemma mem_groupReplicas (h : (role, index) ∈ groupReplicas groups) :
    role ∈ groups.map ReplicaGroup.role := by
  rcases mem_flatMap.mp h with ⟨group, hgroup, hmem⟩
  rcases mem_map.mp hmem with ⟨idx, -, heq⟩
  cases heq
  exact mem_map_of_mem hgroup

lemma nodup_groupReplicas (h : (groups.map ReplicaGroup.role).Nodup) :
    (groupReplicas groups).Nodup := by
  induction groups with
  | nil => exact nodup_nil
  | cons group groups ih =>
    rcases nodup_cons.mp h with ⟨hnew, hrest⟩
    rw [groupReplicas_cons, nodup_append']
    refine ⟨nodup_range.map ?_, ih hrest, ?_⟩
    · intro a b hab
      simpa using hab
    · rintro ⟨role, index⟩ hfirst hlater
      rcases mem_map.mp hfirst with ⟨idx, -, heq⟩
      cases heq
      exact hnew (mem_groupReplicas hlater)

/-- The index of a replica in its group is at most its running number, and equal to it only in the
first group that has replicas. -/
lemma index_le_of_getElem? {q : Nat} (h : (groupReplicas groups)[q]? = some (role, index)) :
    index ≤ q + 1 ∧ (index = q + 1 → q < firstCount groups) := by
  induction groups generalizing q with
  | nil => simp [groupReplicas] at h
  | cons group groups ih =>
    rw [groupReplicas_cons, getElem?_append] at h
    simp only [length_map, length_range] at h
    split at h
    next hlt =>
      rw [getElem?_map, getElem?_range hlt] at h
      cases h
      refine ⟨le_rfl, fun _ => ?_⟩
      rw [firstCount, if_neg (by omega)]
      exact hlt
    next hge =>
      rcases ih h with ⟨hle, hfirst⟩
      refine ⟨by omega, fun heq => ?_⟩
      have hzero : group.count.toNat = 0 := by omega
      rw [firstCount, if_pos hzero]
      simpa [hzero] using hfirst (by omega)

/-- In the first group that has replicas the index is the running number. -/
lemma getElem?_of_lt_firstCount {i : Nat} (h : i < firstCount groups) :
    (groupReplicas groups)[i]? = some (roleFrom groups 0 (i + 1), i + 1) := by
  induction groups with
  | nil => cases h
  | cons group groups ih =>
    have hbound : group.count.toNat < 2 ^ 32 := group.count.toNat_lt
    rw [groupReplicas_cons, roleFrom]
    rw [firstCount] at h
    split at h
    next hzero => simpa [hzero] using ih h
    next hpos =>
      rw [getElem?_append_left (by simpa using h), getElem?_map, getElem?_range h]
      have hle : i + 1 ≤ min (0 + group.count.toNat) u32Max := by
        simp only [u32Max]
        omega
      simp only [if_pos hle, Option.map_some]

namespace ServiceInstance

variable {inst : ServiceInstance}

lemma declared_of_fits {n : Nat} (h : inst.Fits n) :
    inst.declared n = (range n).map fun i => (inst.roleForReplica (i + 1), i + 1) := by
  unfold Fits at h
  unfold declared roleForReplica
  cases hgroups : inst.spec.replicaGroups with
  | none => rfl
  | some groups =>
    simp only [hgroups] at h ⊢
    apply ext_getElem?
    intro i
    rw [getElem?_take, getElem?_map]
    by_cases hlt : i < n
    · rw [if_pos hlt, getElem?_range hlt]
      exact getElem?_of_lt_firstCount (by omega)
    · rw [if_neg hlt, getElem?_eq_none (by simpa using hlt)]
      rfl

lemma declaredIds_of_fits {n : Nat} (h : inst.Fits n) :
    inst.declaredIds n = (range n).map inst.numberedId := by
  rw [declaredIds, declared_of_fits h, map_map]
  rfl

lemma Fits.mono {n m : Nat} (h : inst.Fits n) (hle : m ≤ n) : inst.Fits m := by
  unfold Fits at h ⊢
  cases hgroups : inst.spec.replicaGroups with
  | none => trivial
  | some groups =>
    simp only [hgroups] at h ⊢
    omega

variable {n target : Nat}

lemma declaredIds_sdiff (h : inst.Fits n) (hle : target ≤ n) : (inst.declaredIds n).toFinset \
        ((range' target (n - target)).map inst.numberedId).toFinset =
      (inst.declaredIds target).toFinset := by
  have hnodup : ((range n).map inst.numberedId).Nodup :=
    nodup_range.map numberedId_injective
  rw [range_append_range' hle, map_append, nodup_append'] at hnodup
  rw [declaredIds_of_fits h, declaredIds_of_fits (h.mono hle), range_append_range' hle,
    map_append, toFinset_append, Finset.union_sdiff_right]
  exact Finset.sdiff_eq_self_of_disjoint (disjoint_toFinset_iff_disjoint.mpr hnodup.2.2)

lemma declared_add_replicaSpecs (h : n ≤ target) :
    inst.declared target = inst.declared n ++ inst.replicaSpecs n target := by
  unfold declared replicaSpecs
  cases inst.spec.replicaGroups with
  | none =>
    simp only
    rw [← map_append, ← range_append_range' h]
  | some groups =>
    simp only
    rw [← take_add]
    congr 1
    omega

lemma declaredIds_add_replicaSpecs (h : n ≤ target) :
    inst.declaredIds target = inst.declaredIds n ++
      (inst.replicaSpecs n target).map fun replica => inst.containerId replica.1 replica.2 := by
  rw [declaredIds, declared_add_replicaSpecs h, map_append, declaredIds]

lemma length_declared {n : Nat} (h : Declares inst.spec n) : (inst.declared n).length = n := by
  unfold declared
  cases hgroups : inst.spec.replicaGroups with
  | none => simp
  | some groups =>
    have htotal := h groups hgroups
    simp only [length_take, length_groupReplicas]
    omega

lemma nodup_declared (h : ∀ groups ∈ inst.spec.replicaGroups,
    (groups.map ReplicaGroup.role).Nodup) (n : Nat) : (inst.declared n).Nodup := by
  unfold declared
  cases hgroups : inst.spec.replicaGroups with
  | none =>
    refine nodup_range.map fun i j hij => ?_
    simpa using hij
  | some groups => exact (take_sublist _ _).nodup (nodup_groupReplicas (h groups hgroups))

lemma nodup_declaredIds (h : ∀ groups ∈ inst.spec.replicaGroups,
    (groups.map ReplicaGroup.role).Nodup) (n : Nat) : (inst.declaredIds n).Nodup := by
  refine (nodup_declared h n).map ?_
  rintro ⟨role, index⟩ ⟨role', index'⟩ heq
  rcases containerId_injective heq with ⟨rfl, rfl⟩
  rfl

/-- A running number that is the id of a declared replica: all of them are of the first group. -/
lemma fits_of_numberedId_mem {n : Nat} (h : inst.numberedId n ∈ inst.declaredIds (n + 1)) :
    inst.Fits (n + 1) := by
  unfold Fits
  cases hgroups : inst.spec.replicaGroups with
  | none => trivial
  | some groups =>
    rcases mem_map.mp h with ⟨⟨role, index⟩, hmem, heq⟩
    have hindex : index = n + 1 := (containerId_injective heq).2
    simp only [declared, hgroups] at hmem
    rcases getElem?_of_mem hmem with ⟨q, hq⟩
    rw [getElem?_take] at hq
    split at hq
    next hlt =>
      rcases index_le_of_getElem? hq with ⟨hle, hfirst⟩
      have hlast : q = n := by omega
      have hfits := hfirst (by omega)
      simp only
      omega
    · cases hq

end ServiceInstance

/-! ## Runs -/

/-- A service in a run, with the number of replicas that was asked for last. -/
structure ScaleRun where
  state : ScaleState
  target : Nat

namespace ScaleRun

def start (serviceName : String) (spec : ServiceSpec) (nodeId : UInt64) : ScaleRun :=
  { state :=
      { instance_ :=
          { serviceName
            spec
            nodeId
            containers := ∅ }
        runtime := ∅ }
    target := 0 }

def next (r : ScaleRun) (replicas : UInt32) : ScaleRun :=
  { state := (r.state.scaleTo .allOk replicas).1
    target := replicas.toNat }

/-- The instance and the runtime have the replicas that were asked for, and no other. -/
structure Reached (r : ScaleRun) : Prop where
  count : r.state.instance_.containers.card = r.target
  containers : r.state.instance_.containers = (r.state.instance_.declaredIds r.target).toFinset
  runtime : r.state.runtime = (r.state.instance_.declaredIds r.target).toFinset

/-- Scaling down is asked for only while all containers are of the first group. -/
def Shrinkable (r : ScaleRun) (replicas : UInt32) : Prop :=
  r.state.instance_.containers.card ≤ replicas.toNat ∨
    r.state.instance_.Fits r.state.instance_.containers.card

variable {r : ScaleRun} {replicas : UInt32}

lemma Reached.replicaCount (h : Reached r) (hlt : r.target < 2 ^ 32) :
    r.state.instance_.replicaCount = r.target := by
  rw [ServiceInstance.replicaCount, h.count, Nat.mod_eq_of_lt hlt]

lemma Reached.runtime_eq (h : Reached r) : r.state.runtime = r.state.instance_.containers :=
  h.runtime.trans h.containers.symm

lemma Reached.next_eq (h : Reached r) (hlt : r.target < 2 ^ 32) (replicas : UInt32) :
    ∃ ids, ids = (if replicas.toNat < r.target then
        r.state.instance_.containers \ ((range' replicas.toNat
          (r.target - replicas.toNat)).map r.state.instance_.numberedId).toFinset
      else (r.state.instance_.declaredIds replicas.toNat).toFinset) ∧
      r.next replicas = ⟨r.state.having ids ids, replicas.toNat⟩ := by
  refine ⟨_, rfl, ?_⟩
  rw [next, ScaleState.scaleTo]
  simp only [h.replicaCount hlt]
  split
  · rw [ScaleState.stopReplicas_allOk _ _ _ (nodup_range' 1), h.runtime_eq,
      Finset.sdiff_inter_self_left]
  next hge =>
    have hall : r.state.instance_.containers ∪ r.state.instance_.idsOf
        (r.state.instance_.replicaSpecs r.target replicas.toNat) =
        (r.state.instance_.declaredIds replicas.toNat).toFinset := by
      rw [ServiceInstance.declaredIds_add_replicaSpecs (Nat.not_lt.mp hge), toFinset_append,
        ← h.containers]
      rfl
    change ScaleRun.mk (r.state.startReplicas .allOk 0 _).1 _ = _
    rw [(ScaleState.startReplicas_eq ..).2, ScaleOutcomes.started_allOk, take_length,
      take_of_length_le (Nat.le_add_right ..), h.runtime_eq, hall]

lemma reached_next_iff (h : Reached r) (hlt : r.target < 2 ^ 32)
    (hroles : ∀ groups ∈ r.state.instance_.spec.replicaGroups,
      (groups.map ReplicaGroup.role).Nodup)
    (hdeclared : ServiceInstance.Declares r.state.instance_.spec replicas.toNat) :
    Reached (r.next replicas) ↔ Shrinkable r replicas := by
  have hcard : ((r.state.instance_.declaredIds replicas.toNat).toFinset).card = replicas.toNat := by
    rw [toFinset_card_of_nodup (ServiceInstance.nodup_declaredIds hroles _),
      ServiceInstance.declaredIds, length_map, ServiceInstance.length_declared hdeclared]
  rcases h.next_eq hlt replicas with ⟨ids, hids, hnext⟩
  rw [hnext, Shrinkable, h.count]
  split at hids <;> subst hids
  next hless =>
    rw [or_iff_right (by omega)]
    constructor
    · intro hreached
      -- every id of the loop was found, that of the last replica too
      let made := (range' replicas.toNat (r.target - replicas.toNat)).map
        r.state.instance_.numberedId
      have hmade : made.toFinset.card = r.target - replicas.toNat := by
        have hnodup : made.Nodup := (nodup_range' 1).map ServiceInstance.numberedId_injective
        rw [toFinset_card_of_nodup hnodup, length_map, length_range']
      have hleft : (r.state.instance_.containers \ made.toFinset).card = replicas.toNat :=
        hreached.count
      have hall : made.toFinset ⊆ r.state.instance_.containers := by
        rw [← Finset.inter_eq_left]
        apply Finset.eq_of_subset_of_card_le Finset.inter_subset_left
        have hsplit := Finset.card_sdiff_add_card_inter r.state.instance_.containers made.toFinset
        rw [Finset.inter_comm, h.count] at hsplit
        omega
      have hlast : r.state.instance_.numberedId (r.target - 1) ∈ made.toFinset := by
        rw [mem_toFinset]
        refine mem_map_of_mem (mem_range'_1.mpr ⟨by omega, by omega⟩)
      have hmem := hall hlast
      rw [h.containers, mem_toFinset] at hmem
      have hpos : r.target = r.target - 1 + 1 := by omega
      rw [hpos]
      exact ServiceInstance.fits_of_numberedId_mem (hpos ▸ hmem)
    · intro hfits
      rw [h.containers, ServiceInstance.declaredIds_sdiff hfits hless.le]
      exact ⟨hcard, rfl, rfl⟩
  next hge => exact iff_of_true ⟨hcard, rfl, rfl⟩ (.inl (by omega))

/-- A service reaches every target of a run, exactly if it is never scaled down from beyond its
first group. -/
theorem targets_reached_iff (serviceName : String) (spec : ServiceSpec) (nodeId : UInt64)
    (hroles : ∀ groups ∈ spec.replicaGroups, (groups.map ReplicaGroup.role).Nodup)
    (targets : List UInt32)
    (hdeclared : ∀ replicas ∈ targets, ServiceInstance.Declares spec replicas.toNat) :
    (∀ made, made <+: targets → Reached (made.foldl next (start serviceName spec nodeId))) ↔
      Machine.Along next Shrinkable (start serviceName spec nodeId) targets := by
  have hstart : Reached (start serviceName spec nodeId) := by
    refine ⟨rfl, ?_, ?_⟩
    all_goals
      simp only [start, ServiceInstance.declaredIds, ServiceInstance.declared]
      cases spec.replicaGroups <;> rfl
  have hiff : ∀ r : ScaleRun, ∀ replicas ∈ targets,
      Reached r ∧ r.target < 2 ^ 32 ∧ r.state.instance_.spec = spec →
        (Reached (r.next replicas) ↔ Shrinkable r replicas) := by
    rintro r replicas hmem ⟨hr, hlt, rfl⟩
    exact reached_next_iff hr hlt hroles (hdeclared replicas hmem)
  refine Machine.forall_prefix_iff_along
    (I := fun r => Reached r ∧ r.target < 2 ^ 32 ∧ r.state.instance_.spec = spec)
    (fun r hr => hr.1) (fun r replicas hmem hr hshrinks => ?_)
    (fun r replicas hmem hr => (hiff r replicas hmem hr).mp) ⟨hstart, Nat.two_pow_pos 32, rfl⟩
  refine ⟨(hiff r replicas hmem hr).mpr hshrinks, replicas.toNat_lt, ?_⟩
  rcases hr.1.next_eq hr.2.1 replicas with ⟨ids, -, hnext⟩
  rw [hnext]
  exact hr.2.2

/-! ## A primary and its readers -/

def exampleSpec (primaries readers : UInt32) : ServiceSpec :=
  { image := "docker.io/library/postgres:17"
    depends := []
    replicaGroups := some
      [{ role := "primary", count := primaries }, { role := "read", count := readers }] }

/-- Two primaries: one of them is stopped and started again, then the reader is added. -/
theorem targets_reached_iff_two_primaries :
    Reached ([2, 1, 3].foldl next (start "db" (exampleSpec 2 1) 0)) :=
  (targets_reached_iff "db" (exampleSpec 2 1) 0 (by simp [exampleSpec]) [2, 1, 3]
    (by simp [ServiceInstance.Declares, exampleSpec])).mpr
    ⟨.inl (Nat.zero_le _), .inr (by decide +kernel), .inl (by decide +kernel), trivial⟩
    [2, 1, 3] prefix_rfl

/-- A primary and a reader: the reader is not stopped when one replica is asked for. -/
theorem reader_not_stopped : ¬ Reached ([2, 1].foldl next (start "db" (exampleSpec 1 1) 0)) := by
  intro h
  have hcount := h.count
  revert hcount
  decide +kernel

end ScaleRun

end ZLayer.Agent
