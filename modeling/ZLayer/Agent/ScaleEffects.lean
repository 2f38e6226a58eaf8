import Mathlib.Data.Finset.Image
import ZLayer.Agent.ServiceInstance

/-!
# ScaleEffects — what one call of `scale_to` leaves

Containers are started, or stopped, one after the other until one fails.  A container that is
created and does not come up is in the runtime and not in the map; so is one that has left the map
and cannot be stopped.
-/

namespace ZLayer.Agent

open List

namespace ScaleOutcomes

def Starts (io : ScaleOutcomes) (k : Nat) : Prop :=
  io.create k = .ok () ∧ io.init k = .ok () ∧ io.start k = .ok () ∧ io.exited k = none

def Stops (io : ScaleOutcomes) (k : Nat) : Prop := io.stop k = .ok () ∧ io.remove k = .ok ()

instance decidableStarts (io : ScaleOutcomes) (k : Nat) : Decidable (io.Starts k) :=
  inferInstanceAs (Decidable (_ ∧ _))

instance decidableStops (io : ScaleOutcomes) (k : Nat) : Decidable (io.Stops k) :=
  inferInstanceAs (Decidable (_ ∧ _))

/-- How many of the next `n` containers come up before one does not. -/
def started (io : ScaleOutcomes) : Nat → Nat → Nat
  | _, 0 => 0
  | k, n + 1 => if io.Starts k then io.started (k + 1) n + 1 else 0

/-- How many of the containers are gone before one of the map cannot be stopped or removed. -/
def stopped (io : ScaleOutcomes) (held : Finset ContainerId) : Nat → List ContainerId → Nat
  | _, [] => 0
  | k, id :: rest => if id ∈ held → io.Stops k then io.stopped held (k + 1) rest + 1 else 0

variable {io : ScaleOutcomes}

lemma started_eq_iff (k n : Nat) : io.started k n = n ↔ ∀ j < n, io.Starts (k + j) := by
  induction n generalizing k with
  | zero => simp [started]
  | succ n ih =>
    have hsucc : ∀ j, k + 1 + j = k + (j + 1) := by omega
    rw [started, Nat.forall_lt_succ_left]
    split
    next hfirst => simp [ih, hsucc, hfirst]
    next hfirst => simp [hfirst]

lemma stopped_congr {held held' : Finset ContainerId} {ids : List ContainerId}
    (h : ∀ id ∈ ids, id ∈ held ↔ id ∈ held') (k : Nat) :
    io.stopped held k ids = io.stopped held' k ids := by
  induction ids generalizing k with
  | nil => rfl
  | cons id rest ih =>
    simp only [stopped, h id mem_cons_self,
      ih (fun other hother => h other (mem_cons_of_mem id hother))]

lemma stopped_eq_iff {held : Finset ContainerId} {ids : List ContainerId}
    (h : ∀ id ∈ ids, id ∈ held) (k : Nat) :
    io.stopped held k ids = ids.length ↔ ∀ j < ids.length, io.Stops (k + j) := by
  induction ids generalizing k with
  | nil => simp [stopped]
  | cons id rest ih =>
    have hsucc : ∀ j, k + 1 + j = k + (j + 1) := by omega
    have hrest := ih (fun other hother => h other (mem_cons_of_mem id hother)) (k + 1)
    rw [stopped, length_cons, Nat.forall_lt_succ_left]
    simp only [h id mem_cons_self, forall_const, Nat.add_zero]
    split
    next hfirst => simp [hrest, hsucc, hfirst]
    next hfirst => simp [hfirst]

lemma started_allOk (k n : Nat) : allOk.started k n = n :=
  (started_eq_iff k n).mpr fun _ _ => ⟨rfl, rfl, rfl, rfl⟩

lemma stopped_allOk (held : Finset ContainerId) (k : Nat) (ids : List ContainerId) :
    allOk.stopped held k ids = ids.length := by
  induction ids generalizing k with
  | nil => rfl
  | cons id rest ih =>
    have hstops : id ∈ held → allOk.Stops k := fun _ => ⟨rfl, rfl⟩
    rw [stopped, if_pos hstops, ih, length_cons]

end ScaleOutcomes

def ServiceInstance.idsOf (inst : ServiceInstance) (specs : List (String × Nat)) :
    Finset ContainerId :=
  (specs.map fun replica => inst.containerId replica.1 replica.2).toFinset

/-- The id that scaling down makes for the replica with running number `i`, from 0. -/
def ServiceInstance.numberedId (inst : ServiceInstance) (i : Nat) : ContainerId :=
  inst.containerId (inst.roleForReplica (i + 1)) (i + 1)

lemma ServiceInstance.containerId_injective {inst : ServiceInstance} {role role' : String}
    {replica replica' : Nat} (h : inst.containerId role replica = inst.containerId role' replica') :
    role = role' ∧ replica = replica' := by
  simp only [containerId, ContainerId.withRoleAndNode, ContainerId.mk.injEq] at h
  exact ⟨h.2.2.1, h.2.1⟩

lemma ServiceInstance.numberedId_injective {inst : ServiceInstance} :
    Function.Injective inst.numberedId := by
  intro i j h
  have heq := (containerId_injective h).2
  omega

namespace ScaleState

variable {io : ScaleOutcomes}

/-- The state with other containers in the map and in the runtime. -/
def having (s : ScaleState) (ids runtime : Finset ContainerId) : ScaleState :=
  { instance_ := { s.instance_ with containers := ids }
    runtime }

section Having

variable (s : ScaleState) (ids runtime : Finset ContainerId)

@[simp] lemma having_containers : (s.having ids runtime).instance_.containers = ids := rfl

@[simp] lemma having_runtime : (s.having ids runtime).runtime = runtime := rfl

@[simp] lemma having_numberedId :
    (s.having ids runtime).instance_.numberedId = s.instance_.numberedId := rfl

@[simp] lemma having_having (ids' runtime' : Finset ContainerId) :
    (s.having ids runtime).having ids' runtime' = s.having ids' runtime' := rfl

end Having

/-- One container: whether it came up, and where it is then. -/
lemma startReplica_eq (k : Nat) (id : ContainerId) (s : ScaleState) :
    ((s.startReplica io k id).2 = .ok () ↔ io.Starts k) ∧
    (s.startReplica io k id).1 = s.having
      (if io.Starts k then insert id s.instance_.containers else s.instance_.containers)
      (if io.create k = .ok () then insert id s.runtime else s.runtime) := by
  unfold startReplica
  by_cases hstarts : io.Starts k
  · simp [hstarts, hstarts.1, hstarts.2.1, hstarts.2.2.1, hstarts.2.2.2, having]
  · have hstarts' := hstarts
    unfold ScaleOutcomes.Starts at hstarts'
    simp only [hstarts, if_false]
    repeat' split
    all_goals simp_all [having]

/-- The containers that came up are in the map, and with them one more in the runtime if it was
created. -/
lemma startReplicas_eq (k : Nat) (specs : List (String × Nat)) (s : ScaleState) :
    ((s.startReplicas io k specs).2 = .ok () ↔ io.started k specs.length = specs.length) ∧
    (s.startReplicas io k specs).1 = s.having
      (s.instance_.containers ∪ s.instance_.idsOf (specs.take (io.started k specs.length)))
      (s.runtime ∪ s.instance_.idsOf (specs.take (io.started k specs.length +
        if io.create (k + io.started k specs.length) = .ok () then 1 else 0))) := by
  induction specs generalizing k s with
  | nil => simp [startReplicas, having, ServiceInstance.idsOf, ScaleOutcomes.started]
  | cons replica rest ih =>
    rcases startReplica_eq k (s.instance_.containerId replica.1 replica.2) s with ⟨hsnd, hfst⟩
    rw [startReplicas]
    rcases hfirst : s.startReplica io k (s.instance_.containerId replica.1 replica.2) with
      ⟨next, e | ⟨⟩⟩
    · rw [hfirst] at hsnd hfst
      have hnot : ¬ io.Starts k := fun hstarts => nomatch hsnd.mpr hstarts
      obtain rfl : next = _ := hfst
      by_cases hcreate : io.create k = .ok () <;>
        simp [ScaleOutcomes.started, hnot, hcreate, having, ServiceInstance.idsOf]
    · rw [hfirst] at hsnd hfst
      have hstarts : io.Starts k := hsnd.mp rfl
      obtain rfl : next = _ := hfst
      rcases ih (k + 1) (s.having (insert (s.instance_.containerId replica.1 replica.2)
        s.instance_.containers) (insert (s.instance_.containerId replica.1 replica.2) s.runtime))
        with ⟨hsnd', hfst'⟩
      have hplace : k + 1 + io.started (k + 1) rest.length =
        k + (io.started (k + 1) rest.length + 1) := by omega
      simp only [hstarts, hstarts.1, if_true, length_cons, ScaleOutcomes.started] at *
      refine ⟨hsnd'.trans (by omega), hfst'.trans ?_⟩
      rw [hplace, Nat.add_right_comm]
      simp [having, ServiceInstance.idsOf, ServiceInstance.containerId]

lemma stopReplica_eq (k : Nat) (id : ContainerId) (s : ScaleState) :
    ((s.stopReplica io k id).2 = .ok () ↔ (id ∈ s.instance_.containers → io.Stops k)) ∧
    (s.stopReplica io k id).1 = s.having (s.instance_.containers.erase id)
      (if id ∈ s.instance_.containers ∧ io.Stops k then s.runtime.erase id else s.runtime) := by
  unfold stopReplica
  by_cases hmem : id ∈ s.instance_.containers
  · by_cases hstops : io.Stops k
    · simp [hmem, hstops, hstops.1, hstops.2, having]
    · have hstops' := hstops
      unfold ScaleOutcomes.Stops at hstops'
      simp only [hmem, hstops, and_false, if_false, if_true]
      repeat' split
      all_goals simp_all [having]
  · simp [hmem, having]

/-- The first containers have left the map and the runtime, and the one that could not be stopped or
removed has left the map. -/
lemma stopReplicas_eq (k : Nat) (is : List Nat) (s : ScaleState) (hnodup : is.Nodup) :
    ((s.stopReplicas io k is).2 = .ok () ↔
      io.stopped s.instance_.containers k (is.map s.instance_.numberedId) = is.length) ∧
    (s.stopReplicas io k is).1 = s.having
      (s.instance_.containers \ ((is.map s.instance_.numberedId).take
        (io.stopped s.instance_.containers k (is.map s.instance_.numberedId) + 1)).toFinset)
      (s.runtime \ (s.instance_.containers ∩ ((is.map s.instance_.numberedId).take
        (io.stopped s.instance_.containers k (is.map s.instance_.numberedId))).toFinset)) := by
  induction is generalizing k s with
  | nil => simp [stopReplicas, having, ScaleOutcomes.stopped]
  | cons i rest ih =>
    rcases nodup_cons.mp hnodup with ⟨hnew, hrest⟩
    rcases stopReplica_eq k (s.instance_.numberedId i) s with ⟨hsnd, hfst⟩
    simp only [stopReplicas]
    rw [← ServiceInstance.numberedId]
    rcases hfirst : s.stopReplica io k (s.instance_.numberedId i) with ⟨next, e | ⟨⟩⟩
    · rw [hfirst] at hsnd hfst
      have hnot : ¬ (s.instance_.numberedId i ∈ s.instance_.containers → io.Stops k) :=
        fun hstops => nomatch hsnd.mpr hstops
      obtain rfl : next = _ := hfst
      rw [map_cons, ScaleOutcomes.stopped, if_neg hnot]
      push Not at hnot
      simp [having, hnot, Finset.sdiff_singleton_eq_erase]
    · rw [hfirst] at hsnd hfst
      have hstops := hsnd.mp rfl
      obtain rfl : next = _ := hfst
      rcases ih (k + 1) (s.having (s.instance_.containers.erase (s.instance_.numberedId i))
        (if s.instance_.numberedId i ∈ s.instance_.containers ∧ io.Stops k then
          s.runtime.erase (s.instance_.numberedId i) else s.runtime)) hrest with ⟨hsnd', hfst'⟩
      have hsame : ∀ id ∈ rest.map s.instance_.numberedId,
          id ∈ s.instance_.containers.erase (s.instance_.numberedId i) ↔
            id ∈ s.instance_.containers := by
        intro id hid
        rcases mem_map.mp hid with ⟨j, hj, rfl⟩
        rw [Finset.mem_erase, and_iff_right]
        exact fun heq => hnew (ServiceInstance.numberedId_injective heq ▸ hj)
      rw [map_cons, ScaleOutcomes.stopped, if_pos hstops, take_succ_cons,
        take_succ_cons, toFinset_cons, toFinset_cons, length_cons]
      simp only [having_containers, having_numberedId, having_runtime, having_having,
        ScaleOutcomes.stopped_congr hsame (k + 1)] at hsnd' hfst'
      refine ⟨hsnd'.trans (by omega), hfst'.trans ?_⟩
      congr 1
      · rw [Finset.sdiff_insert, Finset.erase_sdiff_comm]
      · ext id
        by_cases hid : id = s.instance_.numberedId i
        · subst hid
          by_cases hmem : s.instance_.numberedId i ∈ s.instance_.containers <;>
            simp [hmem, hstops]
        · split <;> simp [hid]

lemma stopReplicas_allOk (k : Nat) (is : List Nat) (s : ScaleState) (hnodup : is.Nodup) :
    (s.stopReplicas .allOk k is).1 = s.having
      (s.instance_.containers \ (is.map s.instance_.numberedId).toFinset)
      (s.runtime \ (s.instance_.containers ∩ (is.map s.instance_.numberedId).toFinset)) := by
  rw [(stopReplicas_eq k is s hnodup).2, ScaleOutcomes.stopped_allOk, take_length,
    take_of_length_le (Nat.le_add_right _ _)]

end ScaleState

end ZLayer.Agent
