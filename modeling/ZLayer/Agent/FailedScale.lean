import ZLayer.Agent.ScaleEffects

/-!
# FailedScale — the containers that a failed call leaves behind

A container is in the runtime from `create_container` on, and in the map only when it is up; on the
way down it leaves the map first.  A call that fails in between leaves a container that no later
call knows of.  A call that fails at the pull or at a `create_container` leaves none.
-/

namespace ZLayer.Agent

open List

namespace ScaleState

/-- Every container of the runtime is in the map, and scaling down to 0 removes it. -/
def Accounted (s : ScaleState) : Prop :=
  s.runtime ⊆ s.instance_.containers ∧ (s.scaleTo .allOk 0).1.runtime = ∅

/-- Scaling down to 0 makes the ids of all containers: they are the replicas 1 to the count. -/
def Numbered (inst : ServiceInstance) (ids : Finset ContainerId) : Prop :=
  ∀ id ∈ ids, ∃ i < ids.card % 2 ^ 32, id = inst.numberedId i

/-- The call scales up and fails at the pull, or where the next container could not be created or
was known already. -/
def FailsClean (s : ScaleState) (io : ScaleOutcomes) (replicas : UInt32) : Prop :=
  let inst := s.instance_
  let specs := inst.replicaSpecs inst.replicaCount replicas.toNat
  let up := io.started 0 specs.length
  let ids := inst.containers ∪ inst.idsOf (specs.take up)
  inst.replicaCount ≤ replicas.toNat ∧
    if io.pull = .ok () then
      (io.create up = .ok () → inst.idsOf (specs.take (up + 1)) ⊆ ids) ∧ Numbered inst ids
    else Numbered inst inst.containers

variable {s : ScaleState} {io : ScaleOutcomes} {replicas : UInt32}

/-- What the runtime has after a scale-down to 0 whose calls succeed. -/
lemma runtime_scaleTo_zero (s : ScaleState) :
    (s.scaleTo .allOk 0).1.runtime = s.runtime \ (s.instance_.containers ∩
      ((List.range s.instance_.replicaCount).map s.instance_.numberedId).toFinset) := by
  simp only [scaleTo, UInt32.toNat_zero]
  split
  · rw [stopReplicas_allOk _ _ _ (nodup_range' 1), having_runtime, Nat.sub_zero,
      range_eq_range']
  next hge =>
    have hspecs : s.instance_.replicaSpecs s.instance_.replicaCount 0 = [] := by
      unfold ServiceInstance.replicaSpecs
      cases s.instance_.spec.replicaGroups <;> simp
    have hzero : s.instance_.replicaCount = 0 := by omega
    rw [hspecs, hzero]
    simp [ScaleOutcomes.allOk, startReplicas]

lemma accounted_iff : s.Accounted ↔ s.runtime ⊆ s.instance_.containers ∧
    ∀ id ∈ s.runtime, ∃ i < s.instance_.containers.card % 2 ^ 32,
      id = s.instance_.numberedId i := by
  rw [Accounted, runtime_scaleTo_zero, Finset.sdiff_eq_empty_iff_subset, Finset.subset_inter_iff,
    ServiceInstance.replicaCount]
  refine and_congr_right fun hsub => (and_iff_right hsub).trans ?_
  simp only [Finset.subset_iff, mem_toFinset, mem_map, mem_range, eq_comm]

lemma accounted_having {ids runtime : Finset ContainerId} (hsub : ids ⊆ runtime) :
    (s.having ids runtime).Accounted ↔ runtime ⊆ ids ∧ Numbered s.instance_ ids := by
  rw [accounted_iff]
  simp only [having_runtime, having_containers, having_numberedId]
  refine and_congr_right fun h => ?_
  rw [h.antisymm hsub]
  rfl

/-- The container that could not be stopped or removed was in the map and not stopped before. -/
lemma exists_not_stopped {held : Finset ContainerId} {ids : List ContainerId} {k : Nat}
    (hnodup : ids.Nodup) (h : io.stopped held k ids ≠ ids.length) :
    ∃ id ∈ held, id ∈ ids.take (io.stopped held k ids + 1) ∧
      id ∉ ids.take (io.stopped held k ids) := by
  induction ids generalizing k with
  | nil => exact absurd rfl h
  | cons first rest ih =>
    rcases nodup_cons.mp hnodup with ⟨hnew, hrest⟩
    rw [ScaleOutcomes.stopped] at h ⊢
    split at h
    next hstops =>
      rcases ih (k := k + 1) hrest (fun heq => h (congrArg (· + 1) heq)) with ⟨id, hheld, hid, hnot⟩
      have hne : id ≠ first := fun heq => hnew (heq ▸ mem_of_mem_take hid)
      rw [if_pos hstops]
      exact ⟨id, hheld, mem_cons_of_mem first hid, by simp [hne, hnot]⟩
    next hstuck =>
      push Not at hstuck
      exact ⟨first, hstuck.1, by simp [hstuck]⟩

/-- A call that scales down and fails has let go of a container that the runtime still has. -/
lemma not_accounted_of_stops {is : List Nat} (hnodup : is.Nodup)
    (hclean : s.runtime = s.instance_.containers) (hfail : (s.stopReplicas io 0 is).2 ≠ .ok ()) :
    ¬ (s.stopReplicas io 0 is).1.Accounted := by
  rcases stopReplicas_eq 0 is s hnodup with ⟨hresult, hstate⟩
  have hlength := mt hresult.mpr hfail
  rw [← length_map s.instance_.numberedId] at hlength
  rcases exists_not_stopped (hnodup.map ServiceInstance.numberedId_injective) hlength with
    ⟨id, hheld, hleft, hkept⟩
  intro haccounted
  have hmem : id ∈ (s.stopReplicas io 0 is).1.runtime := by
    rw [hstate, having_runtime, hclean]
    simp [hheld, hkept]
  have hmap := haccounted.1 hmem
  rw [hstate, having_containers, Finset.mem_sdiff] at hmap
  exact hmap.2 (mem_toFinset.mpr hleft)

/-- A call that fails leaves every container of the runtime in the map, to be removed by scaling
down to 0, exactly if it fails before it has created a container that is not in the map. -/
theorem failed_scale_accounted_iff (s : ScaleState) (io : ScaleOutcomes) (replicas : UInt32)
    (hclean : s.runtime = s.instance_.containers) (hfail : (s.scaleTo io replicas).2 ≠ .ok ()) :
    (s.scaleTo io replicas).1.Accounted ↔ s.FailsClean io replicas := by
  unfold scaleTo FailsClean at *
  by_cases hdown : replicas.toNat < s.instance_.replicaCount
  · simp only [if_pos hdown] at hfail ⊢
    exact iff_of_false (not_accounted_of_stops (nodup_range' 1) hclean hfail)
      fun h => absurd h.1 (Nat.not_le.mpr hdown)
  simp only [if_neg hdown, Nat.not_lt.mp hdown, true_and] at hfail ⊢
  cases hpull : io.pull with
  | error e =>
    rw [if_neg nofun, accounted_iff, hclean]
    exact and_iff_right (Finset.Subset.refl _)
  | ok =>
    rw [if_pos rfl]
    simp only [(startReplicas_eq 0 _ s).2, hclean, Nat.zero_add]
    generalize s.instance_.replicaSpecs s.instance_.replicaCount replicas.toNat = specs
    generalize io.started 0 specs.length = up
    by_cases hcreate : io.create up = .ok ()
    · have hmore : s.instance_.idsOf (specs.take up) ⊆ s.instance_.idsOf (specs.take (up + 1)) := by
        intro id hid
        simp only [ServiceInstance.idsOf, mem_toFinset] at hid ⊢
        exact map_subset _ (take_subset_take_left specs (Nat.le_succ up)) hid
      rw [if_pos hcreate, accounted_having (Finset.union_subset_union_right hmore),
        Finset.union_subset_iff]
      simp [hcreate]
    · rw [if_neg hcreate, Nat.add_zero, accounted_having (Finset.Subset.refl _)]
      simp [hcreate]

/-! ## A service without groups -/

def exampleService : ScaleState :=
  { instance_ :=
      { serviceName := "web"
        spec := { image := "docker.io/library/nginx:1.29", depends := [], replicaGroups := none }
        nodeId := 0
        containers := ∅ }
    runtime := ∅ }

def startFails : ScaleOutcomes :=
  { ScaleOutcomes.allOk with start := fun _ => .error (.other "timeout") }

def secondCreateFails : ScaleOutcomes :=
  { ScaleOutcomes.allOk with
    create := fun k => if k = 1 then .error (.other "no space left") else .ok () }

def oneRunning : ScaleState := (exampleService.scaleTo .allOk 1).1

/-- One container is running, a second one comes up and the third cannot be created: both that are
up can be removed. -/
theorem failed_scale_accounted_secondCreateFails :
    oneRunning.runtime.card = 1 ∧ (oneRunning.scaleTo secondCreateFails 3).1.runtime.card = 2 ∧
      (oneRunning.scaleTo secondCreateFails 3).1.Accounted := by
  refine ⟨by decide +kernel, by decide +kernel, ?_⟩
  refine (failed_scale_accounted_iff oneRunning secondCreateFails 3 (by decide +kernel) ?_).mpr ?_
  · decide +kernel
  · refine ⟨by decide +kernel, ?_⟩
    have hpull : secondCreateFails.pull = .ok () := rfl
    rw [if_pos hpull]
    unfold Numbered
    decide +kernel

/-- A container that was created and did not start is not in the map, and scaling down to 0 leaves
it in the runtime. -/
theorem container_left_behind : ¬ ∀ (s : ScaleState) (io : ScaleOutcomes) (replicas : UInt32),
      s.runtime = s.instance_.containers → (s.scaleTo io replicas).2 ≠ .ok () →
        (s.scaleTo io replicas).1.Accounted := by
  intro h
  have hleft : ((exampleService.scaleTo startFails 1).1.scaleTo .allOk 0).1.runtime ≠ ∅ := by
    decide +kernel
  exact hleft (h exampleService startFails 1 rfl nofun).2

end ScaleState

end ZLayer.Agent
