import ZLayer.Agent.ScaleTarget

/-!
# Supervision — the containers that the supervisor watches

The manager computes the ids to watch a second time: from the replica count before the call, with
the numbering of scaling down, and only if the call has succeeded.  So the supervisor watches what
the instance has as long as all replicas are of the first group, and a call that fails does so
before it has started or stopped anything.
-/

namespace ZLayer.Agent

open Lib List

lemma foldl_insert_eq {α β : Type} [DecidableEq α] (f : β → α) (is : List β) (ids : Finset α) :
    is.foldl (fun watched i => insert (f i) watched) ids = ids ∪ (is.map f).toFinset := by
  induction is generalizing ids with
  | nil => simp
  | cons i is ih =>
    rw [foldl_cons, ih]
    simp [Finset.insert_union, Finset.union_insert]

lemma foldl_erase_eq {α β : Type} [DecidableEq α] (f : β → α) (is : List β) (ids : Finset α) :
    is.foldl (fun watched i => watched.erase (f i)) ids = ids \ (is.map f).toFinset := by
  induction is generalizing ids with
  | nil => simp
  | cons i is ih =>
    rw [foldl_cons, ih]
    simp [Finset.sdiff_insert, Finset.erase_sdiff_comm]

namespace ServiceInstance

variable {inst : ServiceInstance} {n target : Nat}

lemma card_declaredIds_of_fits (h : inst.Fits n) : (inst.declaredIds n).toFinset.card = n := by
  have hnodup : ((range n).map inst.numberedId).Nodup :=
    nodup_range.map numberedId_injective
  rw [declaredIds_of_fits h, toFinset_card_of_nodup hnodup, length_map, length_range]

lemma length_replicaSpecs_of_fits (h : inst.Fits target) (hle : n ≤ target) :
    (inst.replicaSpecs n target).length = target - n := by
  have hsplit : (inst.declared target).length =
      (inst.declared n ++ inst.replicaSpecs n target).length :=
    congrArg length (declared_add_replicaSpecs hle)
  rw [length_append, declared_of_fits h, declared_of_fits (h.mono hle)] at hsplit
  simp only [length_map, length_range] at hsplit
  omega

end ServiceInstance

namespace ManagedService

def next (m : ManagedService) (call : UInt32 × ScaleOutcomes) : ManagedService :=
  (m.scaleServiceLocal call.2 call.1).1

def start (serviceName : String) (spec : ServiceSpec) (nodeId localNodeId : UInt64) :
    ManagedService :=
  { scale :=
      { instance_ :=
          { serviceName
            spec
            nodeId
            containers := ∅ }
        runtime := ∅ }
    localNodeId
    supervised := ∅ }

/-- The supervisor watches exactly the containers of the map. -/
def Watched (m : ManagedService) : Prop := m.supervised = m.scale.instance_.containers

instance decidableWatched (m : ManagedService) : Decidable m.Watched :=
  inferInstanceAs (Decidable (m.supervised = m.scale.instance_.containers))

/-- A call that does what it says to the end, with all replicas in the first group and the node id
of the instance the manager's, or one that fails before its first container is up. -/
def Harmless (m : ManagedService) (call : UInt32 × ScaleOutcomes) : Prop :=
  let inst := m.scale.instance_
  let current := inst.containers.card
  let target := call.1.toNat
  if target < current then ∀ k < current - target, call.2.Stops k
  else
    call.2.pull ≠ .ok () ∨
      (inst.replicaSpecs current target ≠ [] ∧ ¬ call.2.Starts 0) ∨
      ((target = current ∨ inst.Fits target ∧ m.localNodeId = inst.nodeId) ∧
        ∀ k < target - current, call.2.Starts k)

/-- The containers are the first `n` replicas, all of the first group, and the supervisor watches
them. -/
structure InStep (m : ManagedService) (n : Nat) : Prop where
  watched : m.Watched
  fits : m.scale.instance_.Fits n
  containers : m.scale.instance_.containers = (m.scale.instance_.declaredIds n).toFinset
  count : n < 2 ^ 32
  node : n = 0 ∨ m.localNodeId = m.scale.instance_.nodeId

variable {m : ManagedService} {n : Nat} {replicas : UInt32} {io : ScaleOutcomes}

lemma supervisedId_eq (h : m.localNodeId = m.scale.instance_.nodeId) :
    m.supervisedId = m.scale.instance_.numberedId := by
  funext i
  simp only [supervisedId, ServiceInstance.numberedId, ServiceInstance.containerId, h]

lemma InStep.card (h : m.InStep n) : m.scale.instance_.containers.card = n := by
  rw [h.containers, ServiceInstance.card_declaredIds_of_fits h.fits]

lemma InStep.replicaCount (h : m.InStep n) : m.scale.instance_.replicaCount = n := by
  rw [ServiceInstance.replicaCount, h.card, Nat.mod_eq_of_lt h.count]

lemma next_of_error (h : (m.scale.scaleTo io replicas).2 ≠ .ok ()) :
    m.next (replicas, io) = { m with scale := (m.scale.scaleTo io replicas).1 } := by
  rw [next, scaleServiceLocal]
  rcases hscale : m.scale.scaleTo io replicas with ⟨scale, e | ⟨⟩⟩
  · rfl
  · rw [hscale] at h
    exact absurd rfl h

/-- The supervisor is told of a call that has succeeded. -/
lemma InStep.next_of_ok (h : m.InStep n) (hok : (m.scale.scaleTo io replicas).2 = .ok ()) :
    m.next (replicas, io) =
      { m with
        scale := (m.scale.scaleTo io replicas).1
        supervised :=
          if n < replicas.toNat then
            m.scale.instance_.containers ∪
              ((range' n (replicas.toNat - n)).map m.supervisedId).toFinset
          else
            m.scale.instance_.containers \
              ((range' replicas.toNat (n - replicas.toNat)).map m.supervisedId).toFinset } := by
  rw [next, scaleServiceLocal, h.replicaCount, ← h.watched]
  rcases hscale : m.scale.scaleTo io replicas with ⟨scale, e | ⟨⟩⟩
  · rw [hscale] at hok
    cases hok
  · simp only [foldl_insert_eq, foldl_erase_eq]

/-! ## One call -/

/-- The containers and what is watched have become the first `target` replicas. -/
lemma inStep_of_declared {target : Nat} {runtime : Finset ContainerId}
    (hfits : m.scale.instance_.Fits target) (hcount : target < 2 ^ 32)
    (hnode : target = 0 ∨ m.localNodeId = m.scale.instance_.nodeId) :
    InStep
      { m with
        scale := m.scale.having (m.scale.instance_.declaredIds target).toFinset runtime
        supervised := (m.scale.instance_.declaredIds target).toFinset } target :=
  ⟨rfl, hfits, rfl, hcount, hnode⟩

/-- On the way down the supervisor follows if every container is stopped: one that is not has left
the map, and is still watched. -/
lemma InStep.shrink (h : m.InStep n) (hless : replicas.toNat < n) (io : ScaleOutcomes) :
    if ∀ k < n - replicas.toNat, io.Stops k then (m.next (replicas, io)).InStep replicas.toNat
    else ¬ (m.next (replicas, io)).Watched := by
  have hnode : m.localNodeId = m.scale.instance_.nodeId := h.node.resolve_left (by omega)
  have hscale : m.scale.scaleTo io replicas =
      m.scale.stopReplicas io 0 (range' replicas.toNat (n - replicas.toNat)) := by
    rw [ScaleState.scaleTo, h.replicaCount]
    exact if_pos hless
  rcases ScaleState.stopReplicas_eq 0 (range' replicas.toNat (n - replicas.toNat)) m.scale
    (nodup_range' 1) with ⟨hok, hstate⟩
  rw [← hscale] at hok hstate
  generalize hids : (range' replicas.toNat (n - replicas.toNat)).map
    m.scale.instance_.numberedId = ids at hok hstate
  have hlength : ids.length = n - replicas.toNat := by
    rw [← hids, length_map, length_range']
  have hmem : ∀ id ∈ ids, id ∈ m.scale.instance_.containers := by
    rw [← hids, h.containers, ServiceInstance.declaredIds_of_fits h.fits]
    simp only [mem_map, mem_range'_1, mem_toFinset, mem_range]
    rintro _ ⟨i, hi, rfl⟩
    exact ⟨i, by omega, rfl⟩
  have hstops : io.stopped m.scale.instance_.containers 0 ids = ids.length ↔ _ :=
    ScaleOutcomes.stopped_eq_iff hmem 0
  simp only [Nat.zero_add, hlength] at hstops
  rw [length_range', hstops] at hok
  split
  next hall =>
    have hsdiff : m.scale.instance_.containers \ ids.toFinset =
        (m.scale.instance_.declaredIds replicas.toNat).toFinset := by
      rw [h.containers, ← hids, ServiceInstance.declaredIds_sdiff h.fits hless.le]
    rw [h.next_of_ok (hok.mpr hall), hstate, if_neg hless.not_gt, supervisedId_eq hnode, hids,
      take_of_length_le (by rw [hstops.mpr hall, hlength]; omega), hsdiff]
    exact inStep_of_declared (h.fits.mono hless.le) replicas.toNat_lt (.inr hnode)
  next hnot =>
    rw [next_of_error (mt hok.mp hnot), hstate]
    intro hwatched
    have hids : m.scale.instance_.containers = _ := h.watched.symm.trans hwatched
    cases ids with
    | nil =>
      simp only [length_nil] at hlength
      omega
    | cons first rest =>
      have hfirst := hmem first mem_cons_self
      rw [hids] at hfirst
      simp [ScaleState.having] at hfirst

/-- On the way up: the call has gone through, or some containers have been started. -/
lemma InStep.grow (h : m.InStep n) (hle : n ≤ replicas.toNat) (hpull : io.pull = .ok ()) :
    if ∀ j < (m.scale.instance_.replicaSpecs n replicas.toNat).length, io.Starts j then
      ∃ runtime, m.next (replicas, io) =
        { m with
          scale := m.scale.having (m.scale.instance_.declaredIds replicas.toNat).toFinset runtime
          supervised := m.scale.instance_.containers ∪
            ((range' n (replicas.toNat - n)).map m.supervisedId).toFinset }
    else
      ∃ runtime, m.next (replicas, io) =
        { m with
          scale := m.scale.having (m.scale.instance_.containers ∪ m.scale.instance_.idsOf
            ((m.scale.instance_.replicaSpecs n replicas.toNat).take (io.started 0
              (m.scale.instance_.replicaSpecs n replicas.toNat).length))) runtime } := by
  have hscale : m.scale.scaleTo io replicas =
      m.scale.startReplicas io 0 (m.scale.instance_.replicaSpecs n replicas.toNat) := by
    rw [ScaleState.scaleTo, h.replicaCount, hpull]
    exact if_neg hle.not_gt
  have hall : m.scale.instance_.declaredIds replicas.toNat = _ :=
    ServiceInstance.declaredIds_add_replicaSpecs hle
  generalize m.scale.instance_.replicaSpecs n replicas.toNat = specs at hscale hall
  rcases ScaleState.startReplicas_eq 0 specs m.scale with ⟨hok, hstate⟩
  rw [← hscale] at hok hstate
  have hstarts : io.started 0 specs.length = specs.length ↔ _ := ScaleOutcomes.started_eq_iff 0 _
  simp only [Nat.zero_add] at hstarts
  rw [hstarts] at hok
  split
  next hup =>
    rw [h.next_of_ok (hok.mpr hup), hstate, hstarts.mpr hup, take_length, hall,
      toFinset_append, ← h.containers]
    rcases hle.lt_or_eq with hlt | heq
    · exact ⟨_, by rw [if_pos hlt]; rfl⟩
    · exact ⟨_, by rw [if_neg heq.not_lt, heq, Nat.sub_self]; simp; rfl⟩
  next hnot => exact ⟨_, by rw [next_of_error (mt hok.mp hnot), hstate]⟩

lemma InStep.next (h : m.InStep n) (hsafe : m.Harmless (replicas, io)) :
    ∃ n', (m.next (replicas, io)).InStep n' := by
  simp only [Harmless, h.card] at hsafe
  split at hsafe
  next hless =>
    have hshrink := h.shrink hless io
    rw [if_pos hsafe] at hshrink
    exact ⟨_, hshrink⟩
  next hge =>
    have hle : n ≤ replicas.toNat := Nat.not_lt.mp hge
    cases hpull : io.pull with
    | error e =>
      have hscale : m.scale.scaleTo io replicas =
          (m.scale, .error (.pullFailed m.scale.instance_.spec.image e.message)) := by
        rw [ScaleState.scaleTo, h.replicaCount, hpull]
        exact if_neg hge
      rw [next_of_error (by simp [hscale]), hscale]
      exact ⟨n, h⟩
    | ok _ =>
      have hgrow := h.grow hle hpull
      rcases hsafe with hfails | ⟨hspecs, hfirst⟩ | ⟨hroom, hstarts⟩
      · exact absurd hpull hfails
      · -- the first container does not come up
        rcases exists_cons_of_ne_nil hspecs with ⟨replica, rest, hcons⟩
        rw [hcons, if_neg fun hup => hfirst (hup 0 (by simp))] at hgrow
        rcases hgrow with ⟨runtime, hnext⟩
        rw [length_cons, ScaleOutcomes.started, if_neg hfirst, take_zero,
          ServiceInstance.idsOf, map_nil, toFinset_nil, Finset.union_empty] at hnext
        rw [hnext]
        exact ⟨n, h.watched, h.fits, h.containers, h.count, h.node⟩
      · have hfits : m.scale.instance_.Fits replicas.toNat :=
          hroom.elim (fun heq => heq ▸ h.fits) And.left
        rw [ServiceInstance.length_replicaSpecs_of_fits hfits hle, if_pos hstarts] at hgrow
        rcases hgrow with ⟨runtime, hnext⟩
        have hwatched : m.scale.instance_.containers ∪
            ((range' n (replicas.toNat - n)).map m.supervisedId).toFinset =
            (m.scale.instance_.declaredIds replicas.toNat).toFinset := by
          rcases hroom with heq | ⟨-, hnode⟩
          · rw [heq, Nat.sub_self, ← h.containers]
            simp
          · rw [supervisedId_eq hnode, ServiceInstance.declaredIds_of_fits hfits,
              range_append_range' hle, map_append, toFinset_append,
              ← ServiceInstance.declaredIds_of_fits h.fits, ← h.containers]
        rw [hnext, hwatched]
        exact ⟨_, inStep_of_declared hfits replicas.toNat_lt
          (hroom.elim (fun heq => heq ▸ h.node) fun hroom => .inr hroom.2)⟩

/-- An id that the manager computed is in the map only if the numbering and the node agree. -/
lemma fits_of_supervisedId_mem {n : Nat}
    (h : m.supervisedId n ∈ m.scale.instance_.declaredIds (n + 1)) :
    m.scale.instance_.Fits (n + 1) ∧ m.localNodeId = m.scale.instance_.nodeId := by
  have hnode : m.localNodeId = m.scale.instance_.nodeId := by
    rcases mem_map.mp h with ⟨replica, -, heq⟩
    simp only [ServiceInstance.containerId, supervisedId, ContainerId.withRoleAndNode,
      ContainerId.mk.injEq] at heq
    exact heq.2.2.2.symm
  rw [ManagedService.supervisedId_eq hnode] at h
  exact ⟨ServiceInstance.fits_of_numberedId_mem h, hnode⟩

/-- In every other call the supervisor loses a container, or watches one that there is not. -/
lemma InStep.harmless_of_watched (h : m.InStep n)
    (hroles : ∀ groups ∈ m.scale.instance_.spec.replicaGroups,
      (groups.map ReplicaGroup.role).Nodup)
    (hnext : (m.next (replicas, io)).Watched) : m.Harmless (replicas, io) := by
  simp only [Harmless, h.card]
  split
  next hless =>
    have hshrink := h.shrink hless io
    by_contra hnot
    rw [if_neg hnot] at hshrink
    exact hshrink hnext
  next hge =>
    have hle : n ≤ replicas.toNat := Nat.not_lt.mp hge
    by_cases hpull : io.pull = .ok ()
    swap
    · exact .inl hpull
    refine .inr ?_
    have hall : m.scale.instance_.declaredIds replicas.toNat = _ :=
      ServiceInstance.declaredIds_add_replicaSpecs hle
    have hgrow := h.grow hle hpull
    split at hgrow
    next hup =>
      rcases hgrow with ⟨runtime, hgrow⟩
      rw [hgrow, Watched] at hnext
      refine .inr ?_
      rcases hle.eq_or_lt with rfl | hlt
      · exact ⟨.inl rfl, fun k hk => absurd hk (by omega)⟩
      · -- the last of the ids that the manager computed is in the map
        have hlast : m.supervisedId (replicas.toNat - 1) ∈
            m.scale.instance_.declaredIds (replicas.toNat - 1 + 1) := by
          rw [Nat.sub_add_cancel (by omega), ← mem_toFinset]
          refine hnext.subset (Finset.mem_union_right _ ?_)
          rw [mem_toFinset]
          exact mem_map_of_mem (mem_range'_1.mpr ⟨by omega, by omega⟩)
        have hroom := fits_of_supervisedId_mem hlast
        rw [Nat.sub_add_cancel (by omega)] at hroom
        rw [ServiceInstance.length_replicaSpecs_of_fits hroom.1 hle] at hup
        exact ⟨.inr hroom, hup⟩
    next hnot =>
      rcases hgrow with ⟨runtime, hgrow⟩
      rw [hgrow, Watched, h.watched] at hnext
      have hnodup := ServiceInstance.nodup_declaredIds hroles replicas.toNat
      rw [hall, nodup_append'] at hnodup
      cases hspecs : m.scale.instance_.replicaSpecs n replicas.toNat with
      | nil => simp [hspecs] at hnot
      | cons replica rest =>
        refine .inl ⟨by simp, fun hfirst => ?_⟩
        -- the first container is up, and new
        rw [hspecs] at hnodup hnext
        rw [length_cons, ScaleOutcomes.started, if_pos hfirst, take_succ_cons] at hnext
        refine hnodup.2.2 (mem_toFinset.mp ?_) mem_cons_self
        rw [← h.containers, hnext]
        simp [ServiceInstance.idsOf]

/-! ## Runs of calls -/

lemma spec_next (m : ManagedService) (call : UInt32 × ScaleOutcomes) :
    (m.next call).scale.instance_.spec = m.scale.instance_.spec := by
  have hscale : (m.scale.scaleTo call.2 call.1).1.instance_.spec = m.scale.instance_.spec := by
    simp only [ScaleState.scaleTo]
    split
    · rw [(ScaleState.stopReplicas_eq _ _ _ (nodup_range' 1)).2]
      rfl
    · cases call.2.pull with
      | error e => rfl
      | ok _ =>
        simp only
        rw [(ScaleState.startReplicas_eq _ _ _).2]
        rfl
  rw [next, scaleServiceLocal, ← hscale]
  rcases m.scale.scaleTo call.2 call.1 with ⟨scale, e | ⟨⟩⟩ <;> rfl

lemma inStep_start (serviceName : String) (spec : ServiceSpec) (nodeId localNodeId : UInt64) :
    (start serviceName spec nodeId localNodeId).InStep 0 := by
  refine ⟨rfl, ?_, ?_, Nat.two_pow_pos 32, .inl rfl⟩
  · simp only [start, ServiceInstance.Fits]
    cases spec.replicaGroups with
    | none => trivial
    | some groups => exact Nat.zero_le _
  · simp only [start, ServiceInstance.declaredIds, ServiceInstance.declared]
    cases spec.replicaGroups <;> rfl

/-- The supervisor watches the containers of the map after every call of a run, if every call goes
through with all replicas in the first group and on the manager's node, or fails before its first
container is up.  Where the groups have distinct roles, that is what it takes. -/
theorem supervision_follows_containers (serviceName : String) (spec : ServiceSpec)
    (nodeId localNodeId : UInt64) (calls : List (UInt32 × ScaleOutcomes)) :
    (Machine.Along next Harmless (start serviceName spec nodeId localNodeId) calls →
      ∀ made, made <+: calls →
        (made.foldl next (start serviceName spec nodeId localNodeId)).Watched) ∧
    ((∀ groups ∈ spec.replicaGroups, (groups.map ReplicaGroup.role).Nodup) →
      (∀ made, made <+: calls →
        (made.foldl next (start serviceName spec nodeId localNodeId)).Watched) →
      Machine.Along next Harmless (start serviceName spec nodeId localNodeId) calls) := by
  have hstart := inStep_start serviceName spec nodeId localNodeId
  constructor
  · rintro hrun made ⟨rest, rfl⟩
    have hdone := (Machine.along_append.mp hrun).1
    have hstep : ∀ m call, (∃ n, InStep m n) → m.Harmless call → ∃ n, InStep (m.next call) n :=
      fun m call ⟨n, hm⟩ hsafe => hm.next hsafe
    rcases hdone.invariant hstep ⟨0, hstart⟩ with ⟨n, hm⟩
    exact hm.watched
  · intro hroles
    -- the roles are those of the spec, which no call changes
    refine (Machine.forall_prefix_iff_along
      (I := fun m => (∃ n, InStep m n) ∧ m.scale.instance_.spec = spec)
      (fun m hm => hm.1.elim fun n hm => hm.watched) ?_ ?_ ⟨⟨0, hstart⟩, rfl⟩).mp
    · rintro m call - ⟨⟨n, hm⟩, hspec⟩ hsafe
      exact ⟨hm.next hsafe, (spec_next m call).trans hspec⟩
    · rintro m call - ⟨⟨n, hm⟩, hspec⟩ hnext
      exact hm.harmless_of_watched (hspec ▸ hroles) hnext

def createsOne : ScaleOutcomes :=
  { ScaleOutcomes.allOk with
    create := fun k => if k = 0 then .ok () else .error (.other "no space left on device") }

/-- Three replicas are asked for and the second cannot be created: the first is in the map, and
the supervisor does not watch it. -/
theorem first_replica_not_watched :
    ¬ (next (start "web" { image := "nginx", depends := [], replicaGroups := none } 1 1)
      (3, createsOne)).Watched := by
  decide +kernel

end ManagedService

end ZLayer.Agent
