import ZLayer.Scheduler.Reservation

/-!
# GpuSlots — what a node has granted of its GPUs

`allocate_gpus` scans for available slots with one test for all sharing modes.  A slot that is
shared and not full passes the test, so a request for exclusive GPUs can be given one that other
containers use.  As long as the first available slots are free ones whenever such a request is
made, each slot tells how often it has been granted.
-/

namespace ZLayer.Scheduler

open Lib List

variable {F : Type}

structure GpuRequest where
  count : UInt32
  sharing : Option GpuSharingMode
  deriving DecidableEq

def GpuRequest.exclusive (q : GpuRequest) : Bool :=
  q.sharing = none || q.sharing = some .exclusive

/-- A node's resources and the requests it has granted, with the indices returned. -/
structure GpuHistory (F : Type) where
  resources : NodeResources F
  granted : List (GpuRequest × List UInt32)

namespace GpuHistory

def start (r : NodeResources F) : GpuHistory F :=
  { resources := r
    granted := [] }

def next (h : GpuHistory F) (q : GpuRequest) : GpuHistory F :=
  match h.resources.allocateGpus q.count q.sharing with
  | (none, r) => { h with resources := r }
  | (some indices, r) =>
    { resources := r
      granted := h.granted ++ [(q, indices)] }

/-- To how many requests the GPU has been returned. -/
def returned (h : GpuHistory F) (k : ℕ) : ℕ :=
  h.granted.countP fun call => k ∈ call.2.map UInt32.toNat

/-- A GPU of an exclusive request has been returned to no other, and a shared one to no more
requests than may share it. -/
structure Respected (h : GpuHistory F) : Prop where
  exclusive : ∀ call ∈ h.granted, call.1.exclusive = true → ∀ g ∈ call.2, h.returned g.toNat = 1
  shared : ∀ (k : ℕ) (current max : UInt32),
    h.resources.gpuAllocated[k]? = some (.shared current max) → h.returned k ≤ max.toNat

/-- A request for exclusive GPUs finds free slots before any slot that is shared and not full. -/
def FreeFirst (h : GpuHistory F) (q : GpuRequest) : Prop :=
  q.exclusive = true →
    ∀ k ∈ (h.resources.gpuAllocated.findIdxs GpuAllocation.isAvailable).take q.count.toNat,
      h.resources.gpuAllocated[k]? = some .free

instance (h : GpuHistory F) (q : GpuRequest) : Decidable (FreeFirst h q) :=
  inferInstanceAs (Decidable (_ → _))

/-! ## What a slot tells -/

/-- What a slot says of the requests it was returned to. -/
def Tells (h : GpuHistory F) (k : ℕ) : GpuAllocation → Prop
  | .free => h.returned k = 0
  | .exclusive => h.returned k = 1
  | .shared current max => h.returned k = current.toNat ∧ current ≤ max ∧
    ∀ call ∈ h.granted, k ∈ call.2.map UInt32.toNat → call.1.exclusive = false

structure Recorded (h : GpuHistory F) : Prop where
  slots : h.resources.gpuAllocated.length ≤ 2 ^ 32
  tells : ∀ (k : ℕ) (slot : GpuAllocation),
    h.resources.gpuAllocated[k]? = some slot → h.Tells k slot
  known : ∀ call ∈ h.granted, ∀ g ∈ call.2, g.toNat < h.resources.gpuAllocated.length

variable {h : GpuHistory F} {q : GpuRequest}

lemma Recorded.respected (hr : Recorded h) : Respected h := by
  refine ⟨?_, ?_⟩
  · intro call hcall hexclusive g hg
    have hk := mem_map_of_mem (f := UInt32.toNat) hg
    obtain ⟨slot, hslot⟩ : ∃ slot, h.resources.gpuAllocated[g.toNat]? = some slot :=
      ⟨_, List.getElem?_eq_getElem (hr.known call hcall g hg)⟩
    have htells := hr.tells g.toNat slot hslot
    cases slot with
    | free =>
      have hnone := countP_eq_zero.mp htells call hcall
      exact absurd (decide_eq_true hk) hnone
    | exclusive => exact htells
    | shared current max =>
      rw [htells.2.2 call hcall hk] at hexclusive
      cases hexclusive
  · intro k current max hslot
    obtain ⟨hcount, hle, -⟩ := hr.tells k _ hslot
    rw [hcount]
    exact hle

/-- A granted slot counts one request more. -/
lemma tells_grant {h' : GpuHistory F} {k : ℕ} {slot : GpuAllocation} {indices : List UInt32}
    (hgranted : h'.granted = h.granted ++ [(q, indices)]) (hk : k ∈ indices.map UInt32.toNat)
    (htells : h.Tells k slot) (havail : slot.isAvailable = true)
    (hfree : q.exclusive = true → slot = .free) : h'.Tells k (slot.grant q.sharing) := by
  have hcount : h'.returned k = h.returned k + 1 := by
    rw [returned, hgranted, countP_append, countP_singleton, if_pos (decide_eq_true hk)]
    rfl
  rcases GpuAllocation.grant_cases q.sharing with
    ⟨hexclusive, hgrant⟩ | ⟨hshares, max, hmax, hgrant⟩
  · -- the slot was free and is taken
    rw [hfree hexclusive] at htells
    rw [hgrant]
    exact hcount.trans (congrArg (· + 1) htells)
  · have hothers : (∀ call ∈ h.granted, k ∈ call.2.map UInt32.toNat → call.1.exclusive = false) →
        ∀ call ∈ h'.granted, k ∈ call.2.map UInt32.toNat → call.1.exclusive = false := by
      intro hold call hcall hmem
      rw [hgranted] at hcall
      rcases mem_append.mp hcall with hcall | hcall
      · exact hold call hcall hmem
      · rw [mem_singleton.mp hcall]
        exact hshares
    rw [hgrant]
    cases slot with
    | free =>
      have hnone := countP_eq_zero.mp htells
      refine ⟨hcount.trans (congrArg (· + 1) htells), hmax, hothers fun call hcall hmem => ?_⟩
      exact absurd (decide_eq_true hmem) (hnone call hcall)
    | exclusive => cases havail
    | shared current limit =>
      obtain ⟨hcurrent, -, hold⟩ := htells
      have hlt : current < limit := of_decide_eq_true havail
      refine ⟨by rw [hcount, hcurrent, toNat_succ_of_lt hlt], ?_, hothers hold⟩
      rw [UInt32.le_iff_toNat_le, toNat_succ_of_lt hlt]
      exact UInt32.lt_iff_toNat_lt.mp hlt

lemma allocateGpus_of_none {r r' : NodeResources F} {count : UInt32}
    {sharing : Option GpuSharingMode} (h : r.allocateGpus count sharing = (none, r')) : r' = r := by
  unfold NodeResources.allocateGpus at h
  dsimp only at h
  split at h
  · cases h
  · cases h
    rfl

lemma allocateGpus_of_some {r r' : NodeResources F} {indices : List UInt32}
    (hcount : 0 < q.count) (hslots : r.gpuAllocated.length ≤ 2 ^ 32)
    (h : r.allocateGpus q.count q.sharing = (some indices, r')) :
    indices.map UInt32.toNat =
        (r.gpuAllocated.findIdxs GpuAllocation.isAvailable).take q.count.toNat ∧
      r'.gpuAllocated =
        NodeResources.updateGpus (GpuAllocation.grant q.sharing) indices r.gpuAllocated := by
  unfold NodeResources.allocateGpus at h
  dsimp only at h
  split at h
  · cases h
    exact ⟨NodeResources.map_toNat_pickGpus (UInt32.lt_iff_toNat_lt.mp hcount) hslots, rfl⟩
  · cases h

lemma Recorded.next (hr : Recorded h) (hcount : 0 < q.count) (hfree : FreeFirst h q) :
    Recorded (h.next q) := by
  unfold GpuHistory.next
  split
  next r hnone =>
    rw [allocateGpus_of_none hnone]
    exact hr
  next indices r halloc =>
    obtain ⟨hpicked, hafter⟩ := allocateGpus_of_some hcount hr.slots halloc
    have hnodup : (indices.map UInt32.toNat).Nodup :=
      hpicked ▸ nodup_findIdxs.sublist (take_sublist _ _)
    have hlen : r.gpuAllocated.length = h.resources.gpuAllocated.length := by
      rw [hafter, NodeResources.length_updateGpus]
    refine ⟨hlen ▸ hr.slots, ?_, ?_⟩
    · intro k slot' hslot'
      rw [hafter, NodeResources.lookup_updateGpus hnodup] at hslot'
      split at hslot'
      next hk =>
        obtain ⟨slot, hslot, rfl⟩ := Option.map_eq_some_iff.mp hslot'
        have hmem := hpicked ▸ hk
        obtain ⟨_, hfound, havail⟩ :=
          NodeResources.available_of_mem_findIdxs (mem_of_mem_take hmem)
        cases hslot.symm.trans hfound
        refine tells_grant rfl hk (hr.tells k slot hslot) havail fun hexclusive => ?_
        exact Option.some.inj (hslot.symm.trans (hfree hexclusive k hmem))
      next hk =>
        -- the call does not touch the slot
        have hsame : ∀ call ∈ h.granted ++ [(q, indices)], k ∈ call.2.map UInt32.toNat →
            call ∈ h.granted := by
          intro call hcall hmem
          refine (mem_append.mp hcall).resolve_right fun hnew => hk ?_
          rwa [mem_singleton.mp hnew] at hmem
        have hreturned : returned { resources := r, granted := h.granted ++ [(q, indices)] } k =
            h.returned k := by
          rw [returned, countP_append, countP_singleton, if_neg (by simpa using hk)]
          rfl
        have htells := hr.tells k slot' hslot'
        cases slot' with
        | free | exclusive => exact hreturned.trans htells
        | shared current max =>
          refine ⟨hreturned.trans htells.1, htells.2.1, fun call hcall hmem => ?_⟩
          exact htells.2.2 call (hsame call hcall hmem) hmem
    · intro call hcall g hg
      rw [hlen]
      rcases mem_append.mp hcall with hold | hnew
      · exact hr.known call hold g hg
      · rw [mem_singleton.mp hnew] at hg
        have hmem := hpicked ▸ mem_map_of_mem (f := UInt32.toNat) hg
        obtain ⟨slot, hslot, -⟩ :=
          NodeResources.available_of_mem_findIdxs (mem_of_mem_take hmem)
        exact (List.getElem?_eq_some_iff.mp hslot).1

/-! ## Sequences of requests -/

/-- If every exclusive request finds free GPUs first, no GPU of a node that starts with all of them
free is over-granted; and a request that fails changes nothing in any case. -/
theorem respected_of_freeFirst (r : NodeResources F) (hslots : r.gpuAllocated.length ≤ 2 ^ 32)
    (hstart : ∀ slot ∈ r.gpuAllocated, slot = .free) (requests : List GpuRequest)
    (hcounts : ∀ q ∈ requests, 0 < q.count)
    (hfree : Machine.Along next FreeFirst (start r) requests) (k : ℕ) :
    Respected ((requests.take k).foldl next (start r)) ∧
      ∀ (h : GpuHistory F) (q : GpuRequest),
        (h.resources.allocateGpus q.count q.sharing).1 = none → h.next q = h := by
  refine ⟨?_, fun h q hnone => ?_⟩
  · have hrecorded : Recorded ((requests.take k).foldl next (start r)) := by
      refine ((hfree.and_mem hcounts).take k).invariant (I := Recorded)
        (fun _ _ hr hq => hr.next hq.2 hq.1) ⟨hslots, ?_, nofun⟩
      intro k slot hslot
      rw [hstart slot (mem_of_getElem? hslot)]
      rfl
    exact hrecorded.respected
  · unfold next
    split
    next r hfails => rw [allocateGpus_of_none hfails]
    next hsome =>
      rw [hsome] at hnone
      cases hnone

def twoGpus : NodeResources Float :=
  { (NodeResources.new 8.0 0 : NodeResources Float) with
    gpuTotal := 2
    gpuAllocated := [.free, .free] }

def oneGpu (sharing : Option GpuSharingMode) : GpuRequest :=
  { count := 1
    sharing := sharing }

/-- An exclusive request first, and then two that share. -/
theorem respected_of_freeFirst_exclusive_first :
    Respected (([oneGpu none, oneGpu (some .mps), oneGpu (some .mps)].take 3).foldl next
      (start twoGpus)) :=
  (respected_of_freeFirst twoGpus (by decide) (by decide) _ (by decide) (by decide +kernel) 3).1

/-- The exclusive request is given the GPU that a container shares already. -/
theorem exclusive_request_given_shared_gpu :
    ¬Respected ([oneGpu (some .mps), oneGpu none].foldl next (start twoGpus)) := by
  intro h
  have hreturned := h.exclusive (oneGpu none, [0]) (by decide +kernel) rfl 0 mem_cons_self
  exact absurd hreturned (by decide +kernel)

end GpuHistory

end ZLayer.Scheduler
