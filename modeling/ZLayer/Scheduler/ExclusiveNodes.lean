import ZLayer.Scheduler.PlacementIndex
import ZLayer.Scheduler.Reservation

/-!
# ExclusiveNodes — services that want their nodes for themselves

In exclusive mode a replica goes to an empty node.  Nothing keeps later replicas of other services
away from that node: the filter of shared mode looks at capacity only and that of dedicated mode at
the service's own containers.  The nodes of an exclusive service stay its own as long as the calls
for other services cannot reach them.
-/

namespace ZLayer.Scheduler

open Lib

variable {F : Type} [F64 F]

/-! ## Calls and the services placed exclusively -/

structure PlaceCall (F : Type) where
  service : String
  spec : ServiceSpec F
  replicas : UInt32
  nodes : List (NodeState F)

/-- The registry and the services placed in exclusive mode so far. -/
structure IsolationState where
  placements : PlacementState
  exclusive : List String

namespace IsolationState

def empty : IsolationState :=
  { placements := .empty
    exclusive := [] }

def exclusiveAfter (s : IsolationState) (call : PlaceCall F) : List String :=
  if call.spec.nodeMode = .exclusive then call.service :: s.exclusive else s.exclusive

def step (lowercase : String → String) (s : IsolationState) (call : PlaceCall F) : IsolationState :=
  { placements := (placeServiceReplicas lowercase call.service call.spec call.replicas call.nodes
      s.placements).placements
    exclusive := s.exclusiveAfter call }

/-- A node with a container of an exclusive service has no container of another one. -/
def Isolated (s : IsolationState) : Prop :=
  ∀ (node : NodeId), ∀ c ∈ s.placements.containersOnNode node, c.service ∈ s.exclusive →
    ∀ d ∈ s.placements.containersOnNode node, d.service = c.service

/-- In shared or dedicated mode the call can put a replica on this node, going by what the call's
own placements do not change. -/
def Reaches (lowercase : String → String) (s : IsolationState) (call : PlaceCall F)
    (n : NodeState F) : Prop :=
  call.replicas ≠ 0 ∧ admits lowercase call.spec n = true ∧
    (call.spec.nodeMode = .dedicated →
      s.placements.hasServiceOnNode n.id call.service = false)

instance (lowercase : String → String) (s : IsolationState) (call : PlaceCall F)
    (n : NodeState F) : Decidable (Reaches lowercase s call n) :=
  inferInstanceAs (Decidable (_ ∧ _ ∧ _))

/-- A service becomes exclusive only if it shares no node, and a call in another mode reaches no
node on which it would meet another service while one of the two is exclusive. -/
def KeepsApart (lowercase : String → String) (s : IsolationState) (call : PlaceCall F) : Prop :=
  if call.spec.nodeMode = .exclusive then
    ∀ (node : NodeId), s.placements.hasServiceOnNode node call.service = true →
      ∀ d ∈ s.placements.containersOnNode node, d.service = call.service
  else
    ∀ n ∈ call.nodes, Reaches lowercase s call n →
      ∀ d ∈ s.placements.containersOnNode n.id, d.service ≠ call.service →
        d.service ∉ s.exclusive ∧ call.service ∉ s.exclusive

/-! ## One call -/

/-- What holds inside a call that started from `s`. -/
structure Growing (lowercase : String → String) (s : IsolationState) (call : PlaceCall F)
    (pass : Pass F) : Prop where
  /-- Only containers of the service are added. -/
  added : ∀ (node : NodeId), ∀ d ∈ pass.placements.containersOnNode node,
    d ∈ s.placements.containersOnNode node ∨ d.service = call.service
  kept : ∀ (node : NodeId), ∀ d ∈ s.placements.containersOnNode node,
    d ∈ pass.placements.containersOnNode node
  origin : ∀ m ∈ pass.nodes, ∃ n ∈ call.nodes, n.id = m.id ∧
    admits lowercase call.spec n = admits lowercase call.spec m
  isolated : Isolated
    { placements := pass.placements
      exclusive := s.exclusiveAfter call }

variable {lowercase : String → String} {s : IsolationState} {call : PlaceCall F}

/-- On the selected node the new container meets no container it must not meet. -/
lemma Growing.meets {pass : Pass F} (h : Growing lowercase s call pass)
    (hcall : KeepsApart lowercase s call) (hreplicas : call.replicas ≠ 0) {m : NodeState F}
    (hm : m ∈ suitableNodes lowercase call.service call.spec pass.nodes pass.placements) :
    ∀ d ∈ pass.placements.containersOnNode m.id, d.service ≠ call.service →
      d.service ∉ s.exclusiveAfter call ∧ call.service ∉ s.exclusiveAfter call := by
  have hsuit := suitable_of_mem hm
  intro d hd hne
  by_cases hmode : call.spec.nodeMode = .exclusive
  · -- An exclusive replica is put on an empty node.
    have hempty : pass.placements.containersOnNode m.id = [] := by
      have hadmits := hsuit.mode
      simpa [ModeAdmits, hmode, PlacementState.hasAnyContainers] using hadmits
    rw [hempty] at hd
    cases hd
  · rw [exclusiveAfter, if_neg hmode]
    rw [KeepsApart, if_neg hmode] at hcall
    obtain ⟨n, hn, hid, hadmits⟩ := h.origin m (mem_of_mem_suitableNodes hm)
    have hreach : Reaches lowercase s call n := by
      refine ⟨hreplicas, hadmits.trans hsuit.admits, ?_⟩
      intro hdedicated
      -- What the service had on the node before the call it still has.
      by_contra hhas
      obtain ⟨c, hc, hcs⟩ := (PlacementState.hasServiceOnNode_iff _ _ _).mp
        (Bool.not_eq_false _ ▸ hhas)
      have hnow : pass.placements.hasServiceOnNode m.id call.service = true :=
        (PlacementState.hasServiceOnNode_iff _ _ _).mpr ⟨c, h.kept m.id c (hid ▸ hc), hcs⟩
      have hnot := hasServiceOnNode_of_modeAdmits (by simp [hdedicated]) hsuit.mode
      rw [hnow] at hnot
      cases hnot
    -- a container of another service was there before the call
    rcases h.added m.id d hd with hold | hown
    · exact hcall n hn hreach d (hid ▸ hold) hne
    · exact absurd hown hne

lemma Growing.placeOn {pass : Pass F} (h : Growing lowercase s call pass)
    (hcall : KeepsApart lowercase s call) (hreplicas : call.replicas ≠ 0) {m : NodeState F}
    (hm : m ∈ suitableNodes lowercase call.service call.spec pass.nodes pass.placements)
    (replica : UInt32) :
    Growing lowercase s call (placeOn call.service call.spec pass replica m) := by
  let new : ContainerId :=
    { service := call.service
      replica := replica }
  have hplaced : (Scheduler.placeOn call.service call.spec pass replica m).placements =
      pass.placements.place new m.id := rfl
  have hmem : ∀ (node : NodeId) (d : ContainerId),
      d ∈ (pass.placements.place new m.id).containersOnNode node ↔
        d ∈ pass.placements.containersOnNode node ∨ (m.id = node ∧ d = new) := by
    intro node d
    rw [PlacementState.containersOnNode_place]
    by_cases hnode : m.id = node
    · simp [hnode]
    · simp [hnode]
  have hmeets := h.meets hcall hreplicas hm
  refine ⟨?_, ?_, ?_, ?_⟩
  · intro node d hd
    rcases (hmem node d).mp hd with hold | ⟨-, rfl⟩
    · exact h.added node d hold
    · exact .inr rfl
  · intro node d hd
    exact (hmem node d).mpr (.inl (h.kept node d hd))
  · intro k hk
    obtain ⟨k', hk', hcase⟩ := mem_reserveNodeResources hk
    obtain ⟨n, hn, hid, hadmits⟩ := h.origin k' hk'
    rcases hcase with rfl | rfl
    · exact ⟨n, hn, hid, hadmits⟩
    · exact ⟨n, hn, hid, hadmits.trans (NodeState.admits_reserve lowercase _).symm⟩
  · intro node c hc hexcl d hd
    rcases (hmem node c).mp hc with hcold | ⟨hnode, rfl⟩
    · rcases (hmem node d).mp hd with hdold | ⟨hnode, rfl⟩
      · exact h.isolated node c hcold hexcl d hdold
      · -- The new container joins `c`.
        subst hnode
        by_contra hne
        exact (hmeets c hcold fun heq => hne heq.symm).1 hexcl
    · rcases (hmem node d).mp hd with hdold | ⟨-, rfl⟩
      · -- The new container is the exclusive one, and `d` was there.
        subst hnode
        by_contra hne
        exact (hmeets d hdold hne).2 hexcl
      · rfl

/-! ## Rolling back -/

lemma mem_of_mem_removeServiceFromNode {p : PlacementState} {node a : NodeId} {service : String}
    {d : ContainerId}
    (h : d ∈ (p.removeServiceFromNode node service).1.containersOnNode a) :
    d ∈ p.containersOnNode a := by
  rw [PlacementState.removeServiceFromNode_eq, PlacementState.containersOnNode_shrink] at h
  split at h
  next hna =>
    -- What the walk keeps and what it removes is a permutation of the list.
    rw [← hna]
    exact (PlacementState.drainService_perm service _ [] _).subset (List.mem_append_left _ h)
  · exact h

lemma mem_of_mem_gangRollback (service : String) (spec : ServiceSpec F) (replicas : UInt32)
    (pass : Pass F) {a : NodeId} {d : ContainerId}
    (h : d ∈ (gangRollback service spec replicas pass).placements.containersOnNode a) :
    d ∈ pass.placements.containersOnNode a := by
  refine gangRollback_induction service spec replicas pass
    (I := fun p => d ∈ p.containersOnNode a → d ∈ pass.placements.containersOnNode a) ?_ id h
  intro p id hp hd
  exact hp (mem_of_mem_removeServiceFromNode hd)

/-! ## Runs -/

omit [F64 F] in
lemma isolated_before (h : s.Isolated) (hcall : KeepsApart lowercase s call) : Isolated
      { placements := s.placements
        exclusive := s.exclusiveAfter call } := by
  by_cases hmode : call.spec.nodeMode = .exclusive
  · rw [KeepsApart, if_pos hmode] at hcall
    intro node c hc hexcl d hd
    rw [exclusiveAfter, if_pos hmode] at hexcl
    rcases List.mem_cons.mp hexcl with hown | hold
    · have hhas : s.placements.hasServiceOnNode node call.service = true :=
        (PlacementState.hasServiceOnNode_iff _ _ _).mpr ⟨c, hc, hown⟩
      rw [hcall node hhas d hd, hown]
    · exact h node c hc hold d hd
  · rw [exclusiveAfter, if_neg hmode]
    exact h

lemma isolated_step (h : s.Isolated) (hcall : KeepsApart lowercase s call) :
    (step lowercase s call).Isolated := by
  have hloop : Growing lowercase s call (placeLoop lowercase call.service call.spec call.replicas
      call.nodes s.placements) := by
    refine placeLoop_rec lowercase call.service call.spec
      (P := fun _ pass => Growing lowercase s call pass) ?_ ?_ ?_
    · exact ⟨fun _ _ hd => .inl hd, fun _ _ hd => hd, fun m hm => ⟨m, hm, rfl, rfl⟩,
        isolated_before h hcall⟩
    · intro i pass hpass _
      exact ⟨hpass.added, hpass.kept, hpass.origin, hpass.isolated⟩
    · intro i hi pass hpass m hm
      have hreplicas : call.replicas ≠ 0 := by
        rintro hzero
        rw [hzero] at hi
        exact absurd hi (Nat.not_lt_zero i)
      exact hpass.placeOn hcall hreplicas hm.mem _
  rcases placeServiceReplicas_cases lowercase call.service call.spec call.replicas call.nodes
    s.placements with heq | ⟨-, heq⟩
  · rw [step, heq]
    exact hloop.isolated
  · rw [step, heq]
    -- a rollback only removes containers
    intro node c hc hexcl d hd
    exact hloop.isolated node c (mem_of_mem_gangRollback _ _ call.replicas _ hc) hexcl d
      (mem_of_mem_gangRollback _ _ call.replicas _ hd)

/-- In every sequence of calls that keep exclusive services apart from the others, the nodes of an
exclusive service carry nothing else in any state reached. -/
theorem isolated_of_keepsApart (lowercase : String → String) (calls : List (PlaceCall F))
    (h : Machine.Along (step lowercase) (KeepsApart lowercase) .empty calls) (k : ℕ) :
    ((calls.take k).foldl (step lowercase) .empty).Isolated := by
  refine (h.take k).invariant (fun _ _ hs hcall => isolated_step hs hcall) ?_
  intro node c hc
  simp [empty, PlacementState.empty, PlacementState.containersOnNode] at hc

def singleNodeCall (service : String) (mode : NodeMode) (node : NodeId) : PlaceCall Float :=
  { service := service
    spec :=
      { (ServiceSpec.default : ServiceSpec Float) with
        nodeMode := mode }
    replicas := 1
    nodes := [RegistryOp.idleNode node] }

def apart : List (PlaceCall Float) :=
  [singleNodeCall "db" .exclusive 1, singleNodeCall "web" .shared 2]

theorem isolated_apart : ((apart.take 2).foldl (step id) .empty).Isolated := by
  refine isolated_of_keepsApart id apart ⟨?_, ?_, trivial⟩ 2
  · intro node hhas
    cases hhas
  · change ∀ n ∈ [RegistryOp.idleNode 2], _
    decide +kernel

def together : List (PlaceCall Float) :=
  [singleNodeCall "db" .exclusive 1, singleNodeCall "web" .shared 1]

theorem shared_replica_on_exclusive_node : ¬(together.foldl (step id) .empty).Isolated := by
  intro h
  have hsame := h 1 (.ofIndex "db" 0) (by decide +kernel) (by decide +kernel) (.ofIndex "web" 0)
    (by decide +kernel)
  exact absurd hsame (by decide)

end IsolationState

end ZLayer.Scheduler
