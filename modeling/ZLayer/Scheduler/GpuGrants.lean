import ZLayer.Scheduler.Reservation
import ZLayer.Scheduler.Scaling

/-!
# GpuGrants — which GPUs the containers of several passes hold

Every `compute_placement` pass starts from node states built afresh from the cluster, in which all
GPUs are free, while the containers of earlier passes stay in the registry.  Inside one pass no GPU
is granted twice to a service that wants it for itself; between passes nothing prevents it.
-/

namespace ZLayer.Scheduler

open Lib List

variable {F : Type} [F64 F]

/-! ## Passes and the grants they leave behind -/

/-- One `compute_placement` pass over the ready nodes of a cluster. -/
structure GpuPass (F : Type) where
  service : String
  desired : UInt32
  spec : Option (ServiceSpec F)
  order : HashMap.IterOrder NodeId NodeInfo
  cluster : ClusterState
  /-- Nodes are registered under their own id. -/
  keyed : NodesKeyed cluster

structure Holding where
  container : ContainerId
  node : NodeId
  gpus : List UInt32
  /-- The container's service does not share GPUs. -/
  exclusive : Bool
  deriving DecidableEq

structure GpuLedger where
  placements : PlacementState
  held : List Holding

namespace GpuPass

def nodes (p : GpuPass F) : List (NodeState F) :=
  clusterNodesToNodeStates p.order p.cluster.nodes

def effectiveSpec (p : GpuPass F) : ServiceSpec F :=
  p.spec.getD .default

def run (lowercase : String → String) (p : GpuPass F) (placements : PlacementState) : Pass F :=
  placementPass lowercase p.service p.desired p.nodes placements p.spec

def holdings (p : GpuPass F) (decisions : List (PlacementDecision F)) : List Holding :=
  decisions.filterMap fun d => d.nodeId.map fun id =>
    { container := d.containerId
      node := id
      gpus := d.gpuIndices
      exclusive := p.effectiveSpec.gpuExclusive }

end GpuPass

namespace GpuLedger

def empty : GpuLedger :=
  { placements := .empty
    held := [] }

def step (lowercase : String → String) (l : GpuLedger) (p : GpuPass F) : GpuLedger :=
  let pass := p.run lowercase l.placements
  { placements := pass.placements
    held := l.held ++ p.holdings pass.decisions }

/-- The container of a grant is recorded on the node of the grant. -/
def Recorded (l : GpuLedger) (h : Holding) : Prop :=
  l.placements.containerNodes[h.container]? = some h.node

/-- The two grants have no GPU in common unless both containers share. -/
def Compatible (a b : Holding) : Prop :=
  a.node = b.node → (a.exclusive = true ∨ b.exclusive = true) → ∀ g ∈ a.gpus, g ∉ b.gpus

/-- No GPU is held by two recorded containers one of which wants it for itself. -/
def NoGpuHeldTwice (l : GpuLedger) : Prop :=
  ∀ a ∈ l.held, ∀ b ∈ l.held, a.container ≠ b.container → l.Recorded a → l.Recorded b →
    Compatible a b

/-- The pass requests no GPU, or no node that could take its replicas carries a GPU of an earlier
pass, except between services that both share. -/
def Uncontested (lowercase : String → String) (l : GpuLedger) (p : GpuPass F) : Prop :=
  p.effectiveSpec.gpuCount ≠ 0 →
    ∀ n ∈ p.nodes, admits lowercase p.effectiveSpec n = true →
      p.effectiveSpec.gpuCount ≤ n.resources.gpuTotal →
        ∀ h ∈ l.held, h.node = n.id → h.gpus ≠ [] →
          h.exclusive = false ∧ p.effectiveSpec.gpuExclusive = false

end GpuLedger

/-! ## Inside one pass -/

namespace GpuPass

lemma ids_nodup (p : GpuPass F) : (p.nodes.map (·.id)).Nodup :=
  ids_clusterNodesToNodeStates_nodup p.order p.keyed

lemma slots_eq (p : GpuPass F) {n : NodeState F} (hn : n ∈ p.nodes) :
    n.resources.gpuAllocated.length = n.resources.gpuTotal.toNat := by
  rcases mem_map.mp hn with ⟨info, -, rfl⟩
  exact length_replicate

omit [F64 F] in
lemma gpuAvailable_le {r : NodeResources F}
    (hslots : r.gpuAllocated.length = r.gpuTotal.toNat) : r.gpuAvailable ≤ r.gpuTotal := by
  unfold NodeResources.gpuAvailable
  by_cases hempty : r.gpuAllocated.isEmpty = true
  -- without slots the counts decide, and then there is no GPU at all
  · rw [if_pos hempty]
    have hzero : r.gpuTotal = 0 := by
      rw [isEmpty_iff.mp hempty] at hslots
      exact UInt32.toNat_inj.mp hslots.symm
    rw [hzero]
    split
    · rename_i hle
      rw [UInt32.le_zero_iff.mp hle]
      exact UInt32.le_refl _
    · exact UInt32.le_refl _
  · rw [if_neg hempty]
    have hcount : r.gpuAllocated.countP GpuAllocation.isAvailable ≤ r.gpuTotal.toNat :=
      hslots ▸ countP_le_length
    have hlt : r.gpuAllocated.countP GpuAllocation.isAvailable < 2 ^ 32 :=
      lt_of_le_of_lt hcount r.gpuTotal.toNat_lt
    rw [UInt32.le_iff_toNat_le, UInt32.toNat_ofNat_of_lt' hlt]
    exact hcount

variable {lowercase : String → String} {placements : PlacementState} {p : GpuPass F}

/-- A grant of a pass belongs to a decision of its loop. -/
lemma mem_holdings {h : Holding} (hh : h ∈ p.holdings (p.run lowercase placements).decisions) :
    Reserved lowercase p.service p.effectiveSpec p.nodes (p.run lowercase placements) ∧
      h.exclusive = p.effectiveSpec.gpuExclusive ∧
      ∃ (j : ℕ) (d : PlacementDecision F), (p.run lowercase placements).decisions[j]? = some d ∧
        d.containerId = h.container ∧ d.nodeId = some h.node ∧ d.gpuIndices = h.gpus := by
  obtain ⟨d, hd, hmap⟩ := mem_filterMap.mp hh
  obtain ⟨id, hid, rfl⟩ := Option.map_eq_some_iff.mp hmap
  have hrun : p.run lowercase placements = placeServiceReplicas lowercase p.service
      p.effectiveSpec p.desired p.nodes placements := rfl
  rcases placeServiceReplicas_cases lowercase p.service p.effectiveSpec p.desired p.nodes
    placements with heq | ⟨-, heq⟩
  · obtain ⟨j, hj⟩ := mem_iff_getElem?.mp hd
    refine ⟨?_, rfl, j, d, hj, rfl, hid, rfl⟩
    rw [hrun, heq]
    exact (reserved_rec (P := fun _ _ => True) p.ids_nodup trivial (fun _ _ _ _ _ => trivial)
      fun _ _ _ _ _ _ _ => trivial).1
  · -- A rolled back gang holds nothing.
    rw [hrun, heq] at hd
    rw [nodeId_of_mem_gangRollback _ _ hd] at hid
    cases hid

variable {id : NodeId}

/-- Two replicas of one pass do not hold the same GPU if the service does not share. -/
lemma disjoint_of_lt
    (hres : Reserved lowercase p.service p.effectiveSpec p.nodes (p.run lowercase placements))
    (hexcl : p.effectiveSpec.gpuExclusive = true) {j k : ℕ} (hjk : j < k)
    {c d : PlacementDecision F} (hj : (p.run lowercase placements).decisions[j]? = some c)
    (hc : c.nodeId = some id) (hk : (p.run lowercase placements).decisions[k]? = some d)
    (hd : d.nodeId = some id) {g : UInt32} (hg : g ∈ c.gpuIndices) : g ∉ d.gpuIndices := by
  obtain ⟨n, hn, hnid, -, -, hcg⟩ := hres.placed j c id hj hc
  obtain ⟨m, hm, hmid, -, -, hdg⟩ := hres.placed k d id hk hd
  have hsame : m = n := inj_on_of_nodup_map p.ids_nodup hm hn (hmid.trans hnid.symm)
  subst hsame
  have hslots : m.resources.gpuAllocated.length ≤ 2 ^ 32 :=
    p.slots_eq hm ▸ m.resources.gpuTotal.toNat_lt.le
  -- The earlier replica is one of those the later one finds on the node.
  have hrank : takenOn ((p.run lowercase placements).decisions.take j) id <
      takenOn ((p.run lowercase placements).decisions.take k) id :=
    takenOn_take_lt hjk hj hc
  rw [hcg] at hg
  rw [hdg]
  exact granted_once hexcl hslots hrank hg

/-- The node of a grant could take the replicas of the pass. -/
lemma eligible_of_granted
    (hres : Reserved lowercase p.service p.effectiveSpec p.nodes (p.run lowercase placements))
    {j : ℕ} {d : PlacementDecision F} (hj : (p.run lowercase placements).decisions[j]? = some d)
    (hd : d.nodeId = some id) {g : UInt32} (hg : g ∈ d.gpuIndices) :
    p.effectiveSpec.gpuCount ≠ 0 ∧ ∃ n ∈ p.nodes, n.id = id ∧
      admits lowercase p.effectiveSpec n = true ∧
      p.effectiveSpec.gpuCount ≤ n.resources.gpuTotal := by
  obtain ⟨n, hn, hnid, placements', hsuit, hgpus⟩ := hres.placed j d id hj hd
  rw [hgpus] at hg
  have hpos := NodeState.gpuCount_pos_of_granted hg
  refine ⟨fun h0 => absurd (h0 ▸ hpos) (by decide), n, hn, hnid, ?_, ?_⟩
  · rw [← admits_iterate_reserve]
    exact hsuit.admits
  · -- Earlier replicas of the pass have taken GPUs, but none has been added.
    obtain ⟨hlen, htotal⟩ := slots_iterate_reserve p.effectiveSpec
      (takenOn ((p.run lowercase placements).decisions.take j) id) n
    have havail := gpuAvailable_le (hlen.trans ((p.slots_eq hn).trans (congrArg _ htotal.symm)))
    rw [htotal] at havail
    cases hspec : p.effectiveSpec.resources.gpu with
    | none =>
      rw [ServiceSpec.gpuCount, hspec] at hpos
      cases hpos
    | some gpu =>
      have hcount : p.effectiveSpec.gpuCount = gpu.count := by
        rw [ServiceSpec.gpuCount, hspec]
        rfl
      rw [hcount]
      exact UInt32.le_trans (hsuit.gpus gpu hspec) havail

end GpuPass

/-! ## Sequences of passes -/

namespace GpuLedger

/-- All grants go together, whether their containers are still recorded or not. -/
def AllCompatible (held : List Holding) : Prop :=
  ∀ a ∈ held, ∀ b ∈ held, a.container ≠ b.container → Compatible a b

variable {a b : Holding}

lemma Compatible.symm (h : Compatible a b) : Compatible b a := by
  intro hnode hexcl g hgb hga
  exact h hnode.symm hexcl.symm g hga hgb

variable {lowercase : String → String} {p : GpuPass F}

/-- The grants of one pass go together. -/
lemma compatible_within {placements : PlacementState}
    (ha : a ∈ p.holdings (p.run lowercase placements).decisions)
    (hb : b ∈ p.holdings (p.run lowercase placements).decisions) (hne : a.container ≠ b.container) :
    Compatible a b := by
  obtain ⟨hres, haexcl, j, c, hj, hcid, hc, hcg⟩ := GpuPass.mem_holdings ha
  obtain ⟨-, hbexcl, k, d, hk, hdid, hd, hdg⟩ := GpuPass.mem_holdings hb
  intro hnode hexcl g hga hgb
  have hspec : p.effectiveSpec.gpuExclusive = true := by
    rcases hexcl with h | h
    · rw [← haexcl, h]
    · rw [← hbexcl, h]
  rw [← hnode] at hd
  rw [← hcg] at hga
  rw [← hdg] at hgb
  rcases Nat.lt_trichotomy j k with hlt | heq | hgt
  · exact GpuPass.disjoint_of_lt hres hspec hlt hj hc hk hd hga hgb
  · -- One decision is for one container.
    subst heq
    rw [hj] at hk
    apply hne
    rw [← hcid, ← hdid, Option.some.inj hk]
  · exact GpuPass.disjoint_of_lt hres hspec hgt hk hd hj hc hgb hga

variable {l : GpuLedger}

/-- An uncontested pass grants nothing that is held. -/
lemma compatible_with_earlier (huncontested : Uncontested lowercase l p) (ha : a ∈ l.held)
    (hb : b ∈ p.holdings (p.run lowercase l.placements).decisions) : Compatible a b := by
  obtain ⟨hres, hbexcl, k, d, hk, -, hd, hdg⟩ := GpuPass.mem_holdings hb
  intro hnode hexcl g hga hgb
  rw [← hdg] at hgb
  obtain ⟨hcount, n, hn, hnid, hadmits, htotal⟩ := GpuPass.eligible_of_granted hres hk hd hgb
  obtain ⟨hashared, hpshared⟩ := huncontested hcount n hn hadmits htotal a ha
    (hnode.trans hnid.symm) (ne_nil_of_mem hga)
  rcases hexcl with h | h
  · rw [hashared] at h
    cases h
  · rw [hbexcl, hpshared] at h
    cases h

lemma allCompatible_step (h : AllCompatible l.held) (huncontested : Uncontested lowercase l p) :
    AllCompatible (step lowercase l p).held := by
  intro a ha b hb hne
  rcases mem_append.mp ha with haold | hanew
  · rcases mem_append.mp hb with hbold | hbnew
    · exact h a haold b hbold hne
    · exact compatible_with_earlier huncontested haold hbnew
  · rcases mem_append.mp hb with hbold | hbnew
    · exact (compatible_with_earlier huncontested hbold hanew).symm
    · exact compatible_within hanew hbnew hne

/-- In every sequence of uncontested passes, no GPU is held twice in any state reached. -/
theorem noGpuHeldTwice_of_uncontested (lowercase : String → String) (passes : List (GpuPass F))
    (h : Machine.Along (step lowercase) (Uncontested lowercase) .empty passes) (k : ℕ) :
    NoGpuHeldTwice ((passes.take k).foldl (step lowercase) .empty) := by
  have hall : AllCompatible ((passes.take k).foldl (step lowercase) .empty).held :=
    (h.take k).invariant (I := fun l => AllCompatible l.held)
      (fun _ _ hl hp => allCompatible_step hl hp) fun _ ha => absurd ha not_mem_nil
  intro a ha b hb hne _ _
  exact hall a ha b hb hne

def gpuNode (id : NodeId) (vendor : String) : NodeRegistration :=
  { SchedulerState.plainNode id with
    gpus :=
      [{ vendor := vendor
         model := "L4"
         memoryMb := 24576 }] }

def gpuCluster : ClusterState :=
  ((ClusterState.default.apply 0 (.registerNode (gpuNode 1 "nvidia"))).1.apply 0
    (.registerNode (gpuNode 2 "amd"))).1

lemma nodesKeyed_gpuCluster : NodesKeyed gpuCluster :=
  nodesKeyed_apply 0 (nodesKeyed_apply 0 nodesKeyed_default _) _

def gpuSpec (vendor : String) : ServiceSpec Float :=
  { (ServiceSpec.default : ServiceSpec Float) with
    resources :=
      { cpu := none
        memory := none
        gpu := some
          { count := 1
            vendor := vendor
            model := none
            scheduling := none
            sharing := none } } }

def gpuService (service vendor : String) : GpuPass Float :=
  { service := service
    desired := 1
    spec := some (gpuSpec vendor)
    order := .byKey
    cluster := gpuCluster
    keyed := nodesKeyed_gpuCluster }

def differentVendors : List (GpuPass Float) :=
  [gpuService "render" "nvidia", gpuService "train" "amd"]

theorem noGpuHeldTwice_differentVendors :
    NoGpuHeldTwice ((differentVendors.take 2).foldl (step id) .empty) := by
  refine noGpuHeldTwice_of_uncontested id differentVendors ⟨?_, ?_, trivial⟩ 2
  · intro _ n _ _ _ h hh
    cases hh
  · unfold Uncontested
    decide +kernel

def sameVendor : List (GpuPass Float) :=
  [gpuService "render" "nvidia", gpuService "train" "nvidia"]

def firstGpuOf (service : String) : Holding :=
  { container := .ofIndex service 0
    node := 1
    gpus := [0]
    exclusive := true }

/-- The second pass sees the GPU free and grants it again. -/
theorem gpu_granted_again_by_second_pass : ¬NoGpuHeldTwice (sameVendor.foldl (step id) .empty) := by
  intro h
  have hheld : (sameVendor.foldl (step id) .empty).held =
      [firstGpuOf "render", firstGpuOf "train"] := by
    decide +kernel
  have hcompatible : Compatible (firstGpuOf "render") (firstGpuOf "train") := by
    refine h _ (by simp [hheld]) _ (by simp [hheld]) (by decide) ?_ ?_
    · unfold Recorded
      decide +kernel
    · unfold Recorded
      decide +kernel
  exact hcompatible rfl (.inl rfl) 0 mem_cons_self mem_cons_self

end GpuLedger

end ZLayer.Scheduler
