import ZLayer.Scheduler.ClusterState

/-!
# Deregistration — what is left of a node after `DeregisterNode`

Five collections of the replicated state can refer to a node: the node registry, the assignments of
the services, the worker leases, the service subnets and the overlay endpoints.  `DeregisterNode`
cleans the first two.  A lease, a subnet or an endpoint of the node survives, so deregistration
leaves no trace exactly when there is none of these.
-/

namespace ZLayer.Scheduler

open Lib

namespace ClusterState

/-! ## Traces of a node -/

/-- No part of the state refers to the node. -/
structure Absent (n : NodeId) (s : ClusterState) : Prop where
  nodes : n ∉ s.nodes
  assigned : ∀ (name : String) (svc : ServiceState), s.services[name]? = some svc →
    n ∉ svc.assignedNodes
  leases : n ∉ s.workerLeases
  subnets : ∀ service : String, (service, toString n) ∉ s.serviceSubnets.assignments
  endpoints : ∀ (key : String) (e : ServiceOverlayEndpoint),
    s.serviceOverlayEndpoints[key]? = some e → e.nodeId ≠ n

/-- What does not refer to the node is as before. -/
structure OthersKept (n : NodeId) (s s' : ClusterState) : Prop where
  nodes : ∀ m ≠ n, s'.nodes[m]? = s.nodes[m]?
  services : ∀ name : String, s'.services[name]? =
    s.services[name]?.map fun svc =>
      { svc with assignedNodes := svc.assignedNodes.filter (· != n) }
  scaleEvents : s'.scaleEvents = s.scaleEvents
  secrets : s'.secrets = s.secrets
  leases : ∀ m ≠ n, s'.workerLeases[m]? = s.workerLeases[m]?
  clusterCidr : s'.serviceSubnets.clusterCidr = s.serviceSubnets.clusterCidr
  slicePrefix : s'.serviceSubnets.slicePrefix = s.serviceSubnets.slicePrefix
  subnets : ∀ service node : String, node ≠ toString n →
    s'.serviceSubnets.assignments[(service, node)]? =
      s.serviceSubnets.assignments[(service, node)]?
  endpoints : ∀ (key : String) (e : ServiceOverlayEndpoint), e.nodeId ≠ n →
    (s'.serviceOverlayEndpoints[key]? = some e ↔ s.serviceOverlayEndpoints[key]? = some e)

/-- The node has no lease, no service subnet and no overlay endpoint. -/
structure HoldsNothing (n : NodeId) (s : ClusterState) : Prop where
  leases : n ∉ s.workerLeases
  subnets : ∀ service : String, (service, toString n) ∉ s.serviceSubnets.assignments
  endpoints : ∀ (key : String) (e : ServiceOverlayEndpoint),
    s.serviceOverlayEndpoints[key]? = some e → e.nodeId ≠ n

/-- Deregistering the node removes every reference to it and changes nothing else. -/
def LeavesNoTrace (now : Nat) (n : NodeId) (s : ClusterState) : Prop :=
  Absent n (s.apply now (.deregisterNode n)).1 ∧ OthersKept n s (s.apply now (.deregisterNode n)).1

lemma lookup_services_deregisterNode (now : Nat) (n : NodeId) (s : ClusterState) (name : String) :
    (s.apply now (.deregisterNode n)).1.services[name]? =
      s.services[name]?.map fun svc =>
        { svc with assignedNodes := svc.assignedNodes.filter (· != n) } := by
  simp [apply]

/-- Registry and assignments never keep the node, and the rest never changes. -/
lemma othersKept_deregisterNode (now : Nat) (n : NodeId) (s : ClusterState) :
    OthersKept n s (s.apply now (.deregisterNode n)).1 where
  nodes _ hm := HashMap.lookup_erase_of_ne _ hm.symm
  services := lookup_services_deregisterNode now n s
  scaleEvents := rfl
  secrets := rfl
  leases _ _ := rfl
  clusterCidr := rfl
  slicePrefix := rfl
  subnets _ _ _ := rfl
  endpoints _ _ _ := Iff.rfl

theorem leavesNoTrace_iff_holdsNothing (now : Nat) (n : NodeId) (s : ClusterState) :
    LeavesNoTrace now n s ↔ HoldsNothing n s := by
  constructor
  · rintro ⟨habsent, -⟩
    exact ⟨habsent.leases, habsent.subnets, habsent.endpoints⟩
  · intro h
    -- leases, subnets and endpoints are not touched, so there must be none to begin with
    refine ⟨⟨?_, ?_, h.leases, h.subnets, h.endpoints⟩, othersKept_deregisterNode now n s⟩
    · change n ∉ s.nodes.erase n
      simp
    · intro name svc hsvc hmem
      rw [lookup_services_deregisterNode] at hsvc
      obtain ⟨old, -, rfl⟩ := Option.map_eq_some_iff.mp hsvc
      simp at hmem

def leasedWorker : List Request :=
  [.grantWorkerLease 7 "worker-7" 1 1 30]

/-- Its lease is still there when it has been deregistered. -/
theorem lease_left_after_deregisterNode :
    ¬LeavesNoTrace 0 7 (default.run (fun _ => 0) leasedWorker).1 := by
  rintro ⟨habsent, -⟩
  exact habsent.leases (by decide +kernel)

end ClusterState

end ZLayer.Scheduler
