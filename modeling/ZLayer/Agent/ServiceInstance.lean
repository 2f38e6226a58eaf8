import Mathlib.Data.Finset.Card
import ZLayer.Agent.Types

/-!
# ServiceInstance — scaling the containers of a service

`scale_to` pulls the image, starts the containers that are missing and stops those that are too
many.  `scale_service_local` does this for the service manager, and then tells the supervisor which
containers to watch.

Of a container only its id is kept.  `ScaleOutcomes` has the results of the calls that can make
`scale_to` return early, by the place of the container in the loop; what is only logged (PID,
overlay, DNS, proxy, port and volume calls) is left out.
-/

namespace ZLayer.Agent

structure ServiceInstance where
  serviceName : String
  spec : ServiceSpec
  nodeId : UInt64
  /-- The ids in the map of containers. -/
  containers : Finset ContainerId
  deriving DecidableEq

/-- What the runtime and the init actions answer during one call. -/
structure ScaleOutcomes where
  pull : Except AgentError Unit
  create : Nat → Except AgentError Unit
  init : Nat → Except AgentError Unit
  start : Nat → Except AgentError Unit
  /-- The log of a container that has exited by the time it is looked at. -/
  exited : Nat → Option String
  stop : Nat → Except AgentError Unit
  remove : Nat → Except AgentError Unit

/-- Every call succeeds, and every container keeps running. -/
def ScaleOutcomes.allOk : ScaleOutcomes :=
  { pull := .ok ()
    create := fun _ => .ok ()
    init := fun _ => .ok ()
    start := fun _ => .ok ()
    exited := fun _ => none
    stop := fun _ => .ok ()
    remove := fun _ => .ok () }

/-- The instance, and the containers of the service that the runtime has. -/
structure ScaleState where
  instance_ : ServiceInstance
  runtime : Finset ContainerId

def u32Max : Nat := 2 ^ 32 - 1

/-- The walk over the groups of `role_for_replica`; the sum saturates. -/
def roleFrom : List ReplicaGroup → Nat → Nat → String
  | [], _, _ => "default"
  | group :: groups, cumulative, replicaIdx =>
    let cumulative := min (cumulative + group.count.toNat) u32Max
    if replicaIdx ≤ cumulative then group.role else roleFrom groups cumulative replicaIdx

/-- The role and the index in its group of every replica, in the order of the groups. -/
def groupReplicas (groups : List ReplicaGroup) : List (String × Nat) :=
  groups.flatMap fun group => (List.range group.count.toNat).map fun idx => (group.role, idx + 1)

namespace ServiceInstance

def roleForReplica (inst : ServiceInstance) (replicaIdx : Nat) : String :=
  match inst.spec.replicaGroups with
  | none => "default"
  | some groups => roleFrom groups 0 replicaIdx

def containerId (inst : ServiceInstance) (role : String) (replica : Nat) : ContainerId :=
  .withRoleAndNode inst.serviceName replica role inst.nodeId

/-- The replicas that scaling up from `current` has to create. -/
def replicaSpecs (inst : ServiceInstance) (current replicas : Nat) : List (String × Nat) :=
  match inst.spec.replicaGroups with
  | some groups => ((groupReplicas groups).drop current).take (replicas - current)
  | none => (List.range' current (replicas - current)).map fun i => ("default", i + 1)

/-- `containers.len() as u32` -/
def replicaCount (inst : ServiceInstance) : Nat := inst.containers.card % 2 ^ 32

end ServiceInstance

namespace ScaleState

/-- Every error of the runtime but the one that moves the workload is reported as `CreateFailed`. -/
def createError (id : ContainerId) : AgentError → AgentError
  | .routeToPeer service requiredOs reason => .routeToPeer service requiredOs reason
  | e => .createFailed id.display e.message

/-- Create and start one container.  It gets into the map only at the end. -/
def startReplica (io : ScaleOutcomes) (k : Nat) (id : ContainerId) (s : ScaleState) :
    ScaleState × Except AgentError Unit :=
  match io.create k with
  | .error e => (s, .error (createError id e))
  | .ok () =>
    let created := { s with runtime := insert id s.runtime }
    match io.init k with
    | .error e => (created, .error e)
    | .ok () =>
      match io.start k with
      | .error e => (created, .error (.startFailed id.display e.message))
      | .ok () =>
        match io.exited k with
        | some logTail =>
          (created, .error (.startFailed id.display
            s!"container exited during startup:\n{logTail}"))
        | none =>
          ({ created with
              instance_ :=
                { s.instance_ with containers := insert id s.instance_.containers } },
            .ok ())

def startReplicas (io : ScaleOutcomes) :
    Nat → List (String × Nat) → ScaleState → ScaleState × Except AgentError Unit
  | _, [], s => (s, .ok ())
  | k, (role, replicaIdx) :: rest, s =>
    match s.startReplica io k (s.instance_.containerId role replicaIdx) with
    | (s, .error e) => (s, .error e)
    | (s, .ok ()) => startReplicas io (k + 1) rest s

def stopReplica (io : ScaleOutcomes) (k : Nat) (id : ContainerId) (s : ScaleState) :
    ScaleState × Except AgentError Unit :=
  if id ∈ s.instance_.containers then
    let removed : ScaleState :=
      { s with
        instance_ := { s.instance_ with containers := s.instance_.containers.erase id } }
    match io.stop k with
    | .error e => (removed, .error e)
    | .ok () =>
      match io.remove k with
      | .error e => (removed, .error e)
      | .ok () => ({ removed with runtime := s.runtime.erase id }, .ok ())
  else (s, .ok ())

/-- The ids of scaling down are made from the running number of the replica and its role. -/
def stopReplicas (io : ScaleOutcomes) :
    Nat → List Nat → ScaleState → ScaleState × Except AgentError Unit
  | _, [], s => (s, .ok ())
  | k, i :: rest, s =>
    let id := s.instance_.containerId (s.instance_.roleForReplica (i + 1)) (i + 1)
    match s.stopReplica io k id with
    | (s, .error e) => (s, .error e)
    | (s, .ok ()) => stopReplicas io (k + 1) rest s

def scaleTo (io : ScaleOutcomes) (replicas : UInt32) (s : ScaleState) :
    ScaleState × Except AgentError Unit :=
  let current := s.instance_.replicaCount
  let target := replicas.toNat
  if target < current then
    s.stopReplicas io 0 (List.range' target (current - target))
  else
    match io.pull with
    | .error e => (s, .error (.pullFailed s.instance_.spec.image e.message))
    | .ok () => s.startReplicas io 0 (s.instance_.replicaSpecs current target)

end ScaleState

/-! ## Supervision -/

/-- The manager's part of one service. -/
structure ManagedService where
  scale : ScaleState
  /-- The node id of the manager's cluster, 0 without one. -/
  localNodeId : UInt64
  /-- The containers of the service that the supervisor watches. -/
  supervised : Finset ContainerId

namespace ManagedService

/-- The id that the manager computes for the replica with running number `i`, from 0. -/
def supervisedId (m : ManagedService) (i : Nat) : ContainerId :=
  .withRoleAndNode m.scale.instance_.serviceName (i + 1)
    (m.scale.instance_.roleForReplica (i + 1)) m.localNodeId

def scaleServiceLocal (io : ScaleOutcomes) (replicas : UInt32) (m : ManagedService) :
    ManagedService × Except AgentError Unit :=
  let current := m.scale.instance_.replicaCount
  let target := replicas.toNat
  match m.scale.scaleTo io replicas with
  | (scale, .error e) => ({ m with scale }, .error e)
  | (scale, .ok ()) =>
    let supervised :=
      if current < target then
        (List.range' current (target - current)).foldl
          (fun watched i => insert (m.supervisedId i) watched) m.supervised
      else
        (List.range' target (current - target)).foldl
          (fun watched i => watched.erase (m.supervisedId i)) m.supervised
    ({ m with scale, supervised }, .ok ())

end ManagedService

end ZLayer.Agent
