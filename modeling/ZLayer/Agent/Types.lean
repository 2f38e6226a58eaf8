import ZLayer.Lib.HashMap

/-!
# Types — errors, service specs and container ids of the agent

The fields of a service spec that the modelled functions read.
-/

namespace ZLayer.Agent

/-- The errors that the agent makes or tells apart; any other is given by its text. -/
inductive AgentError
  | notFound (container reason : String)
  | pullFailed (image reason : String)
  | createFailed (id reason : String)
  | startFailed (id reason : String)
  | invalidSpec (text : String)
  | routeToPeer (service requiredOs reason : String)
  | other (text : String)
  deriving DecidableEq

def AgentError.message : AgentError → String
  | .notFound container reason => s!"Container '{container}' not found: {reason}"
  | .pullFailed image reason => s!"Failed to pull image '{image}': {reason}"
  | .createFailed id reason => s!"Failed to create container '{id}': {reason}"
  | .startFailed id reason => s!"Failed to start container '{id}': {reason}"
  | .invalidSpec text => s!"Invalid spec: {text}"
  | .routeToPeer service requiredOs reason =>
    s!"route-to-peer: service '{service}' requires OS '{requiredOs}' on another node: {reason}"
  | .other text => text

/-! ## Service specs -/

inductive DependencyCondition
  | started
  | healthy
  | ready
  deriving DecidableEq

inductive TimeoutAction
  | fail
  | warn
  | continue_
  deriving DecidableEq

structure DependsSpec where
  service : String
  condition : DependencyCondition
  timeout : Option Nat
  onTimeout : TimeoutAction
  deriving DecidableEq

structure ReplicaGroup where
  role : String
  count : UInt32
  deriving DecidableEq

structure ServiceSpec where
  image : String
  depends : List DependsSpec
  replicaGroups : Option (List ReplicaGroup)
  deriving DecidableEq

/-! ## Container ids -/

structure ContainerId where
  service : String
  replica : Nat
  role : String
  nodeId : UInt64
  deriving DecidableEq

namespace ContainerId

def withRoleAndNode (service : String) (replica : Nat) (role : String) (nodeId : UInt64) :
    ContainerId :=
  { service, replica, role, nodeId }

def isLegacyShape (id : ContainerId) : Bool := id.role == "default" && id.nodeId == 0

def display (id : ContainerId) : String :=
  if id.isLegacyShape then s!"{id.service}-rep-{id.replica}"
  else s!"{id.service}-{id.role}-{id.replica}-on-{id.nodeId}"

end ContainerId

end ZLayer.Agent
