import ZLayer.Agent.Types
import ZLayer.Lib.Kahn
import ZLayer.Lib.Reachability

/-!
# Dependency — the order in which services start

`DependencyGraph::build` checks the dependencies of every service, looks for a cycle and sorts the
services.  The map of services and the map of nodes are hash maps: the two orders in which they are
iterated are arguments.  A result `none` stands for a run that does not come to an end or panics.
-/

namespace ZLayer.Agent

open Lib

inductive DependencyError
  | cyclicDependency (cycle : List String)
  | missingService (service missing : String)
  | selfDependency (service : String)
  deriving DecidableEq

def DependencyError.message : DependencyError → String
  | .cyclicDependency cycle => "Cyclic dependency detected: " ++ " -> ".intercalate cycle
  | .missingService service missing =>
    s!"Service '{service}' depends on non-existent service '{missing}'"
  | .selfDependency service => s!"Service '{service}' has a self-dependency"

def DependencyError.toAgentError (err : DependencyError) : AgentError := .invalidSpec err.message

structure DependencyNode where
  serviceName : String
  dependsOn : List DependsSpec
  deriving DecidableEq

structure DependencyGraph where
  nodes : HashMap String DependencyNode
  startupOrder : List String
  adjacency : HashMap String (List String)
  reverseAdjacency : HashMap String (List String)

namespace DependencyGraph

def empty : DependencyGraph :=
  { nodes := ∅
    startupOrder := []
    adjacency := ∅
    reverseAdjacency := ∅ }

def addNode (graph : DependencyGraph) (name : String) (spec : ServiceSpec) : DependencyGraph :=
  { graph with
    nodes := graph.nodes.insert name
      { serviceName := name
        dependsOn := spec.depends }
    adjacency := graph.adjacency.insert name []
    reverseAdjacency := graph.reverseAdjacency.insert name [] }

/-- Check one dependency of `name` and add its edge to both adjacency lists. -/
def addDependency (services : HashMap String ServiceSpec) (name : String) (graph : DependencyGraph)
    (dep : DependsSpec) : Except DependencyError DependencyGraph :=
  if dep.service = name then .error (.selfDependency name)
  else if dep.service ∉ services then .error (.missingService name dep.service)
  else
    .ok { graph with
      adjacency := graph.adjacency.modify name (· ++ [dep.service])
      reverseAdjacency := graph.reverseAdjacency.modify dep.service (· ++ [name]) }

def addDependencies (services : HashMap String ServiceSpec) :
    List (String × ServiceSpec) → DependencyGraph → Except DependencyError DependencyGraph
  | [], graph => .ok graph
  | (name, spec) :: rest, graph =>
    match spec.depends.foldlM (addDependency services name) graph with
    | .error err => .error err
    | .ok graph => addDependencies services rest graph

def names (order : HashMap.IterOrder String DependencyNode) (graph : DependencyGraph) :
    List String :=
  (order.list graph.nodes).map Prod.fst

/-- The search for a cycle: `some none` if there is none. -/
def detectCycle (order : HashMap.IterOrder String DependencyNode) (graph : DependencyGraph) :
    Option (Option (List String)) :=
  let marks : DepthFirst.Marks String :=
    { color := (graph.names order).foldl (fun color name => color.insert name .white) ∅
      parent := (graph.names order).foldl (fun parent name => parent.insert name none) ∅ }
  match DepthFirst.visitAll graph.adjacency graph.nodes.size (graph.names order) marks with
  | .done _ => some none
  | .cycle path => some (some path)
  | .outOfFuel => none

def topologicalSort (order : HashMap.IterOrder String DependencyNode) (graph : DependencyGraph) :
    Option (Except AgentError (List String)) :=
  let (inDegree, queue) :=
    Kahn.countDegrees (DepthFirst.depsOf graph.adjacency) (graph.names order)
  match Kahn.drain (DepthFirst.depsOf graph.reverseAdjacency) graph.nodes.size inDegree
    queue [] with
  | none => none
  | some result =>
    if result.length ≠ graph.nodes.size then
      some (.error (.invalidSpec "Dependency graph has unresolved cycles"))
    else some (.ok result)

def build (serviceOrder : HashMap.IterOrder String ServiceSpec)
    (nodeOrder : HashMap.IterOrder String DependencyNode)
    (services : HashMap String ServiceSpec) : Option (Except AgentError DependencyGraph) :=
  let listed := serviceOrder.list services
  let graph := listed.foldl (fun graph (name, spec) => graph.addNode name spec) empty
  match addDependencies services listed graph with
  | .error err => some (.error err.toAgentError)
  | .ok graph =>
    match graph.detectCycle nodeOrder with
    | none => none
    | some (some cycle) => some (.error (DependencyError.cyclicDependency cycle).toAgentError)
    | some none =>
      match graph.topologicalSort nodeOrder with
      | none => none
      | some (.error err) => some (.error err)
      | some (.ok order) => some (.ok { graph with startupOrder := order })

/-- Whether `a` depends on `b`, directly or through others. -/
def dependsOn (graph : DependencyGraph) (a b : String) : Bool :=
  if a = b then false else Reachability.reaches graph.adjacency b ∅ [a]

end DependencyGraph

end ZLayer.Agent
