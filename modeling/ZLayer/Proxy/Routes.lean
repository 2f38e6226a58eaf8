import Mathlib.Data.List.InsertIdx
import ZLayer.Overlay.IpText

/-!
# Routes — which service a request goes to

The `ServiceRegistry` of the proxy maps a host and a path to a service.  Its routes are kept in the
order of decreasing length of their path prefix, and the first one that matches is taken.
-/

namespace ZLayer.Proxy

open Lib
open Overlay (SocketAddr)

/-! ## Endpoints -/

inductive Protocol
  | http
  | https
  | tcp
  | udp
  | websocket
  deriving DecidableEq

inductive ExposeType
  | «public»
  | internal
  deriving DecidableEq

structure EndpointSpec where
  name : String
  protocol : Protocol
  port : UInt16
  targetPort : Option UInt16
  path : Option String
  host : Option String
  expose : ExposeType
  deriving DecidableEq

def EndpointSpec.containerPort (endpoint : EndpointSpec) : UInt16 :=
  endpoint.targetPort.getD endpoint.port

/-! ## Route entries -/

structure ResolvedService where
  name : String
  backends : List SocketAddr
  useTls : Bool
  sniHostname : String
  expose : ExposeType
  protocol : Protocol
  stripPrefix : Bool
  pathPrefix : String
  targetPort : UInt16
  deriving DecidableEq

structure RouteEntry where
  serviceName : String
  endpointName : String
  host : Option String
  pathPrefix : String
  resolved : ResolvedService
  deriving DecidableEq

/-- The key of the backends of one endpoint in the load balancer. -/
def endpointLbKey (serviceName endpointName : String) : String :=
  serviceName ++ "#" ++ endpointName

def hostMatches (pattern host : String) : Bool :=
  if Str.startsWith pattern "*." then Str.endsWith host (String.ofList (pattern.toList.drop 1))
  else pattern == host

/-- Whether a path begins with a prefix that ends at a slash or at the end of the path. -/
def pathMatches (pathPrefix path : String) : Bool :=
  if pathPrefix == "/" then true
  else
    let normalized := Str.trimEndMatches '/' pathPrefix
    let normalizedPath := Str.trimEndMatches '/' path
    Str.startsWith normalizedPath normalized &&
      (normalizedPath.length == normalized.length ||
        (path.toList.drop normalized.length).head? == some '/')

def transformPath (pathPrefix path : String) (strip : Bool) : String :=
  if !strip || pathPrefix == "/" then path
  else
    match Str.stripPrefix (Str.trimEndMatches '/' pathPrefix) path with
    | some remainder => if remainder.isEmpty then "/" else remainder
    | none => path

namespace RouteEntry

def fromEndpoint (serviceName : String) (endpoint : EndpointSpec) : RouteEntry where
  serviceName := serviceName
  endpointName := endpoint.name
  host := endpoint.host
  pathPrefix := endpoint.path.getD "/"
  resolved :=
    { name := endpointLbKey serviceName endpoint.name
      backends := []
      useTls := endpoint.protocol = .https
      sniHostname := ""
      expose := endpoint.expose
      protocol := endpoint.protocol
      stripPrefix := false
      pathPrefix := endpoint.path.getD "/"
      targetPort := endpoint.containerPort }

def matchesRequest (entry : RouteEntry) (host : Option String) (path : String) : Bool :=
  match entry.host, host with
  | some _, none => false
  | some pattern, some h => hostMatches pattern h && pathMatches entry.pathPrefix path
  | none, _ => pathMatches entry.pathPrefix path

def withBackends (entry : RouteEntry) (backends : List SocketAddr) : RouteEntry :=
  { entry with resolved := { entry.resolved with backends := backends } }

end RouteEntry

/-! ## The registry -/

structure ServiceRegistry where
  routes : List RouteEntry
  deriving DecidableEq

namespace ServiceRegistry

def new : ServiceRegistry := ⟨[]⟩

variable (r : ServiceRegistry) (serviceName : String)

/-- A route comes before the first one with a shorter prefix. -/
def register (entry : RouteEntry) : ServiceRegistry :=
  ⟨r.routes.insertIdx (r.routes.findIdx fun route =>
    route.pathPrefix.utf8ByteSize < entry.pathPrefix.utf8ByteSize) entry⟩

def unregisterService : ServiceRegistry :=
  ⟨r.routes.filter fun route => route.serviceName != serviceName⟩

def findRoute (host : Option String) (path : String) : Option RouteEntry :=
  r.routes.find? fun route => route.matchesRequest host path

def resolve (host : Option String) (path : String) : Option ResolvedService :=
  (r.findRoute host path).map RouteEntry.resolved

def modifyBackends (selected : RouteEntry → Bool) (f : List SocketAddr → List SocketAddr) :
    ServiceRegistry :=
  ⟨r.routes.map fun route =>
    if selected route then route.withBackends (f route.resolved.backends) else route⟩

def updateBackends (backends : List SocketAddr) : ServiceRegistry :=
  r.modifyBackends (fun route => route.serviceName == serviceName) fun _ => backends

def updateBackendsForEndpoint (serviceName endpointName : String) (backends : List SocketAddr) :
    ServiceRegistry :=
  r.modifyBackends
    (fun route => route.serviceName == serviceName && route.endpointName == endpointName)
    fun _ => backends

def addBackend (addr : SocketAddr) : ServiceRegistry :=
  r.modifyBackends (fun route => route.serviceName == serviceName) fun backends =>
    if addr ∈ backends then backends else backends ++ [addr]

def removeBackend (addr : SocketAddr) : ServiceRegistry :=
  r.modifyBackends (fun route => route.serviceName == serviceName) fun backends =>
    backends.filter (· != addr)

/-! ## Which route is taken -/

/-- The registries that calls on an empty one lead to, in any order. -/
inductive Reachable : ServiceRegistry → Prop
  | new : Reachable new
  | register {r : ServiceRegistry} (h : Reachable r) (entry : RouteEntry) :
    Reachable (r.register entry)
  | unregisterService {r : ServiceRegistry} (h : Reachable r) (serviceName : String) :
    Reachable (r.unregisterService serviceName)
  | modifyBackends {r : ServiceRegistry} (h : Reachable r) (selected : RouteEntry → Bool)
    (f : List SocketAddr → List SocketAddr) : Reachable (r.modifyBackends selected f)

/-- Longer prefixes come first. -/
def Sorted (routes : List RouteEntry) : Prop :=
  routes.Pairwise fun a b => b.pathPrefix.utf8ByteSize ≤ a.pathPrefix.utf8ByteSize

lemma Sorted.register {routes : List RouteEntry} (h : Sorted routes) (entry : RouteEntry) :
    Sorted (register ⟨routes⟩ entry).routes := by
  induction routes with
  | nil => exact List.pairwise_singleton _ entry
  | cons route rest ih =>
    obtain ⟨hroute, hrest⟩ := List.pairwise_cons.mp h
    simp only [ServiceRegistry.register, List.findIdx_cons] at ih ⊢
    by_cases hshorter : route.pathPrefix.utf8ByteSize < entry.pathPrefix.utf8ByteSize
    · simp only [hshorter, decide_true, cond_true, List.insertIdx_zero]
      refine .cons (fun other hother => ?_) h
      rcases List.mem_cons.mp hother with rfl | hother
      · exact hshorter.le
      · exact (hroute other hother).trans hshorter.le
    · simp only [hshorter, decide_false, cond_false, List.insertIdx_succ_cons]
      refine .cons (fun other hother => ?_) (ih hrest)
      rcases (List.mem_insertIdx List.findIdx_le_length).mp hother with rfl | hold
      · exact not_lt.mp hshorter
      · exact hroute other hold

variable {r}

lemma Reachable.sorted (h : Reachable r) : Sorted r.routes := by
  induction h with
  | new => exact .nil
  | register _ entry ih => exact ih.register entry
  | unregisterService _ _ ih => exact ih.filter _
  | modifyBackends _ selected f ih =>
    refine List.pairwise_map.mpr (ih.imp fun hab => ?_)
    split <;> split <;> exact hab

/-- After any calls in any order, a request goes to a route whose prefix is the longest of all
routes that match it. -/
theorem longest_of_findRoute (h : Reachable r) {host : Option String} {path : String}
    {entry route : RouteEntry} (hfind : r.findRoute host path = some entry)
    (hmem : route ∈ r.routes) (hroute : route.matchesRequest host path = true) :
    route.pathPrefix.utf8ByteSize ≤ entry.pathPrefix.utf8ByteSize := by
  obtain ⟨-, before, after, hsplit, hbefore⟩ := List.find?_eq_some_iff_append.mp hfind
  have hsorted := h.sorted
  rw [hsplit] at hmem hsorted
  rcases List.mem_append.mp hmem with hearlier | hlater
  · exact absurd hroute (by simpa using hbefore route hearlier)
  · rcases List.mem_cons.mp hlater with rfl | hafter
    · exact le_rfl
    · exact (List.pairwise_cons.mp (List.pairwise_append.mp hsorted).2.1).1 route hafter

def routeOf (path : String) : RouteEntry :=
  .fromEndpoint "web" ⟨path, .http, 80, none, some path, none, .public⟩

/-- The root is registered first, and the longer prefix is taken. -/
theorem root_le_api :
    (routeOf "/").pathPrefix.utf8ByteSize ≤ (routeOf "/api").pathPrefix.utf8ByteSize := by
  have hfind : ((new.register (routeOf "/")).register (routeOf "/api")).findRoute none "/api/v1" =
      some (routeOf "/api") := by decide +kernel
  exact longest_of_findRoute (.register (.register .new _) _) hfind (by decide +kernel) rfl

end ServiceRegistry

end ZLayer.Proxy
