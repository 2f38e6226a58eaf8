import ZLayer.Proxy.LoadBalancer
import ZLayer.Proxy.Routes

/-!
# ProxyManager — the services of a node behind the proxy

The agent registers a route and a group of backends for every HTTP endpoint of a service, and keeps
both up to date.  A route is only ever made from an endpoint of an added service; later calls
change its backends and nothing else.
-/

namespace ZLayer.Proxy

open Lib List
open Overlay (SocketAddr)

structure ServiceTracking where
  endpointNames : List String
  tcpPorts : List UInt16
  udpPorts : List UInt16
  httpPorts : List UInt16
  deriving DecidableEq

structure ProxyManager where
  registry : ServiceRegistry
  loadBalancer : LoadBalancer
  services : HashMap String ServiceTracking
  deriving DecidableEq

def EndpointSpec.isL7 (endpoint : EndpointSpec) : Bool :=
  match endpoint.protocol with
  | .http | .https | .websocket => true
  | .tcp | .udp => false

namespace ProxyManager

def new : ProxyManager := ⟨.new, .new, ∅⟩

def addEndpoint (name : String) (acc : ProxyManager × ServiceTracking) (endpoint : EndpointSpec) :
    ProxyManager × ServiceTracking :=
  let (m, tracking) := acc
  let tracking := { tracking with endpointNames := tracking.endpointNames ++ [endpoint.name] }
  match endpoint.protocol with
  | .http | .https | .websocket =>
    ({ m with
        registry := m.registry.register (RouteEntry.fromEndpoint name endpoint)
        loadBalancer :=
          m.loadBalancer.register (endpointLbKey name endpoint.name) [] .roundRobin },
      { tracking with httpPorts := tracking.httpPorts ++ [endpoint.port] })
  | .tcp => (m, { tracking with tcpPorts := tracking.tcpPorts ++ [endpoint.port] })
  | .udp => (m, { tracking with udpPorts := tracking.udpPorts ++ [endpoint.port] })

variable (m : ProxyManager)

def addService (name : String) (endpoints : List EndpointSpec) : ProxyManager :=
  let (m, tracking) := endpoints.foldl (addEndpoint name) (m, ⟨[], [], [], []⟩)
  { m with
    -- callers that select by the bare name of the service find a group, too
    loadBalancer := m.loadBalancer.register name [] .roundRobin
    services := m.services.insert name tracking }

variable (service : String)

/-- The load balancer after a change of the group of the service and of those of its endpoints. -/
def forEachGroup (f : LoadBalancer → String → LoadBalancer) : LoadBalancer :=
  match m.services[service]? with
  | some tracking =>
    (tracking.endpointNames.map (endpointLbKey service)).foldl f (f m.loadBalancer service)
  | none => f m.loadBalancer service

def removeService (name : String) : ProxyManager :=
  match m.services[name]? with
  | some _ =>
    { registry := m.registry.unregisterService name
      loadBalancer := m.forEachGroup name fun lb key => lb.unregister key
      services := m.services.erase name }
  | none => m

def addBackend (addr : SocketAddr) : ProxyManager :=
  { m with
    registry := m.registry.addBackend service addr
    loadBalancer := m.forEachGroup service fun lb key => lb.addBackend key addr }

def removeBackend (addr : SocketAddr) : ProxyManager :=
  { m with
    registry := m.registry.removeBackend service addr
    loadBalancer := m.forEachGroup service fun lb key => lb.removeBackend key addr }

def updateBackendHealth (addr : SocketAddr) (healthy : Bool) : ProxyManager :=
  { m with
    loadBalancer := m.forEachGroup service fun lb key => lb.markHealth key addr healthy }

def updateBackends (addrs : List SocketAddr) : ProxyManager :=
  { m with
    registry := m.registry.updateBackends service addrs
    loadBalancer := m.forEachGroup service fun lb key => lb.updateBackends key addrs }

def updateEndpointBackends (service endpointName : String) (addrs : List SocketAddr) :
    ProxyManager :=
  { m with
    registry := m.registry.updateBackendsForEndpoint service endpointName addrs
    loadBalancer := m.loadBalancer.updateBackends (endpointLbKey service endpointName) addrs }

/-! ## Runs -/

inductive Op
  | addService (name : String) (endpoints : List EndpointSpec)
  | removeService (name : String)
  | addBackend (service : String) (addr : SocketAddr)
  | removeBackend (service : String) (addr : SocketAddr)
  | updateBackendHealth (service : String) (addr : SocketAddr) (healthy : Bool)
  | updateBackends (service : String) (addrs : List SocketAddr)
  | updateEndpointBackends (service endpointName : String) (addrs : List SocketAddr)
  /-- A request has been given a backend of the group. -/
  | select (key : String)

def next : Op → ProxyManager
  | .addService name endpoints => m.addService name endpoints
  | .removeService name => m.removeService name
  | .addBackend service addr => m.addBackend service addr
  | .removeBackend service addr => m.removeBackend service addr
  | .updateBackendHealth service addr healthy => m.updateBackendHealth service addr healthy
  | .updateBackends service addrs => m.updateBackends service addrs
  | .updateEndpointBackends service endpointName addrs =>
    m.updateEndpointBackends service endpointName addrs
  | .select key => { m with loadBalancer := (m.loadBalancer.select key).2 }

def run (ops : List Op) : ProxyManager := ops.foldl next new

/-! ## Where routes come from -/

/-- The route of an HTTP endpoint of a service that was added in the run, with any backends. -/
def IsRouteOf (ops : List Op) (entry : RouteEntry) : Prop :=
  ∃ name endpoints endpoint backends, .addService name endpoints ∈ ops ∧ endpoint ∈ endpoints ∧
    endpoint.isL7 = true ∧ entry = (RouteEntry.fromEndpoint name endpoint).withBackends backends

lemma IsRouteOf.mono {ops ops' : List Op} {entry : RouteEntry} (h : IsRouteOf ops entry)
    (hsub : ∀ op ∈ ops, op ∈ ops') : IsRouteOf ops' entry := by
  obtain ⟨name, endpoints, endpoint, backends, hop, rest⟩ := h
  exact ⟨name, endpoints, endpoint, backends, hsub _ hop, rest⟩

lemma IsRouteOf.withBackends {ops : List Op} {entry : RouteEntry} (h : IsRouteOf ops entry)
    (backends : List SocketAddr) : IsRouteOf ops (entry.withBackends backends) := by
  obtain ⟨name, endpoints, endpoint, old, hop, hmem, hl7, rfl⟩ := h
  exact ⟨name, endpoints, endpoint, backends, hop, hmem, hl7, rfl⟩

/-- A route after the endpoints of a service have been added is old or made from one of them. -/
lemma mem_foldl_addEndpoint {name : String} (endpoints : List EndpointSpec)
    {acc : ProxyManager × ServiceTracking} {entry : RouteEntry}
    (h : entry ∈ (endpoints.foldl (addEndpoint name) acc).1.registry.routes) :
    entry ∈ acc.1.registry.routes ∨
      ∃ endpoint ∈ endpoints, endpoint.isL7 = true ∧ entry = .fromEndpoint name endpoint := by
  induction endpoints generalizing acc with
  | nil => exact .inl h
  | cons endpoint rest ih =>
    rcases ih h with hold | ⟨later, hmem, hlater⟩
    · -- the route was there before the rest: it is older, or this endpoint's
      have hl7 (hprotocol : endpoint.isL7 = true)
          (hold : entry ∈ (acc.1.registry.register (.fromEndpoint name endpoint)).routes) :
          entry ∈ acc.1.registry.routes ∨ ∃ e ∈ endpoint :: rest,
            e.isL7 = true ∧ entry = .fromEndpoint name e := by
        rcases (mem_insertIdx findIdx_le_length).mp hold with hnew | hold
        · exact .inr ⟨endpoint, mem_cons_self, hprotocol, hnew⟩
        · exact .inl hold
      unfold addEndpoint at hold
      cases hprotocol : endpoint.protocol with
      | http | https | websocket =>
        exact hl7 (by simp [EndpointSpec.isL7, hprotocol]) (by simpa [hprotocol] using hold)
      | tcp | udp => exact .inl (by simpa [hprotocol] using hold)
    · exact .inr ⟨later, mem_cons_of_mem _ hmem, hlater⟩

lemma isRouteOf_next {m : ProxyManager} {ops : List Op} (op : Op)
    (h : ∀ entry ∈ m.registry.routes, IsRouteOf ops entry) :
    ∀ entry ∈ (m.next op).registry.routes, IsRouteOf (ops ++ [op]) entry := by
  have hold : ∀ entry ∈ m.registry.routes, IsRouteOf (ops ++ [op]) entry :=
    fun entry hentry => (h entry hentry).mono fun _ => mem_append_left _
  have hmodified {selected : RouteEntry → Bool} {f : List SocketAddr → List SocketAddr} :
      ∀ entry ∈ (m.registry.modifyBackends selected f).routes, IsRouteOf (ops ++ [op]) entry := by
    intro entry hentry
    obtain ⟨old, hmem, rfl⟩ := mem_map.mp hentry
    split
    · exact (hold old hmem).withBackends _
    · exact hold old hmem
  intro entry hentry
  cases op with
  | addService name endpoints =>
    rcases mem_foldl_addEndpoint endpoints hentry with hmem | ⟨endpoint, hmem, hl7, rfl⟩
    · exact hold entry hmem
    · exact ⟨name, endpoints, endpoint, [], mem_append_right _ mem_cons_self, hmem, hl7,
        rfl⟩
  | removeService name =>
    unfold next removeService at hentry
    cases hservice : m.services[name]? with
    | none =>
      simp only [hservice] at hentry
      exact hold entry hentry
    | some tracking =>
      simp only [hservice] at hentry
      exact hold entry (mem_of_mem_filter hentry)
  | addBackend | removeBackend | updateBackends | updateEndpointBackends =>
    exact hmodified entry hentry
  | updateBackendHealth | select => exact hold entry hentry

/-- Every route of the registry belongs to an HTTP endpoint of a service that was added. -/
lemma isRouteOf_run (ops : List Op) :
    ∀ entry ∈ (run ops).registry.routes, IsRouteOf ops entry := by
  induction ops using reverseRecOn with
  | nil => exact fun entry hentry => absurd hentry not_mem_nil
  | append_singleton ops op ih =>
    rw [run, foldl_concat]
    exact isRouteOf_next op ih

end ProxyManager

end ZLayer.Proxy
