import ZLayer.Proxy.ProxyManager
import ZLayer.Proxy.ReverseProxy

/-!
# PolicyEnforcement — the policies, the name of a service and the key of an endpoint

The checker is asked about the name that a route carries for the load balancer, `service#endpoint`,
while a rule names a service.  So a rule for one service is never found, and what is decided is
what the rules for all services say.
-/

namespace ZLayer.Proxy

open Lib
open Overlay (IpAddr SocketAddr)

namespace ReverseProxyService

variable (svc : ReverseProxyService)

def Forwards (req : Request) : Prop :=
  ∃ f, (svc.proxyRequest req).1 = .ok (.forwarded f)

/-- Apart from the policies nothing stops a request for the service: it is no challenge, an
internal endpoint is reached from the overlay network, and there is a healthy backend whose URI is
valid. -/
def Passes (req : Request) (resolved : ResolvedService) : Prop :=
  svc.challengeResponse req.uri.path = none ∧
    ¬ (resolved.expose = .internal ∧ svc.remoteAddr.any fun addr => !isOverlayIp addr.ip) ∧
      ∃ backend uri, (svc.loadBalancer.select resolved.name).1 = some backend ∧
        svc.parseUri (backendUri backend.addr resolved req.uri) = .ok uri

variable {svc} {req : Request}

lemma proxyRequest_eq_forwarded {f : Forwarded}
    (h : (svc.proxyRequest req).1 = .ok (.forwarded f)) :
    svc.challengeResponse req.uri.path = none ∧
      ∃ resolved backend uri, svc.admission req = .ok resolved ∧
        (svc.loadBalancer.select resolved.name).1 = some backend ∧
          svc.parseUri (backendUri backend.addr resolved req.uri) = .ok uri ∧
            f = ⟨backend.addr, uri, svc.backendHeaders req⟩ := by
  unfold proxyRequest at h
  split at h
  · cases h
  · rename_i hchallenge
    refine ⟨hchallenge, ?_⟩
    split at h
    · cases h
    · rename_i resolved hadmission
      split at h
      · cases h
      · rename_i backend lb hselect
        split at h
        · cases h
        · rename_i uri huri
          cases h
          exact ⟨resolved, backend, uri, hadmission, congrArg Prod.fst hselect, huri, rfl⟩

lemma forwards_of_admission {resolved : ResolvedService}
    (hadmission : svc.admission req = .ok resolved)
    (hpasses : svc.Passes req resolved) : svc.Forwards req := by
  obtain ⟨hchallenge, -, backend, uri, hselect, huri⟩ := hpasses
  refine ⟨⟨backend.addr, uri, svc.backendHeaders req⟩, ?_⟩
  unfold proxyRequest
  rcases hlb : svc.loadBalancer.select resolved.name with ⟨selected, lb⟩
  rw [hlb] at hselect
  cases hselect
  simp only [hchallenge, hadmission, hlb, huri]

variable {policies : List NetworkPolicySpec} {peer : SocketAddr} {entry : RouteEntry}

section

variable (hchecker : svc.networkPolicyChecker = some policies)
  (hpeer : svc.remoteAddr = some peer)
  (hroute : svc.registry.findRoute req.host req.uri.path = some entry)

include hchecker hpeer hroute

/-- What the checks make of a request for a route, from a known peer and under policies. -/
lemma admission_eq :
    svc.admission req =
      if entry.resolved.expose = .internal ∧ (!isOverlayIp peer.ip) = true then
        .error (.forbidden "endpoint is internal-only")
      else if checkAccess policies peer.ip entry.resolved.name "*" entry.resolved.targetPort then
        .ok entry.resolved
      else
        .error (.forbidden
          ("network policy denied access to service '" ++ entry.resolved.name ++ "'")) := by
  simp only [admission, ServiceRegistry.resolve, hroute, Option.map_some, hchecker, hpeer,
    Option.any_some]

/-- A request for a route is sent on exactly if the policies admit the key of the route and
nothing else stops it. -/
lemma forwards_iff :
    svc.Forwards req ↔ svc.Passes req entry.resolved ∧
      Allowed policies peer.ip entry.resolved.name entry.resolved.targetPort := by
  rw [← checkAccess_iff]
  have hadmission := admission_eq hchecker hpeer hroute
  constructor
  · rintro ⟨f, hf⟩
    obtain ⟨hchallenge, resolved, backend, uri, hok, hselect, huri, -⟩ :=
      proxyRequest_eq_forwarded hf
    rw [hadmission] at hok
    split at hok
    · cases hok
    · rename_i hinternal
      split at hok
      · rename_i haccess
        cases hok
        refine ⟨⟨hchallenge, ?_, backend, uri, hselect, huri⟩, haccess⟩
        simpa only [hpeer, Option.any_some] using hinternal
      · cases hok
  · rintro ⟨hpasses, haccess⟩
    refine forwards_of_admission ?_ hpasses
    have hinternal := hpasses.2.1
    simp only [hpeer, Option.any_some] at hinternal
    rw [hadmission, if_neg hinternal, if_pos haccess]

end

end ReverseProxyService

/-! ## The rules that decide -/

/-- The rules decide about the key as they do about the service: no policy is about the peer; or
the request is refused, by a deny rule for the key or all services, or for want of an allow rule for
them; or no deny rule is for the service and some allow rule is for it or for all services. -/
def KeyDecides (policies : List NetworkPolicySpec) (ip : IpAddr) (service key : String)
    (port : UInt16) : Prop :=
  matchingNetworks policies ip = [] ∨
    (∃ rule ∈ applicable policies ip port .deny, rule.Names key) ∨
    (∀ rule ∈ applicable policies ip port .allow, ¬ rule.Names key) ∨
    ((∀ rule ∈ applicable policies ip port .deny, rule.service ≠ service) ∧
      ∃ rule ∈ applicable policies ip port .allow, rule.Names service)

lemma allowed_imp_iff (policies : List NetworkPolicySpec) (ip : IpAddr) (service key : String)
    (port : UInt16) :
    (Allowed policies ip key port → Allowed policies ip service port) ↔
      KeyDecides policies ip service key port := by
  constructor
  · intro himp
    by_cases hnetworks : matchingNetworks policies ip = []
    · exact .inl hnetworks
    by_cases hdeny : ∃ rule ∈ applicable policies ip port .deny, rule.Names key
    · exact .inr (.inl hdeny)
    by_cases hallow : ∃ rule ∈ applicable policies ip port .allow, rule.Names key
    · -- the key is admitted, so the service is
      have hadmitted : Allowed policies ip key port :=
        fun _ => ⟨fun rule hrule hnames => hdeny ⟨rule, hrule, hnames⟩, hallow⟩
      obtain ⟨hnone, hsome⟩ := himp hadmitted hnetworks
      exact .inr (.inr (.inr
        ⟨fun rule hrule hservice => hnone rule hrule (.inr hservice), hsome⟩))
    · exact .inr (.inr (.inl fun rule hrule hnames => hallow ⟨rule, hrule, hnames⟩))
  · rintro (hempty | ⟨rule, hrule, hnames⟩ | hnone | ⟨hnone, hsome⟩) hadmitted hnetworks
    · exact absurd hempty hnetworks
    · exact absurd hnames ((hadmitted hnetworks).1 rule hrule)
    · obtain ⟨rule, hrule, hnames⟩ := (hadmitted hnetworks).2
      exact absurd hnames (hnone rule hrule)
    · refine ⟨fun rule hrule hnames => ?_, hsome⟩
      -- a deny rule for all services would refuse the key as well
      rcases hnames with hall | hservice
      · exact (hadmitted hnetworks).1 rule hrule (.inl hall)
      · exact hnone rule hrule hservice

/-- For every run of the manager, every request and every peer: a request for a route of a service
is sent on only if the documented decision for the service allows it, exactly when something else
stops the request or the rules decide about the endpoint's key as about the service. -/
theorem forwarded_only_if_allowed_iff (ops : List ProxyManager.Op) (svc : ReverseProxyService)
    (policies : List NetworkPolicySpec) (peer : SocketAddr) (req : Request) (entry : RouteEntry)
    (hregistry : svc.registry = (ProxyManager.run ops).registry)
    (hchecker : svc.networkPolicyChecker = some policies) (hpeer : svc.remoteAddr = some peer)
    (hroute : svc.registry.findRoute req.host req.uri.path = some entry) :
    ∃ endpoints endpoint, .addService entry.serviceName endpoints ∈ ops ∧ endpoint ∈ endpoints ∧
      endpoint.isL7 = true ∧ entry.endpointName = endpoint.name ∧
        ((svc.Forwards req →
            Allowed policies peer.ip entry.serviceName endpoint.containerPort) ↔
          ¬ svc.Passes req entry.resolved ∨
            KeyDecides policies peer.ip entry.serviceName
              (endpointLbKey entry.serviceName endpoint.name) endpoint.containerPort) := by
  have hmem : entry ∈ (ProxyManager.run ops).registry.routes :=
    hregistry ▸ List.mem_of_find?_eq_some hroute
  obtain ⟨name, endpoints, endpoint, backends, hop, hendpoint, hl7, rfl⟩ :=
    ProxyManager.isRouteOf_run ops entry hmem
  refine ⟨endpoints, endpoint, hop, hendpoint, hl7, rfl, ?_⟩
  rw [ReverseProxyService.forwards_iff hchecker hpeer hroute, and_imp, ← allowed_imp_iff,
    ← imp_iff_not_or]
  exact Iff.rfl

/-! ## A rule for one service -/

namespace PolicyExample

def endpoint : EndpointSpec where
  name := "http"
  protocol := .http
  port := 80
  targetPort := some 8080
  path := none
  host := none
  expose := .public

def container : SocketAddr := ⟨.v4 0x0a000005, 8080⟩

def ops : List ProxyManager.Op :=
  [.addService "web" [endpoint], .addBackend "web" container]

def peer : SocketAddr := ⟨.v4 0xc0a80107, 50000⟩

def request : Request := ⟨⟨none, "/x", none⟩, .http11, []⟩

def policies : List NetworkPolicySpec :=
  [⟨"office", ["192.168.1.0/24"],
    [⟨"*", "*", none, .allow⟩, ⟨"web", "*", none, .deny⟩]⟩]

def openPolicies : List NetworkPolicySpec :=
  [⟨"office", ["192.168.1.0/24"], [⟨"*", "*", some [8080], .allow⟩]⟩]

def service (policies : List NetworkPolicySpec) : ReverseProxyService where
  registry := (ProxyManager.run ops).registry
  loadBalancer := (ProxyManager.run ops).loadBalancer
  config := ⟨true, true, true, true, true, "zlayer"⟩
  remoteAddr := some peer
  isTls := false
  certManager := none
  networkPolicyChecker := some policies
  trustedProxies := ⟨[], none⟩
  parseUri := fun _ => .ok ⟨some "10.0.0.5", "/x", none⟩

def route : RouteEntry :=
  (RouteEntry.fromEndpoint "web" endpoint).withBackends [container]

end PolicyExample

open PolicyExample in
theorem forwarded_only_if_allowed_office :
    (service openPolicies).registry.findRoute request.host request.uri.path = some route ∧
      ∃ endpoints endpoint, .addService "web" endpoints ∈ ops ∧ endpoint ∈ endpoints ∧
        endpoint.isL7 = true ∧ route.endpointName = endpoint.name ∧
          (((service openPolicies).Forwards request →
              Allowed openPolicies peer.ip "web" endpoint.containerPort) ↔
            ¬ (service openPolicies).Passes request route.resolved ∨
              KeyDecides openPolicies peer.ip "web"
                (endpointLbKey "web" endpoint.name) endpoint.containerPort) :=
  have hroute : (service openPolicies).registry.findRoute request.host request.uri.path =
      some route := by decide +kernel
  ⟨hroute, forwarded_only_if_allowed_iff ops (service openPolicies) openPolicies peer request route
    rfl rfl rfl hroute⟩

open PolicyExample in
/-- The request to the denied service reaches its container. -/
theorem denied_service_reached : ((service policies).proxyRequest request).1.toOption.map (fun
        | .forwarded f => some f.backend
        | .challenge _ => none) = some (some container) ∧
      (service policies).registry.findRoute request.host request.uri.path = some route ∧
      ¬ Allowed policies peer.ip "web" endpoint.containerPort := by
  decide +kernel

end ZLayer.Proxy
