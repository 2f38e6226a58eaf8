import ZLayer.Proxy.LoadBalancer
import ZLayer.Proxy.NetworkPolicy
import ZLayer.Proxy.Routes

/-!
# ReverseProxy — what the proxy does with a request

`proxy_request` answers an ACME challenge itself.  Otherwise it resolves the route, checks that an
internal endpoint is reached from the overlay network and that the network policies admit the peer,
selects a backend and sends the request on.  A request to upgrade the connection takes a path of
its own, which makes the same checks and treats the headers in another way.

The model ends where the request is handed to the backend's connection.
-/

namespace ZLayer.Proxy

open Lib
open Overlay (IpAddr IpNet SocketAddr)

/-! ## Requests -/

structure Uri where
  host : Option String
  path : String
  query : Option String
  deriving DecidableEq

inductive HttpVersion
  | http09
  | http10
  | http11
  | http2
  | http3
  deriving DecidableEq

structure Request where
  uri : Uri
  version : HttpVersion
  headers : HeaderMap
  deriving DecidableEq

inductive ProxyError
  | routeNotFound (host path : String)
  | forbidden (message : String)
  | noHealthyBackends (service : String)
  | invalidRequest (message : String)
  deriving DecidableEq

structure Forwarded where
  backend : SocketAddr
  uri : Uri
  headers : HeaderMap
  deriving DecidableEq

inductive Reply
  | challenge (auth : String)
  | forwarded (request : Forwarded)
  deriving DecidableEq

/-! ## The service -/

structure HeaderConfig where
  xForwardedFor : Bool
  xForwardedProto : Bool
  xForwardedHost : Bool
  xRealIp : Bool
  via : Bool
  serverName : String
  deriving DecidableEq

structure TrustedProxyList where
  userCidrs : List IpNet
  cfCache : Option (List IpNet)
  deriving DecidableEq

def TrustedProxyList.isTrusted (list : TrustedProxyList) (peer : IpAddr) : Bool :=
  list.userCidrs.any (·.contains peer) || list.cfCache.any fun ranges =>
    ranges.any (·.contains peer)

/-- The proxy for one connection.  The certificate manager answers challenges; `parseUri` is the
URI parser of the `http` crate, with the text of its error. -/
structure ReverseProxyService where
  registry : ServiceRegistry
  loadBalancer : LoadBalancer
  config : HeaderConfig
  remoteAddr : Option SocketAddr
  isTls : Bool
  certManager : Option (String → Option String)
  networkPolicyChecker : Option (List NetworkPolicySpec)
  trustedProxies : TrustedProxyList
  parseUri : String → Except String Uri

/-- The overlay network is `10.200.0.0/16`. -/
def isOverlayIp : IpAddr → Bool
  | .v4 a => (a >>> 24).toNat % 256 == 10 && (a >>> 16).toNat % 256 == 200
  | .v6 _ => false

variable (headers : HeaderMap)

def headerText (name : String) : Option String :=
  (headers.get name).bind HeaderValue.toStr

/-- Set a header if the text can be a value. -/
def setHeader (name text : String) : HeaderMap :=
  match HeaderValue.parse text with
  | some value => headers.insert name value
  | none => headers

def Request.host (req : Request) : Option String :=
  (headerText req.headers "host").or req.uri.host

/-! ## Upgrades -/

def connectionTokens : List String :=
  match headerText headers "connection" with
  | some value => (Str.split ',' value).map Str.trim
  | none => []

def isUpgradeRequest : Bool :=
  (connectionTokens headers).any fun token => Str.eqIgnoreAsciiCase token "upgrade"

def websocketHeaders : List String :=
  ["sec-websocket-key", "sec-websocket-version", "sec-websocket-protocol",
    "sec-websocket-extensions"]

/-- The first value of each of these headers replaces what the destination has. -/
def copyUpgradeHeaders (source destination : HeaderMap) : HeaderMap :=
  ("connection" :: "upgrade" :: websocketHeaders).foldl
    (fun headers name =>
      match source.get name with
      | some value => headers.insert name value
      | none => headers)
    destination

/-! ## Forwarding headers -/

namespace ReverseProxyService

variable (svc : ReverseProxyService)

def peerIsTrusted : Bool :=
  svc.remoteAddr.any fun addr => svc.trustedProxies.isTrusted addr.ip

/-- A trusted peer may name the client it speaks for. -/
def effectiveClientIp : Option IpAddr :=
  if svc.peerIsTrusted then
    let cfIp := (headerText headers "cf-connecting-ip").bind fun s => IpAddr.parse (Str.trim s)
    let xffLeftmost := (headerText headers "x-forwarded-for").bind fun s =>
      (Str.split ',' s).head?.bind fun first => IpAddr.parse (Str.trim first)
    (cfIp.or xffLeftmost).or (svc.remoteAddr.map SocketAddr.ip)
  else
    svc.remoteAddr.map SocketAddr.ip

def forwardedForValue (clientIp : Option IpAddr) (existing : Option String) (peer : IpAddr) :
    String :=
  if svc.peerIsTrusted then
    -- the real client comes before the chain of the trusted proxies
    let real := (clientIp.getD peer).toString
    match existing with
    | some chain => if (Str.trim chain).isEmpty then real else real ++ ", " ++ chain
    | none => real
  else
    match existing with
    | some chain => chain ++ ", " ++ peer.toString
    | none => peer.toString

def setForwardedFor (clientIp : Option IpAddr) (headers : HeaderMap) : HeaderMap :=
  match svc.config.xForwardedFor, svc.remoteAddr with
  | true, some addr =>
    setHeader headers "x-forwarded-for"
      (svc.forwardedForValue clientIp (headerText headers "x-forwarded-for") addr.ip)
  | _, _ => headers

def setForwardedProto : HeaderMap :=
  if svc.config.xForwardedProto && (headers.get "x-forwarded-proto").isNone then
    setHeader headers "x-forwarded-proto" (if svc.isTls then "https" else "http")
  else
    headers

def setForwardedHost : HeaderMap :=
  match svc.config.xForwardedHost, headers.get "host", headers.get "x-forwarded-host" with
  | true, some host, none => headers.insert "x-forwarded-host" host
  | _, _, _ => headers

/-- A value that is already there is kept. -/
def setRealIp (clientIp : Option IpAddr) (headers : HeaderMap) : HeaderMap :=
  match svc.config.xRealIp, clientIp, headers.get "x-real-ip" with
  | true, some ip, none => setHeader headers "x-real-ip" ip.toString
  | _, _, _ => headers

def setVia (version : HttpVersion) (headers : HeaderMap) : HeaderMap :=
  if svc.config.via then
    let protoVersion :=
      match version with
      | .http09 => "0.9"
      | .http10 => "1.0"
      | .http11 => "1.1"
      | .http2 => "2.0"
      | .http3 => "3.0"
    let viaValue := protoVersion ++ " " ++ svc.config.serverName
    setHeader headers "via"
      (match headerText headers "via" with
      | some s => s ++ ", " ++ viaValue
      | none => viaValue)
  else
    headers

def addForwardingHeaders (version : HttpVersion) (headers : HeaderMap) : HeaderMap :=
  -- the client is determined before anything is written
  let clientIp := svc.effectiveClientIp headers
  let headers := svc.setForwardedFor clientIp headers
  let headers := svc.setForwardedProto headers
  let headers := svc.setForwardedHost headers
  let headers := svc.setRealIp clientIp headers
  svc.setVia version headers

def hopByHop : List String :=
  ["connection", "keep-alive", "proxy-authenticate", "proxy-authorization", "te", "trailer",
    "transfer-encoding", "upgrade"]

/-- The standard hop-by-hop headers go, and those the `Connection` header names. -/
def removeHopByHopHeaders : HeaderMap :=
  (hopByHop ++ (connectionTokens headers).map Str.toAsciiLowercase).foldl HeaderMap.remove headers

/-! ## `proxy_request` -/

def challengeResponse (path : String) : Option String :=
  match Str.stripPrefix "/.well-known/acme-challenge/" path with
  | some token =>
    if token.isEmpty then none else svc.certManager.bind fun respond => respond token
  | none => none

/-- Resolve the route and enforce what restricts it; both paths of `proxy_request` begin with
this. -/
def admission (req : Request) : Except ProxyError ResolvedService :=
  match svc.registry.resolve req.host req.uri.path with
  | none => .error (.routeNotFound (req.host.getD "<none>") req.uri.path)
  | some resolved =>
    if resolved.expose = .internal ∧ svc.remoteAddr.any (fun addr => !isOverlayIp addr.ip) then
      .error (.forbidden "endpoint is internal-only")
    else
      match svc.networkPolicyChecker, svc.remoteAddr with
      | some policies, some addr =>
        if checkAccess policies addr.ip resolved.name "*" resolved.targetPort then .ok resolved
        else
          .error (.forbidden
            ("network policy denied access to service '" ++ resolved.name ++ "'"))
      | _, _ => .ok resolved

def backendUri (backend : SocketAddr) (resolved : ResolvedService) (uri : Uri) : String :=
  "http://" ++ backend.toString ++
    transformPath resolved.pathPrefix uri.path resolved.stripPrefix ++
      (match uri.query with
      | some query => "?" ++ query
      | none => "")

def backendHeaders (req : Request) : HeaderMap :=
  if isUpgradeRequest req.headers then
    -- the backend's request is built anew, so its version is the default one
    svc.addForwardingHeaders .http11
      (copyUpgradeHeaders req.headers (HeaderMap.insertAll [] req.headers))
  else
    removeHopByHopHeaders (svc.addForwardingHeaders req.version req.headers)

def proxyRequest (req : Request) : Except ProxyError Reply × LoadBalancer :=
  match svc.challengeResponse req.uri.path with
  | some auth => (.ok (.challenge auth), svc.loadBalancer)
  | none =>
    match svc.admission req with
    | .error e => (.error e, svc.loadBalancer)
    | .ok resolved =>
      match svc.loadBalancer.select resolved.name with
      | (none, lb) => (.error (.noHealthyBackends resolved.name), lb)
      | (some backend, lb) =>
        match svc.parseUri (backendUri backend.addr resolved req.uri) with
        | .error e => (.error (.invalidRequest ("Invalid URI: " ++ e)), lb)
        | .ok uri =>
          (.ok (.forwarded ⟨backend.addr, uri, svc.backendHeaders req⟩), lb)

end ReverseProxyService

end ZLayer.Proxy
