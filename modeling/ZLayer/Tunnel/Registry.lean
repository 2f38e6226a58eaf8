import ZLayer.Tunnel.Protocol

/-!
# Registry — the tunnels of the server, their services and ports

The registry keeps the live tunnels, finds them by token, finds services by port, and hands out
ports from a configured range.  `Uuid::new_v4` and `Instant::now` are inputs of a call, and so is
the order in which a concurrent map is iterated.
-/

namespace ZLayer.Tunnel

open Lib

/-! ## Ports -/

structure PortPool where
  rangeStart : UInt16
  rangeEnd : UInt16
  usedPorts : Finset UInt16
  deriving DecidableEq

namespace PortPool

def new (start stop : UInt16) : PortPool :=
  { rangeStart := start
    rangeEnd := stop
    usedPorts := ∅ }

def range (pool : PortPool) : List UInt16 :=
  (List.range' pool.rangeStart.toNat
    (pool.rangeEnd.toNat + 1 - pool.rangeStart.toNat)).map UInt16.ofNat

def use (pool : PortPool) (port : UInt16) : PortPool :=
  { pool with usedPorts := insert port pool.usedPorts }

def allocate (pool : PortPool) : Option (UInt16 × PortPool) :=
  (pool.range.find? fun port => port ∉ pool.usedPorts).map fun port => (port, pool.use port)

def allocateSpecific (pool : PortPool) (port : UInt16) : Option PortPool :=
  if port < pool.rangeStart ∨ port > pool.rangeEnd then none
  else if port ∈ pool.usedPorts then none
  else some (pool.use port)

def release (pool : PortPool) (port : UInt16) : PortPool :=
  { pool with usedPorts := pool.usedPorts.erase port }

end PortPool

/-! ## Tunnels -/

structure TunnelService where
  id : Uuid
  name : String
  protocol : ServiceProtocol
  localPort : UInt16
  remotePort : UInt16
  assignedPort : Option UInt16
  deriving DecidableEq

/-- The `Tunnel` of the server. -/
structure ServerTunnel where
  id : Uuid
  tokenHash : String
  name : Option String
  services : HashMap Uuid TunnelService
  lastActivity : Nat

/-- `Instant::elapsed` is zero for an instant that lies ahead. -/
def ServerTunnel.isIdleFor (now : Nat) (tunnel : ServerTunnel) (duration : Nat) : Bool :=
  now - tunnel.lastActivity > duration

inductive RegistryError
  | tokenAlreadyRegistered
  | tunnelNotFound
  | serviceNotFound
  | noPortsAvailable
  | portNotAvailable (port : UInt16)
  deriving DecidableEq

structure TunnelRegistry where
  tunnels : HashMap Uuid ServerTunnel
  tunnelsByToken : HashMap String Uuid
  servicesByPort : HashMap UInt16 (Uuid × Uuid)
  portPool : PortPool

namespace TunnelRegistry

def new (portRange : UInt16 × UInt16) : TunnelRegistry :=
  { tunnels := ∅
    tunnelsByToken := ∅
    servicesByPort := ∅
    portPool := PortPool.new portRange.1 portRange.2 }

def registerTunnel (newId : Uuid) (now : Nat) (tokenHash : String) (name : Option String)
    (r : TunnelRegistry) : Except RegistryError ServerTunnel × TunnelRegistry :=
  if tokenHash ∈ r.tunnelsByToken then (.error .tokenAlreadyRegistered, r)
  else
    let tunnel : ServerTunnel :=
      { id := newId
        tokenHash
        name
        services := ∅
        lastActivity := now }
    (.ok tunnel,
      { r with
        tunnelsByToken := r.tunnelsByToken.insert tokenHash newId
        tunnels := r.tunnels.insert newId tunnel })

/-- The port of a service that goes away is free again. -/
def releaseService (r : TunnelRegistry) (service : TunnelService) : TunnelRegistry :=
  match service.assignedPort with
  | some port =>
    { r with
      servicesByPort := r.servicesByPort.erase port
      portPool := r.portPool.release port }
  | none => r

def unregisterTunnel (services : HashMap.IterOrder Uuid TunnelService) (tunnelId : Uuid)
    (r : TunnelRegistry) : Option ServerTunnel × TunnelRegistry :=
  match r.tunnels[tunnelId]? with
  | none => (none, r)
  | some tunnel =>
    let removed : TunnelRegistry :=
      { r with
        tunnels := r.tunnels.erase tunnelId
        tunnelsByToken := r.tunnelsByToken.erase tunnel.tokenHash }
    (some tunnel,
      ((services.list tunnel.services).map Prod.snd).foldl releaseService removed)

def getTunnel (tunnelId : Uuid) (r : TunnelRegistry) : Option ServerTunnel :=
  r.tunnels[tunnelId]?

/-- The port for a service and the pool without it: any free one if port 0 is asked for. -/
def allocatePort (remotePort : UInt16) (pool : PortPool) :
    Except RegistryError (UInt16 × PortPool) :=
  if remotePort = 0 then
    match pool.allocate with
    | some allocated => .ok allocated
    | none => .error .noPortsAvailable
  else
    match pool.allocateSpecific remotePort with
    | some pool => .ok (remotePort, pool)
    | none => .error (.portNotAvailable remotePort)

def addService (newId : Uuid) (tunnelId : Uuid) (name : String) (protocol : ServiceProtocol)
    (localPort remotePort : UInt16) (r : TunnelRegistry) :
    Except RegistryError TunnelService × TunnelRegistry :=
  match r.getTunnel tunnelId with
  | none => (.error .tunnelNotFound, r)
  | some tunnel =>
    match allocatePort remotePort r.portPool with
    | .error e => (.error e, r)
    | .ok (assignedPort, pool) =>
      let service : TunnelService :=
        { id := newId
          name
          protocol
          localPort
          remotePort
          assignedPort := some assignedPort }
      (.ok service,
        { r with
          portPool := pool
          servicesByPort := r.servicesByPort.insert assignedPort (tunnelId, newId)
          tunnels := r.tunnels.insert tunnelId
            { tunnel with services := tunnel.services.insert newId service } })

def removeService (tunnelId serviceId : Uuid) (r : TunnelRegistry) :
    Except RegistryError TunnelService × TunnelRegistry :=
  match r.getTunnel tunnelId with
  | none => (.error .tunnelNotFound, r)
  | some tunnel =>
    match tunnel.services[serviceId]? with
    | none => (.error .serviceNotFound, r)
    | some service =>
      (.ok service,
        releaseService
          { r with
            tunnels := r.tunnels.insert tunnelId
              { tunnel with services := tunnel.services.erase serviceId } }
          service)

def getServiceByPort (port : UInt16) (r : TunnelRegistry) :
    Option (ServerTunnel × TunnelService) := do
  let (tunnelId, serviceId) ← r.servicesByPort[port]?
  let tunnel ← r.getTunnel tunnelId
  let service ← tunnel.services[serviceId]?
  return (tunnel, service)

def touchTunnel (now : Nat) (tunnelId : Uuid) (r : TunnelRegistry) : TunnelRegistry :=
  match r.getTunnel tunnelId with
  | some tunnel =>
    { r with tunnels := r.tunnels.insert tunnelId { tunnel with lastActivity := now } }
  | none => r

def cleanupStale (tunnels : HashMap.IterOrder Uuid ServerTunnel)
    (services : HashMap.IterOrder Uuid TunnelService) (now maxIdle : Nat) (r : TunnelRegistry) :
    List Uuid × TunnelRegistry :=
  let staleIds := ((tunnels.list r.tunnels).filter fun entry =>
    entry.2.isIdleFor now maxIdle).map Prod.fst
  (staleIds, staleIds.foldl (fun r tunnelId => (unregisterTunnel services tunnelId r).2) r)

/-! ## Calls -/

inductive Call
  | registerTunnel (newId : Uuid) (now : Nat) (tokenHash : String) (name : Option String)
  | unregisterTunnel (services : HashMap.IterOrder Uuid TunnelService) (tunnelId : Uuid)
  | addService (newId tunnelId : Uuid) (name : String) (protocol : ServiceProtocol)
      (localPort remotePort : UInt16)
  | removeService (tunnelId serviceId : Uuid)
  | touchTunnel (now : Nat) (tunnelId : Uuid)
  | cleanupStale (tunnels : HashMap.IterOrder Uuid ServerTunnel)
      (services : HashMap.IterOrder Uuid TunnelService) (now maxIdle : Nat)

inductive Reply
  | registered (tunnel : ServerTunnel)
  | unregistered (tunnel : Option ServerTunnel)
  | added (service : TunnelService)
  | removed (service : TunnelService)
  | touched
  | cleaned (staleIds : List Uuid)

def call (r : TunnelRegistry) : Call → Except RegistryError Reply × TunnelRegistry
  | .registerTunnel newId now tokenHash name =>
    (registerTunnel newId now tokenHash name r).map (·.map .registered) id
  | .unregisterTunnel services tunnelId =>
    (unregisterTunnel services tunnelId r).map (.ok ∘ .unregistered) id
  | .addService newId tunnelId name protocol localPort remotePort =>
    (addService newId tunnelId name protocol localPort remotePort r).map (·.map .added) id
  | .removeService tunnelId serviceId =>
    (removeService tunnelId serviceId r).map (·.map .removed) id
  | .touchTunnel now tunnelId => (.ok .touched, touchTunnel now tunnelId r)
  | .cleanupStale tunnels services now maxIdle =>
    (cleanupStale tunnels services now maxIdle r).map (.ok ∘ .cleaned) id

def next (r : TunnelRegistry) (c : Call) : TunnelRegistry :=
  (r.call c).2

end TunnelRegistry

end ZLayer.Tunnel
