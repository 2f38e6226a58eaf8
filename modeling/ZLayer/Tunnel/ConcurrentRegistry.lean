import ZLayer.Lib.Machine
import ZLayer.Tunnel.Registry

/-!
# ConcurrentRegistry — the calls of the registry, one access at a time

Calls run side by side.  Between two accesses to a map or to the pool of a call, other calls make
theirs.  A tunnel is shared: a call that has looked it up keeps it after it has left the map of
tunnels, and sees the services others add to it.
-/

namespace ZLayer.Tunnel

open Lib

namespace Concurrent

structure NewService where
  id : Uuid
  tunnelId : Uuid
  name : String
  protocol : ServiceProtocol
  localPort : UInt16
  remotePort : UInt16

inductive Progress
  -- `register_tunnel`
  | registerCheck (newId : Uuid) (now : Nat) (tokenHash : String) (name : Option String)
  | registerToken (tunnel : ServerTunnel)
  | registerTunnel (tunnel : ServerTunnel)
  -- `unregister_tunnel`; it holds the pool while it goes through the services
  | unregisterTunnel (tunnelId : Uuid)
  | unregisterToken (tunnelId : Uuid) (tokenHash : String)
  | unregisterLock (tunnelId : Uuid)
  | unregisterServices (tunnelId : Uuid) (due visited : List Uuid)
  -- `add_service`
  | addLookup (service : NewService)
  | addAllocate (service : NewService)
  | addByPort (tunnelId : Uuid) (service : TunnelService) (port : UInt16)
  | addInsert (tunnelId : Uuid) (service : TunnelService) (port : UInt16)
  -- `remove_service`
  | removeLookup (tunnelId serviceId : Uuid)
  | removeService (tunnelId serviceId : Uuid)
  | removeByPort (port : UInt16)
  | removeRelease (port : UInt16)

/-- The maps and the pool, the tunnels that some map or call has a reference to, and the calls that
have not returned.  A tunnel in the map of tunnels is given by its id. -/
structure State where
  objects : HashMap Uuid ServerTunnel
  tunnels : Finset Uuid
  tunnelsByToken : HashMap String Uuid
  servicesByPort : HashMap UInt16 (Uuid × Uuid)
  portPool : PortPool
  poolHeld : Bool
  calls : HashMap Nat Progress

inductive Request
  | registerTunnel (newId : Uuid) (now : Nat) (tokenHash : String) (name : Option String)
  | unregisterTunnel (tunnelId : Uuid)
  | addService (service : NewService)
  | removeService (tunnelId serviceId : Uuid)

def Request.start : Request → Progress
  | .registerTunnel newId now tokenHash name => .registerCheck newId now tokenHash name
  | .unregisterTunnel tunnelId => .unregisterTunnel tunnelId
  | .addService service => .addLookup service
  | .removeService tunnelId serviceId => .removeLookup tunnelId serviceId

/-- A call begins, makes its next access, or goes on to a service of the tunnel it unregisters. -/
inductive Event
  | call (c : Nat) (request : Request)
  | step (c : Nat)
  | visit (c : Nat) (serviceId : Uuid)

namespace State

def new (portRange : UInt16 × UInt16) : State :=
  { objects := ∅
    tunnels := ∅
    tunnelsByToken := ∅
    servicesByPort := ∅
    portPool := PortPool.new portRange.1 portRange.2
    poolHeld := false
    calls := ∅ }

def goOn (s : State) (c : Nat) (progress : Progress) : State :=
  { s with calls := s.calls.insert c progress }

def leave (s : State) (c : Nat) : State :=
  { s with calls := s.calls.erase c }

/-- A tunnel that the map of tunnels has. -/
def getTunnel (s : State) (tunnelId : Uuid) : Option ServerTunnel :=
  if tunnelId ∈ s.tunnels then s.objects[tunnelId]? else none

/-- The next access of a call.  A call that needs the pool waits while another holds it. -/
def access (s : State) (c : Nat) : Progress → State
  | .registerCheck newId now tokenHash name =>
    if tokenHash ∈ s.tunnelsByToken then s.leave c
    else
      s.goOn c (.registerToken
        { id := newId
          tokenHash
          name
          services := ∅
          lastActivity := now })
  | .registerToken tunnel =>
    { s.goOn c (.registerTunnel tunnel) with
      tunnelsByToken := s.tunnelsByToken.insert tunnel.tokenHash tunnel.id }
  | .registerTunnel tunnel =>
    { s.leave c with
      objects := s.objects.insert tunnel.id tunnel
      tunnels := insert tunnel.id s.tunnels }
  | .unregisterTunnel tunnelId =>
    match s.getTunnel tunnelId with
    | none => s.leave c
    | some tunnel =>
      { s.goOn c (.unregisterToken tunnelId tunnel.tokenHash) with
        tunnels := s.tunnels.erase tunnelId }
  | .unregisterToken tunnelId tokenHash =>
    { s.goOn c (.unregisterLock tunnelId) with
      tunnelsByToken := s.tunnelsByToken.erase tokenHash }
  | .unregisterLock tunnelId =>
    if s.poolHeld then s
    else
      match s.objects[tunnelId]? with
      | none => s.leave c
      | some tunnel =>
        let due := (HashMap.entries tunnel.services).map Prod.fst
        { s.goOn c (.unregisterServices tunnelId due []) with poolHeld := true }
  | .unregisterServices tunnelId due visited =>
    -- the services that were there from the beginning are not left out
    match s.objects[tunnelId]? with
    | none => s
    | some tunnel =>
      if due.all fun id => id ∈ visited ∨ id ∉ tunnel.services then
        { s.leave c with poolHeld := false }
      else s
  | .addLookup service =>
    match s.getTunnel service.tunnelId with
    | none => s.leave c
    | some _ => s.goOn c (.addAllocate service)
  | .addAllocate service =>
    if s.poolHeld then s
    else
      match TunnelRegistry.allocatePort service.remotePort s.portPool with
      | .error _ => s.leave c
      | .ok (port, pool) =>
        let added : TunnelService :=
          { id := service.id
            name := service.name
            protocol := service.protocol
            localPort := service.localPort
            remotePort := service.remotePort
            assignedPort := some port }
        { s.goOn c (.addByPort service.tunnelId added port) with portPool := pool }
  | .addByPort tunnelId service port =>
    { s.goOn c (.addInsert tunnelId service port) with
      servicesByPort := s.servicesByPort.insert port (tunnelId, service.id) }
  | .addInsert tunnelId service _ =>
    match s.objects[tunnelId]? with
    | none => s.leave c
    | some tunnel =>
      { s.leave c with
        objects := s.objects.insert tunnelId
          { tunnel with services := tunnel.services.insert service.id service } }
  | .removeLookup tunnelId serviceId =>
    match s.getTunnel tunnelId with
    | none => s.leave c
    | some _ => s.goOn c (.removeService tunnelId serviceId)
  | .removeService tunnelId serviceId =>
    match s.objects[tunnelId]? with
    | none => s.leave c
    | some tunnel =>
      match tunnel.services[serviceId]? with
      | none => s.leave c
      | some service =>
        let removed : State :=
          { s with
            objects := s.objects.insert tunnelId
              { tunnel with services := tunnel.services.erase serviceId } }
        match service.assignedPort with
        | none => removed.leave c
        | some port => removed.goOn c (.removeByPort port)
  | .removeByPort port =>
    { s.goOn c (.removeRelease port) with servicesByPort := s.servicesByPort.erase port }
  | .removeRelease port =>
    if s.poolHeld then s
    else { s.leave c with portPool := s.portPool.release port }

/-- A service of a tunnel that goes away: its port is given back at once, since the call holds the
pool. -/
def visit (s : State) (c : Nat) (serviceId : Uuid) : State :=
  match s.calls[c]? with
  | some (.unregisterServices tunnelId due visited) =>
    match s.objects[tunnelId]? with
    | none => s
    | some tunnel =>
      match tunnel.services[serviceId]? with
      | none => s
      | some service =>
        if serviceId ∈ visited then s
        else
          let visiting := s.goOn c (.unregisterServices tunnelId due (serviceId :: visited))
          match service.assignedPort with
          | none => visiting
          | some port =>
            { visiting with
              servicesByPort := s.servicesByPort.erase port
              portPool := s.portPool.release port }
  | _ => s

def next (s : State) : Event → State
  | .call c request =>
    match s.calls[c]? with
    | none => s.goOn c request.start
    | some _ => s
  | .step c =>
    match s.calls[c]? with
    | none => s
    | some progress => s.access c progress
  | .visit c serviceId => s.visit c serviceId

end State

end Concurrent

end ZLayer.Tunnel
