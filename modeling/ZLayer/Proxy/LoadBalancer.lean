import Mathlib.Data.List.MinMax
import ZLayer.Overlay.IpText

/-!
# LoadBalancer — which backend of a service a request goes to

One group of backends for each key, with a strategy.  Round robin starts at the group's counter and
takes the first healthy backend; least connections takes the healthy backend with the fewest.
-/

namespace ZLayer.Proxy

open Lib
open Overlay (SocketAddr)

inductive LbStrategy
  | roundRobin
  | leastConnections
  deriving DecidableEq

inductive HealthStatus
  | healthy
  | unhealthy
  deriving DecidableEq

structure Backend where
  addr : SocketAddr
  activeConnections : UInt64
  health : HealthStatus
  consecutiveFailures : UInt64
  deriving DecidableEq

def Backend.new (addr : SocketAddr) : Backend := ⟨addr, 0, .healthy, 0⟩

def Backend.isHealthy (backend : Backend) : Bool := backend.health = .healthy

structure BackendGroup where
  backends : List Backend
  strategy : LbStrategy
  /-- The position the next round-robin selection starts from. -/
  rrCounter : UInt64
  deriving DecidableEq

namespace BackendGroup

def new (strategy : LbStrategy) : BackendGroup := ⟨[], strategy, 0⟩

variable (g : BackendGroup) (addr : SocketAddr)

/-- The first healthy backend from the counter's position on, around the list. -/
def selectRoundRobin : Option Backend × BackendGroup :=
  let start := g.rrCounter.toNat % g.backends.length
  ((g.backends.drop start ++ g.backends.take start).find? Backend.isHealthy,
    { g with rrCounter := g.rrCounter + 1 })

/-- The first of the healthy backends with the fewest connections. -/
def selectLeastConnections : Option Backend :=
  (g.backends.filter Backend.isHealthy).argmin fun backend =>
    backend.activeConnections.toNat

def select : Option Backend × BackendGroup :=
  if g.backends.isEmpty then (none, g)
  else
    match g.strategy with
    | .roundRobin => g.selectRoundRobin
    | .leastConnections => (g.selectLeastConnections, g)

/-- Backends that stay keep what is known about them. -/
def updateBackends (addrs : List SocketAddr) : BackendGroup :=
  { g with
    backends := addrs.map fun addr =>
      (g.backends.find? fun backend => backend.addr == addr).getD (Backend.new addr) }

def addBackend : BackendGroup :=
  if g.backends.any fun backend => backend.addr == addr then g
  else { g with backends := g.backends ++ [Backend.new addr] }

def removeBackend : BackendGroup :=
  { g with backends := g.backends.filter fun backend => backend.addr != addr }

/-- The first backend with the address is marked. -/
def markHealth (healthy : Bool) : BackendGroup :=
  let mark (backend : Backend) : Backend :=
    if healthy then { backend with health := .healthy, consecutiveFailures := 0 }
    else
      { backend with
        health := .unhealthy
        consecutiveFailures := backend.consecutiveFailures + 1 }
  { g with
    backends := g.backends.modify (g.backends.findIdx fun backend => backend.addr == addr) mark }

end BackendGroup

structure LoadBalancer where
  groups : HashMap String BackendGroup
  deriving DecidableEq

namespace LoadBalancer

def new : LoadBalancer := ⟨∅⟩

variable (lb : LoadBalancer) (service : String) (addr : SocketAddr)

def register (addrs : List SocketAddr) (strategy : LbStrategy) : LoadBalancer :=
  ⟨lb.groups.insert service
    { BackendGroup.new strategy with backends := addrs.map Backend.new }⟩

def select : Option Backend × LoadBalancer :=
  match lb.groups[service]? with
  | some group => (group.select.1, ⟨lb.groups.insert service group.select.2⟩)
  | none => (none, lb)

def unregister : LoadBalancer :=
  ⟨lb.groups.erase service⟩

def updateBackends (addrs : List SocketAddr) : LoadBalancer :=
  ⟨lb.groups.modify service (·.updateBackends addrs)⟩

def addBackend : LoadBalancer :=
  ⟨lb.groups.modify service (·.addBackend addr)⟩

def removeBackend : LoadBalancer :=
  ⟨lb.groups.modify service (·.removeBackend addr)⟩

def markHealth (healthy : Bool) : LoadBalancer :=
  ⟨lb.groups.modify service (·.markHealth addr healthy)⟩

end LoadBalancer

end ZLayer.Proxy
