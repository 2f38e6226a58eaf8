import ZLayer.Lib.BigEndian
import ZLayer.Lib.Machine
import ZLayer.Overlay.IpText

/-!
# Relay — the server that relays datagrams for clients behind a NAT

A client asks for an allocation and gets a relay socket of its own.  What the client sends as data
leaves through that socket, and what peers send to the socket is passed to the client, in both
directions only for peers the client has named.  Control messages end with a tag that only a holder
of the shared secret can make; data messages have none.

The handlers run one after another in the receive loop.  Each allocation has a task beside the loop
that reads from the relay socket and looks at the table before it passes anything on.
-/

namespace ZLayer.Overlay

open Lib BigEndian

namespace SocketAddr

def key (addr : SocketAddr) : Nat × Nat × Nat :=
  match addr.ip with
  | .v4 ip => (4, ip.toNat, addr.port.toNat)
  | .v6 ip => (6, ip.toNat, addr.port.toNat)

lemma key_injective : Function.Injective key := by
  rintro ⟨ip, port⟩ ⟨ip', port'⟩ h
  cases ip with
  | v4 ip | v6 ip =>
    cases ip' with
    | v4 ip' | v6 ip' => simp_all [key, BitVec.toNat_inj, UInt16.toNat_inj]

instance : Ord SocketAddr := ⟨compareOn key⟩

instance : Std.TransOrd SocketAddr := inferInstanceAs (Std.TransCmp (compareOn key))

instance : Std.LawfulEqOrd SocketAddr where
  eq_of_compare h := key_injective (Std.LawfulEqOrd.eq_of_compare h)

end SocketAddr

namespace Relay

/-! ## Messages -/

inductive MsgType
  | allocateReq
  | allocateResp
  | allocateErr
  | permissionReq
  | permissionResp
  | refreshReq
  | refreshResp
  | deallocate
  | data
  deriving DecidableEq

namespace MsgType

def toByte : MsgType → UInt8
  | .allocateReq => 0x01
  | .allocateResp => 0x02
  | .allocateErr => 0x03
  | .permissionReq => 0x04
  | .permissionResp => 0x05
  | .refreshReq => 0x06
  | .refreshResp => 0x07
  | .deallocate => 0x08
  | .data => 0x80

def fromByte (b : UInt8) : Option MsgType :=
  if b = 0x01 then some .allocateReq
  else if b = 0x02 then some .allocateResp
  else if b = 0x03 then some .allocateErr
  else if b = 0x04 then some .permissionReq
  else if b = 0x05 then some .permissionResp
  else if b = 0x06 then some .refreshReq
  else if b = 0x07 then some .refreshResp
  else if b = 0x08 then some .deallocate
  else if b = 0x80 then some .data
  else none

end MsgType

def authTagLen : Nat := 32

def headerLen : Nat := 3

def peerAddrV4TaggedLen : Nat := 7

def peerAddrV6TaggedLen : Nat := 19

def encodeAddr (addr : SocketAddr) : List UInt8 :=
  match addr.ip with
  | .v4 ip => 0x01 :: toBe 4 ip.toNat ++ toBe 2 addr.port.toNat
  | .v6 ip => 0x02 :: toBe 16 ip.toNat ++ toBe 2 addr.port.toNat

/-- The address at the beginning of `buf` and the bytes it takes. -/
def decodeAddr (buf : List UInt8) : Option (SocketAddr × Nat) :=
  match buf with
  | [] => none
  | family :: _ =>
    if family = 0x01 then
      if buf.length < peerAddrV4TaggedLen then none
      else
        some (⟨.v4 (BitVec.ofNat 32 (ofBe (slice buf 1 4))), UInt16.ofNat (ofBe (slice buf 5 2))⟩,
          peerAddrV4TaggedLen)
    else if family = 0x02 then
      if buf.length < peerAddrV6TaggedLen then none
      else
        some
          (⟨.v6 (BitVec.ofNat 128 (ofBe (slice buf 1 16))), UInt16.ofNat (ofBe (slice buf 17 2))⟩,
            peerAddrV6TaggedLen)
    else none

section Messages

-- The BLAKE2b-256 tag of a message under the key of the server.
variable (computeAuthTag : List UInt8 → List UInt8)

def verifyAuthTag (data tag : List UInt8) : Bool := computeAuthTag data = tag

def buildControlMsg (msgType : MsgType) (payload : List UInt8) : List UInt8 :=
  let buf := msgType.toByte :: toBe 2 payload.length ++ payload
  buf ++ computeAuthTag buf

/-- The type and the payload of a control message whose tag is right. -/
def parseAndVerifyControl (buf : List UInt8) : Option (MsgType × List UInt8) :=
  if buf.length < headerLen then none
  else
    match MsgType.fromByte (buf.headD 0) with
    | none => none
    | some msgType =>
      if msgType = .data then none
      else
        let payloadLen := ofBe (slice buf 1 2)
        let msgEnd := headerLen + payloadLen
        if buf.length < msgEnd + authTagLen then none
        else if verifyAuthTag computeAuthTag (buf.take msgEnd) (slice buf msgEnd authTagLen) then
          some (msgType, slice buf headerLen payloadLen)
        else none

end Messages

def buildDataMsgTagged (peerAddr : SocketAddr) (data : List UInt8) : List UInt8 :=
  let encoded := encodeAddr peerAddr
  MsgType.data.toByte :: toBe 2 (encoded.length + data.length) ++ encoded ++ data

/-- The payload of a control message includes the tag. -/
def parseMsg (buf : List UInt8) : Option (MsgType × List UInt8) :=
  if buf.length < headerLen then none
  else
    match MsgType.fromByte (buf.headD 0) with
    | none => none
    | some msgType =>
      let payloadLen := ofBe (slice buf 1 2)
      let expected := if msgType = .data then payloadLen else payloadLen + authTagLen
      if buf.length < headerLen + expected then none
      else some (msgType, slice buf headerLen expected)

def parseDataPayloadTagged (payload : List UInt8) : Option (SocketAddr × List UInt8) :=
  (decodeAddr payload).map fun (addr, consumed) => (addr, payload.drop consumed)

def parseData (packet : List UInt8) : Option (SocketAddr × List UInt8) :=
  match parseMsg packet with
  | some (.data, payload) => parseDataPayloadTagged payload
  | _ => none

/-! ## Allocations -/

abbrev AllocationId := BitVec 128

def allocationIdOf (bytes : List UInt8) : AllocationId := BitVec.ofNat 128 (ofBe bytes)

def defaultLifetimeSecs : UInt32 := 600

/-- What the task of an allocation was started with. -/
structure RelayTask where
  allocIdCopy : AllocationId
  clientAddr : SocketAddr
  running : Bool
  deriving DecidableEq

/-- An instant is a number of nanoseconds. -/
structure Allocation where
  clientAddr : SocketAddr
  allocationId : AllocationId
  relayAddr : SocketAddr
  permissions : List IpAddr
  lifetimeSecs : UInt32
  refreshedAt : Nat
  relayHandle : RelayTask
  deriving DecidableEq

structure Config where
  externalAddr : SocketAddr
  maxSessions : Nat

structure State where
  allocations : HashMap AllocationId Allocation
  clientLookup : HashMap SocketAddr AllocationId

def State.new : State :=
  { allocations := ∅
    clientLookup := ∅ }

/-- The outcome of binding the relay socket and of asking for its address. -/
inductive RelaySocket
  | bindFailed
  | noLocalAddr
  | bound (port : UInt16)

/-- What a handler reads beside the packet: the clock, random bytes and the new socket. -/
structure Ambient where
  now : Nat
  allocationId : AllocationId
  relaySocket : RelaySocket

inductive Event
  /-- A datagram arrives at the server's socket. -/
  | datagram (source : SocketAddr) (packet : List UInt8) (ambient : Ambient)
  /-- A datagram arrives at the relay socket of an allocation. -/
  | peer (id : AllocationId) (peerFrom : SocketAddr) (data : List UInt8) (now : Nat)
  /-- The task of an allocation fails to read from the relay socket. -/
  | peerError (id : AllocationId)

/-- What the server sends: from its own socket an answer or a peer's data, from the relay socket of
an allocation the data of a client. -/
inductive Output
  | answer (client : SocketAddr) (message : List UInt8)
  | toClient (id : AllocationId) (client : SocketAddr) (message : List UInt8)
  | toPeer (id : AllocationId) (peerAddr : SocketAddr) (data : List UInt8)
  deriving DecidableEq

/-! ## Handlers -/

section Handlers

variable (computeAuthTag : List UInt8 → List UInt8) (config : Config)

/-- The texts of an `AllocateErr`. -/
def maxSessionsReached : List UInt8 := "max sessions reached".toUTF8.toList

def allocationAlreadyExists : List UInt8 := "allocation already exists".toUTF8.toList

def relayBindFailed : List UInt8 := "relay bind failed".toUTF8.toList

def allocateErr (client : SocketAddr) (text : List UInt8) : Output :=
  .answer client (buildControlMsg computeAuthTag .allocateErr text)

def newAllocation (source : SocketAddr) (id : AllocationId) (port : UInt16) (now : Nat) :
    Allocation :=
  { clientAddr := source
    allocationId := id
    relayAddr := ⟨config.externalAddr.ip, port⟩
    permissions := []
    lifetimeSecs := defaultLifetimeSecs
    refreshedAt := now
    relayHandle :=
      { allocIdCopy := id
        clientAddr := source
        running := true } }

def allocateResp (allocation : Allocation) : List UInt8 :=
  encodeAddr allocation.relayAddr ++ toBe 16 allocation.allocationId.toNat ++
    toBe 4 defaultLifetimeSecs.toNat

def handleAllocateReq (s : State) (source : SocketAddr) (packet : List UInt8)
    (ambient : Ambient) : State × Option Output :=
  match parseAndVerifyControl computeAuthTag packet with
  | none => (s, none)
  | some _ =>
    if s.allocations.size ≥ config.maxSessions then
      (s, some (allocateErr computeAuthTag source maxSessionsReached))
    else if source ∈ s.clientLookup then
      (s, some (allocateErr computeAuthTag source allocationAlreadyExists))
    else
      match ambient.relaySocket with
      | .bindFailed => (s, some (allocateErr computeAuthTag source relayBindFailed))
      | .noLocalAddr => (s, none)
      | .bound port =>
        let allocation := newAllocation config source ambient.allocationId port ambient.now
        ({ allocations := s.allocations.insert ambient.allocationId allocation
           clientLookup := s.clientLookup.insert source ambient.allocationId },
          some (.answer source
            (buildControlMsg computeAuthTag .allocateResp (allocateResp allocation))))

/-- A permission is for every port of the address. -/
def handlePermissionReq (s : State) (source : SocketAddr) (packet : List UInt8) :
    State × Option Output :=
  match parseAndVerifyControl computeAuthTag packet with
  | none => (s, none)
  | some (_, payload) =>
    if payload.length < 16 + peerAddrV4TaggedLen then (s, none)
    else
      let allocId := allocationIdOf (payload.take 16)
      match decodeAddr (payload.drop 16) with
      | none => (s, none)
      | some (peerAddr, _) =>
        match s.allocations[allocId]? with
        | none => (s, none)
        | some alloc =>
          if alloc.clientAddr ≠ source then (s, none)
          else
            let permissions :=
              if peerAddr.ip ∈ alloc.permissions then alloc.permissions
              else alloc.permissions ++ [peerAddr.ip]
            ({ s with allocations := s.allocations.insert allocId { alloc with permissions } },
              some (.answer source (buildControlMsg computeAuthTag .permissionResp [])))

/-- A request of the client of an allocation, which the payload names first. -/
def ofOwner (s : State) (source : SocketAddr) (packet : List UInt8) (length : Nat)
    (next : AllocationId → Allocation → List UInt8 → State × Option Output) :
    State × Option Output :=
  match parseAndVerifyControl computeAuthTag packet with
  | none => (s, none)
  | some (_, payload) =>
    if payload.length < length then (s, none)
    else
      let allocId := allocationIdOf (payload.take 16)
      match s.allocations[allocId]? with
      | none => (s, none)
      | some alloc =>
        if alloc.clientAddr ≠ source then (s, none)
        else next allocId alloc payload

def handleRefreshReq (s : State) (source : SocketAddr) (packet : List UInt8)
    (ambient : Ambient) : State × Option Output :=
  ofOwner computeAuthTag s source packet (16 + 4) fun allocId alloc payload =>
    let lifetime := UInt32.ofNat (ofBe (slice payload 16 4))
    let refreshed :=
      { alloc with
        lifetimeSecs := lifetime
        refreshedAt := ambient.now }
    ({ s with allocations := s.allocations.insert allocId refreshed },
      some (.answer source
        (buildControlMsg computeAuthTag .refreshResp (toBe 4 lifetime.toNat))))

/-- The task of the allocation is aborted; no answer is sent. -/
def handleDeallocate (s : State) (source : SocketAddr) (packet : List UInt8) :
    State × Option Output :=
  ofOwner computeAuthTag s source packet 16 fun allocId _ _ =>
    ({ allocations := s.allocations.erase allocId
       clientLookup := s.clientLookup.erase source }, none)

def handleData (s : State) (source : SocketAddr) (packet : List UInt8) : State × Option Output :=
  match s.clientLookup[source]? with
  | none => (s, none)
  | some allocId =>
    match parseData packet with
    | none => (s, none)
    | some (peerAddr, rawData) =>
      match s.allocations[allocId]? with
      | none => (s, none)
      | some alloc =>
        if peerAddr.ip ∈ alloc.permissions then (s, some (.toPeer allocId peerAddr rawData))
        else (s, none)

/-- What the task of an allocation does with a datagram. -/
def forwardPeer (s : State) (id : AllocationId) (task : RelayTask) (peerFrom : SocketAddr)
    (data : List UInt8) : State × Option Output :=
  if !task.running then (s, none)
  else
    match s.allocations[task.allocIdCopy]? with
    | none => (s, none)
    | some alloc =>
      if peerFrom.ip ∈ alloc.permissions then
        (s, some (.toClient id task.clientAddr (buildDataMsgTagged peerFrom data)))
      else (s, none)

/-- The receive loop with a datagram, or the task of an allocation. -/
def step (s : State) : Event → State × Option Output
  | .datagram source packet ambient =>
    match packet.head?.bind MsgType.fromByte with
    | some .allocateReq => handleAllocateReq computeAuthTag config s source packet ambient
    | some .permissionReq => handlePermissionReq computeAuthTag s source packet
    | some .refreshReq => handleRefreshReq computeAuthTag s source packet ambient
    | some .deallocate => handleDeallocate computeAuthTag s source packet
    | some .data => handleData s source packet
    | _ => (s, none)
  | .peer id peerFrom data _ =>
    match s.allocations[id]? with
    | none => (s, none)
    | some alloc => forwardPeer s id alloc.relayHandle peerFrom data
  | .peerError id =>
    match s.allocations[id]? with
    | none => (s, none)
    | some alloc =>
      let stopped := { alloc with relayHandle := { alloc.relayHandle with running := false } }
      ({ s with allocations := s.allocations.insert id stopped }, none)

def next (s : State) (event : Event) : State := (step computeAuthTag config s event).1

end Handlers

end Relay
end ZLayer.Overlay
