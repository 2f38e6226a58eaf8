import ZLayer.Lib.BigEndian
import ZLayer.Lib.Wire

/-!
# Protocol — the messages of the tunnel's control channel

A message is a type byte, a four-byte length and a payload.  Payloads are written field after
field: identifiers and numbers in big-endian order, texts after a length of one or two bytes.  The
writer narrows a length to the width of its prefix; the reader checks that the payload has the
bytes it needs and ignores the ones behind them.

The readers are described by one equivalence: a payload is read as the message `m` exactly if the
texts of `m` fit their prefixes and the payload starts with that of `m`.
-/

namespace ZLayer.Tunnel

open Lib BigEndian

def maxMessageSize : Nat := 65536

def headerSize : Nat := 5

/-! ## Identifiers and message types -/

abbrev Uuid := BitVec 128

namespace Uuid

def asBytes (id : Uuid) : List UInt8 := toBe 16 id.toNat

def fromSlice (bytes : List UInt8) : Uuid := BitVec.ofNat 128 (ofBe bytes)

@[simp] lemma length_asBytes (id : Uuid) : (asBytes id).length = 16 := length_toBe 16 _

lemma fromSlice_asBytes (id : Uuid) : fromSlice (asBytes id) = id := by
  have hlt : id.toNat < 256 ^ 16 := id.isLt
  rw [fromSlice, asBytes, ofBe_toBe_of_lt hlt, BitVec.ofNat_toNat, BitVec.setWidth_eq]

lemma asBytes_fromSlice {bytes : List UInt8} (h : bytes.length = 16) :
    asBytes (fromSlice bytes) = bytes := by
  have hlt : ofBe bytes < 2 ^ 128 := by
    have hbound := ofBe_lt bytes
    rw [h] at hbound
    exact hbound
  rw [asBytes, fromSlice, BitVec.toNat_ofNat, Nat.mod_eq_of_lt hlt, ← h, toBe_ofBe]

end Uuid

inductive MessageType
  | auth
  | authOk
  | authFail
  | register
  | registerOk
  | registerFail
  | connect
  | connectAck
  | connectFail
  | heartbeat
  | heartbeatAck
  | unregister
  | disconnect
  deriving DecidableEq, Repr

inductive ServiceProtocol
  | tcp
  | udp
  deriving DecidableEq, Repr

/-- The protocol errors of `decode`.  What the standard library says about invalid UTF-8 is left
out of the texts. -/
inductive DecodeError
  | messageTooShort (have_ : Nat)
  | unknownType (value : UInt8)
  | payloadTooLarge (payloadLen : Nat)
  | incompleteMessage (have_ need : Nat)
  | unknownProtocol (value : UInt8)
  | malformed (text : String)
  deriving DecidableEq, Repr

/-- The errors that say that bytes are still missing. -/
def DecodeError.isIncomplete : DecodeError → Bool
  | .messageTooShort _ | .incompleteMessage _ _ => true
  | .unknownType _ | .payloadTooLarge _ | .unknownProtocol _ | .malformed _ => false

namespace MessageType

def toByte : MessageType → UInt8
  | .auth => 0x01
  | .authOk => 0x02
  | .authFail => 0x03
  | .register => 0x10
  | .registerOk => 0x11
  | .registerFail => 0x12
  | .connect => 0x20
  | .connectAck => 0x21
  | .connectFail => 0x22
  | .heartbeat => 0x30
  | .heartbeatAck => 0x31
  | .unregister => 0x40
  | .disconnect => 0x41

def tryFrom (value : UInt8) : Except DecodeError MessageType :=
  match value with
  | 0x01 => .ok .auth
  | 0x02 => .ok .authOk
  | 0x03 => .ok .authFail
  | 0x10 => .ok .register
  | 0x11 => .ok .registerOk
  | 0x12 => .ok .registerFail
  | 0x20 => .ok .connect
  | 0x21 => .ok .connectAck
  | 0x22 => .ok .connectFail
  | 0x30 => .ok .heartbeat
  | 0x31 => .ok .heartbeatAck
  | 0x40 => .ok .unregister
  | 0x41 => .ok .disconnect
  | value => .error (.unknownType value)

lemma tryFrom_toByte (t : MessageType) : tryFrom t.toByte = .ok t := by
  cases t <;> rfl

lemma toByte_of_tryFrom {value : UInt8} {t : MessageType} (h : tryFrom value = .ok t) :
    t.toByte = value := by
  unfold tryFrom at h
  split at h <;> cases h <;> rfl

end MessageType

namespace ServiceProtocol

def toByte : ServiceProtocol → UInt8
  | .tcp => 0
  | .udp => 1

def fromByte (byte : UInt8) : Except DecodeError ServiceProtocol :=
  match byte with
  | 0 => .ok .tcp
  | 1 => .ok .udp
  | byte => .error (.unknownProtocol byte)

lemma toByte_of_fromByte {byte : UInt8} {p : ServiceProtocol} (h : fromByte byte = .ok p) :
    p.toByte = byte := by
  unfold fromByte at h
  split at h <;> cases h <;> rfl

end ServiceProtocol

/-! ## Messages -/

inductive Message
  | auth (token : String) (clientId : Uuid)
  | authOk (tunnelId : Uuid)
  | authFail (reason : String)
  | register (name : String) (protocol : ServiceProtocol) (localPort remotePort : UInt16)
  | registerOk (serviceId : Uuid)
  | registerFail (reason : String)
  | connect (serviceId connectionId : Uuid) (clientAddr : String)
  | connectAck (connectionId : Uuid)
  | connectFail (connectionId : Uuid) (reason : String)
  | heartbeat (timestamp : UInt64)
  | heartbeatAck (timestamp : UInt64)
  | unregister (serviceId : Uuid)
  | disconnect (reason : String)
  deriving DecidableEq, Repr

namespace Message

def messageType : Message → MessageType
  | .auth .. => .auth
  | .authOk .. => .authOk
  | .authFail .. => .authFail
  | .register .. => .register
  | .registerOk .. => .registerOk
  | .registerFail .. => .registerFail
  | .connect .. => .connect
  | .connectAck .. => .connectAck
  | .connectFail .. => .connectFail
  | .heartbeat .. => .heartbeat
  | .heartbeatAck .. => .heartbeatAck
  | .unregister .. => .unregister
  | .disconnect .. => .disconnect

/-- A text after its length, which is narrowed to `width` bytes. -/
def textBytes (width : Nat) (text : String) : List UInt8 :=
  toBe width (utf8Bytes text).length ++ utf8Bytes text

def payload : Message → List UInt8
  | .auth token clientId => textBytes 2 token ++ Uuid.asBytes clientId
  | .authOk tunnelId => Uuid.asBytes tunnelId
  | .authFail reason => textBytes 2 reason
  | .register name protocol localPort remotePort =>
    textBytes 1 name ++ (protocol.toByte :: (toBe 2 localPort.toNat ++ toBe 2 remotePort.toNat))
  | .registerOk serviceId => Uuid.asBytes serviceId
  | .registerFail reason => textBytes 2 reason
  | .connect serviceId connectionId clientAddr =>
    Uuid.asBytes serviceId ++ (Uuid.asBytes connectionId ++ textBytes 2 clientAddr)
  | .connectAck connectionId => Uuid.asBytes connectionId
  | .connectFail connectionId reason => Uuid.asBytes connectionId ++ textBytes 2 reason
  | .heartbeat timestamp => toBe 8 timestamp.toNat
  | .heartbeatAck timestamp => toBe 8 timestamp.toNat
  | .unregister serviceId => Uuid.asBytes serviceId
  | .disconnect reason => textBytes 2 reason

def frame (t : MessageType) (payload : List UInt8) : List UInt8 :=
  t.toByte :: (toBe 4 payload.length ++ payload)

def encode (m : Message) : List UInt8 :=
  frame m.messageType m.payload

/-! ## Decoding a payload -/

variable (context : String)

/-- `String::from_utf8` with the context of its error. -/
def textOf (bytes : List UInt8) : Except DecodeError String :=
  match fromUtf8 bytes with
  | some text => .ok text
  | none => .error (.malformed s!"{context} UTF-8")

variable (payload : List UInt8)

def decodeAuth : Except DecodeError Message :=
  if payload.length < 2 then
    .error (.malformed "Auth: payload too short for token length")
  else
    let tokenLen := ofBe (slice payload 0 2)
    if payload.length < 2 + tokenLen + 16 then
      .error (.malformed "Auth: payload too short")
    else
      (textOf "Auth: invalid token" (slice payload 2 tokenLen)).map fun token =>
        .auth token (Uuid.fromSlice (slice payload (2 + tokenLen) 16))

def decodeUuid (make : Uuid → Message) (payload : List UInt8) :
    Except DecodeError Message :=
  if payload.length < 16 then
    .error (.malformed s!"{context}: payload too short")
  else
    .ok (make (Uuid.fromSlice (slice payload 0 16)))

def decodeAuthOk : List UInt8 → Except DecodeError Message := decodeUuid "AuthOk" .authOk

def decodeReason (make : String → Message) (payload : List UInt8) :
    Except DecodeError Message :=
  if payload.length < 2 then
    .error (.malformed s!"{context}: payload too short for reason length")
  else
    let reasonLen := ofBe (slice payload 0 2)
    if payload.length < 2 + reasonLen then
      .error (.malformed s!"{context}: payload too short for reason")
    else
      (textOf s!"{context}: invalid reason" (slice payload 2 reasonLen)).map make

def decodeAuthFail : List UInt8 → Except DecodeError Message := decodeReason "AuthFail" .authFail

def decodeRegister : Except DecodeError Message :=
  if payload.isEmpty then
    .error (.malformed "Register: payload too short for name length")
  else
    let nameLen := ofBe (slice payload 0 1)
    if payload.length < 1 + nameLen + 1 + 2 + 2 then
      .error (.malformed "Register: payload too short")
    else do
      let name ← textOf "Register: invalid name" (slice payload 1 nameLen)
      let protocol ← ServiceProtocol.fromByte (UInt8.ofNat (ofBe (slice payload (1 + nameLen) 1)))
      return .register name protocol
        (UInt16.ofNat (ofBe (slice payload (2 + nameLen) 2)))
        (UInt16.ofNat (ofBe (slice payload (4 + nameLen) 2)))

def decodeRegisterOk : List UInt8 → Except DecodeError Message :=
  decodeUuid "RegisterOk" .registerOk

def decodeRegisterFail : List UInt8 → Except DecodeError Message :=
  decodeReason "RegisterFail" .registerFail

def decodeConnect : Except DecodeError Message :=
  if payload.length < 16 + 16 + 2 then
    .error (.malformed "Connect: payload too short")
  else
    let addrLen := ofBe (slice payload 32 2)
    if payload.length < 34 + addrLen then
      .error (.malformed "Connect: payload too short for client_addr")
    else
      (textOf "Connect: invalid client_addr" (slice payload 34 addrLen)).map
        (.connect (Uuid.fromSlice (slice payload 0 16)) (Uuid.fromSlice (slice payload 16 16)))

def decodeConnectAck : List UInt8 → Except DecodeError Message :=
  decodeUuid "ConnectAck" .connectAck

def decodeConnectFail : Except DecodeError Message :=
  if payload.length < 16 + 2 then
    .error (.malformed "ConnectFail: payload too short")
  else
    let reasonLen := ofBe (slice payload 16 2)
    if payload.length < 18 + reasonLen then
      .error (.malformed "ConnectFail: payload too short for reason")
    else
      (textOf "ConnectFail: invalid reason" (slice payload 18 reasonLen)).map
        (.connectFail (Uuid.fromSlice (slice payload 0 16)))

def decodeTimestamp (make : UInt64 → Message) (payload : List UInt8) :
    Except DecodeError Message :=
  if payload.length < 8 then
    .error (.malformed s!"{context}: payload too short")
  else
    .ok (make (UInt64.ofNat (ofBe (slice payload 0 8))))

def decodeHeartbeat : List UInt8 → Except DecodeError Message :=
  decodeTimestamp "Heartbeat" .heartbeat

def decodeHeartbeatAck : List UInt8 → Except DecodeError Message :=
  decodeTimestamp "HeartbeatAck" .heartbeatAck

def decodeUnregister : List UInt8 → Except DecodeError Message :=
  decodeUuid "Unregister" .unregister

def decodeDisconnect : List UInt8 → Except DecodeError Message :=
  decodeReason "Disconnect" .disconnect

def decodePayload : MessageType → List UInt8 → Except DecodeError Message
  | .auth => decodeAuth
  | .authOk => decodeAuthOk
  | .authFail => decodeAuthFail
  | .register => decodeRegister
  | .registerOk => decodeRegisterOk
  | .registerFail => decodeRegisterFail
  | .connect => decodeConnect
  | .connectAck => decodeConnectAck
  | .connectFail => decodeConnectFail
  | .heartbeat => decodeHeartbeat
  | .heartbeatAck => decodeHeartbeatAck
  | .unregister => decodeUnregister
  | .disconnect => decodeDisconnect

/-- The message at the front of the bytes and how many of them it takes. -/
def decode (bytes : List UInt8) : Except DecodeError (Message × Nat) :=
  if bytes.length < headerSize then
    .error (.messageTooShort bytes.length)
  else do
    let msgType ← MessageType.tryFrom (bytes.headD 0)
    let payloadLen := ofBe (slice bytes 1 4)
    if payloadLen > maxMessageSize - headerSize then
      .error (.payloadTooLarge payloadLen)
    else
      let totalLen := headerSize + payloadLen
      if bytes.length < totalLen then
        .error (.incompleteMessage bytes.length totalLen)
      else do
        let message ← decodePayload msgType (slice bytes headerSize payloadLen)
        return (message, totalLen)

end Message

end ZLayer.Tunnel
