import ZLayer.Overlay.RelayLifetime

/-!
# RelayRoundTrip — what is built is what is parsed

A length field says where the payload of a message ends, and the family byte of an address where the
address ends, so a parser finds the fields a builder wrote.  Two things do not come back.  A control
message of the type of data messages is refused.  An IPv6 address loses its flow information and its
scope, which are not written.
-/

namespace ZLayer.Overlay
namespace Relay

open Lib BigEndian

/-- A socket address with all it holds. -/
inductive FullAddr
  | v4 (ip : BitVec 32) (port : UInt16)
  | v6 (ip : BitVec 128) (port : UInt16) (flowinfo scopeId : UInt32)
  deriving DecidableEq

namespace FullAddr

/-- What `encode_addr` reads. -/
def addr : FullAddr → SocketAddr
  | .v4 ip port => ⟨.v4 ip, port⟩
  | .v6 ip port _ _ => ⟨.v6 ip, port⟩

/-- `SocketAddr::new` of an address and a port. -/
def new (addr : SocketAddr) : FullAddr :=
  match addr.ip with
  | .v4 ip => .v4 ip addr.port
  | .v6 ip => .v6 ip addr.port 0 0

/-- An IPv4 address, or an IPv6 address without flow information and scope. -/
def Plain : FullAddr → Prop
  | .v4 _ _ => True
  | .v6 _ _ flowinfo scopeId => flowinfo = 0 ∧ scopeId = 0

lemma new_addr_iff (peer : FullAddr) : new peer.addr = peer ↔ peer.Plain := by
  cases peer with
  | v4 ip port => exact iff_of_true rfl trivial
  | v6 ip port flowinfo scopeId => simp [new, addr, Plain, eq_comm]

end FullAddr

/-- The address and the data of a data message, as the caller gets them. -/
def parseFull (packet : List UInt8) : Option (FullAddr × List UInt8) :=
  (parseData packet).map fun (addr, data) => (.new addr, data)

/-! ## The fields of a message -/

section Fields

variable (payload : List UInt8) (b : UInt8) (tail : List UInt8)

lemma length_field (hlen : payload.length ≤ 65535) :
    ofBe (slice (b :: toBe 2 payload.length ++ payload ++ tail) 1 2) = payload.length := by
  have hslice : slice ([b] ++ (toBe 2 payload.length ++ (payload ++ tail))) 1 2 =
      toBe 2 payload.length := slice_append (payload ++ tail) rfl (length_toBe 2 _)
  rw [List.append_assoc]
  exact (congrArg ofBe hslice).trans (ofBe_toBe_of_lt (Nat.lt_succ_of_le hlen))

lemma payload_field :
    slice (b :: toBe 2 payload.length ++ payload ++ tail) headerLen payload.length = payload := by
  rw [List.append_assoc]
  exact slice_append tail (by simp [headerLen]) rfl

end Fields

lemma MsgType.fromByte_toByte (msgType : MsgType) :
    MsgType.fromByte msgType.toByte = some msgType := by
  cases msgType <;> rfl

lemma parseAndVerifyControl_build {computeAuthTag : List UInt8 → List UInt8}
    (htag : ∀ message, (computeAuthTag message).length = authTagLen) {msgType : MsgType}
    (htype : msgType ≠ .data) {payload : List UInt8} (hlen : payload.length ≤ 65535) :
    parseAndVerifyControl computeAuthTag (buildControlMsg computeAuthTag msgType payload) =
      some (msgType, payload) := by
  unfold buildControlMsg
  -- the message without its tag
  set signed := msgType.toByte :: toBe 2 payload.length ++ payload with hsigned
  have hend : signed.length = headerLen + payload.length := by
    simp [hsigned, headerLen]
    omega
  have htotal : (signed ++ computeAuthTag signed).length =
      headerLen + payload.length + authTagLen := by rw [List.length_append, hend, htag]
  have hfirst : (signed ++ computeAuthTag signed).headD 0 = msgType.toByte := rfl
  have hlength : ofBe (slice (signed ++ computeAuthTag signed) 1 2) = payload.length :=
    length_field _ _ _ hlen
  have hpayload : slice (signed ++ computeAuthTag signed) headerLen payload.length = payload :=
    payload_field _ _ _
  have htail : slice (signed ++ computeAuthTag signed) (headerLen + payload.length) authTagLen =
      computeAuthTag signed := by
    have hslice := slice_append [] hend (htag signed)
    rwa [List.append_nil] at hslice
  unfold parseAndVerifyControl
  dsimp only
  rw [if_neg (by omega), hfirst, MsgType.fromByte_toByte]
  simp only [if_neg htype, hlength, htotal, lt_irrefl, if_false, htail, List.take_left' hend,
    verifyAuthTag, decide_true, if_true, hpayload]

/-- The address and the port behind the family byte, for either width of the address. -/
lemma addr_fields (family : UInt8) (k ip port : Nat) (data : List UInt8) :
    slice (family :: (toBe k ip ++ (toBe 2 port ++ data))) 1 k = toBe k ip ∧
      slice (family :: (toBe k ip ++ (toBe 2 port ++ data))) (k + 1) 2 = toBe 2 port := by
  constructor
  · rw [← List.singleton_append]
    exact slice_append (toBe 2 port ++ data) rfl (length_toBe k ip)
  · rw [← List.cons_append]
    exact slice_append data (by simp) (length_toBe 2 port)

lemma decodeAddr_encodeAddr (addr : SocketAddr) (data : List UInt8) :
    decodeAddr (encodeAddr addr ++ data) = some (addr, (encodeAddr addr).length) := by
  rcases addr with ⟨ip, port⟩
  have hport : UInt16.ofNat (ofBe (toBe 2 port.toNat)) = port := by
    rw [ofBe_toBe_of_lt port.toNat_lt, UInt16.ofNat_toNat]
  cases ip with
  | v4 ip =>
    have hip : BitVec.ofNat 32 (ofBe (toBe 4 ip.toNat)) = ip := by
      rw [ofBe_toBe_of_lt ip.isLt, BitVec.ofNat_toNat, BitVec.setWidth_eq]
    have hroom : 6 ≤ 4 + (2 + data.length) := by omega
    rcases addr_fields 1 4 ip.toNat port.toNat data with ⟨hipField, hportField⟩
    simp [decodeAddr, encodeAddr, peerAddrV4TaggedLen, hroom, hipField, hip, hportField, hport]
  | v6 ip =>
    have hip : BitVec.ofNat 128 (ofBe (toBe 16 ip.toNat)) = ip := by
      rw [ofBe_toBe_of_lt ip.isLt, BitVec.ofNat_toNat, BitVec.setWidth_eq]
    have hroom : 18 ≤ 16 + (2 + data.length) := by omega
    rcases addr_fields 2 16 ip.toNat port.toNat data with ⟨hipField, hportField⟩
    simp [decodeAddr, encodeAddr, peerAddrV6TaggedLen, hroom, hipField, hip, hportField, hport]

lemma parseMsg_data {payload : List UInt8} (hlen : payload.length ≤ 65535) :
    parseMsg (MsgType.data.toByte :: toBe 2 payload.length ++ payload) = some (.data, payload) := by
  have hlength := length_field payload MsgType.data.toByte [] hlen
  have hpayload := payload_field payload MsgType.data.toByte []
  rw [List.append_nil] at hlength hpayload
  have htotal : (MsgType.data.toByte :: toBe 2 payload.length ++ payload).length =
      headerLen + payload.length := by
    simp [headerLen]
    omega
  unfold parseMsg
  rw [if_neg (by omega)]
  simp only [List.cons_append, List.headD_cons, MsgType.fromByte_toByte, if_true] at *
  simp only [hlength, htotal, lt_irrefl, if_false, hpayload]

lemma parseData_build (addr : SocketAddr) {data : List UInt8}
    (hlen : (encodeAddr addr).length + data.length ≤ 65535) :
    parseData (buildDataMsgTagged addr data) = some (addr, data) := by
  rw [← List.length_append] at hlen
  have hmsg : parseMsg (buildDataMsgTagged addr data) = some (.data, encodeAddr addr ++ data) := by
    simpa [buildDataMsgTagged] using parseMsg_data hlen
  simp [parseData, hmsg, parseDataPayloadTagged, decodeAddr_encodeAddr]

/-! ## Round trip -/

/-- Control messages of every type but that of data messages come back, data messages come back
exactly with plain addresses, and no datagram is both. -/
theorem messages_round_trip {computeAuthTag : List UInt8 → List UInt8}
    (htag : ∀ message, (computeAuthTag message).length = authTagLen) :
    (∀ msgType ≠ .data, ∀ payload : List UInt8, payload.length ≤ 65535 →
      parseAndVerifyControl computeAuthTag (buildControlMsg computeAuthTag msgType payload) =
        some (msgType, payload)) ∧
    (∀ (peer : FullAddr) (data : List UInt8),
      (encodeAddr peer.addr).length + data.length ≤ 65535 →
      (parseFull (buildDataMsgTagged peer.addr data) = some (peer, data) ↔ peer.Plain)) ∧
    ∀ datagram, parseAndVerifyControl computeAuthTag datagram = none ∨
      parseFull datagram = none := by
  refine ⟨fun msgType htype payload hlen => parseAndVerifyControl_build htag htype hlen, ?_, ?_⟩
  · intro peer data hlen
    simp [parseFull, parseData_build peer.addr hlen, FullAddr.new_addr_iff]
  · intro datagram
    cases hfull : parseFull datagram with
    | none => exact .inr rfl
    | some message =>
      rcases Option.map_eq_some_iff.mp hfull with ⟨_, hdata, -⟩
      -- the first byte is that of a data message, which the control parser refuses
      have hhead := parseData_head hdata
      cases datagram with
      | nil => cases hhead
      | cons b rest =>
        have hbyte : MsgType.fromByte b = some .data := hhead
        exact .inl (by simp [parseAndVerifyControl, hbyte])

def zeroTag (_ : List UInt8) : List UInt8 := List.replicate authTagLen 0

theorem messages_round_trip_zeroTag :
    parseAndVerifyControl zeroTag (buildControlMsg zeroTag .deallocate [7]) =
      some (.deallocate, [7]) :=
  (messages_round_trip fun _ => List.length_replicate).1 .deallocate (by decide) [7] (by decide)

/-- A control message of the type of data messages is refused, and a scope is lost. -/
theorem data_type_and_scope_lost :
    parseAndVerifyControl zeroTag (buildControlMsg zeroTag .data []) = none ∧
      parseFull (buildDataMsgTagged (FullAddr.v6 1 80 0 3).addr [9]) =
        some (.v6 1 80 0 0, [9]) := by
  decide

end Relay
end ZLayer.Overlay
