import ZLayer.Lib.Result
import ZLayer.Tunnel.Protocol

/-!
# PayloadLayout — which payloads are read as which message

`decodePayload_eq_ok_iff`: a payload is read as `m` exactly if it starts with the payload of `m`
and the texts of `m` fit their length prefixes.  It is proved layout by layout; a text field is
handled once, for any offset and any width of the prefix.
-/

namespace ZLayer.Tunnel
namespace Message

open Lib BigEndian

/-- The texts of the message fit their length prefixes. -/
def Fits : Message → Prop
  | .auth token _ => (utf8Bytes token).length < 256 ^ 2
  | .authFail reason => (utf8Bytes reason).length < 256 ^ 2
  | .register name _ _ _ => (utf8Bytes name).length < 256 ^ 1
  | .registerFail reason => (utf8Bytes reason).length < 256 ^ 2
  | .connect _ _ clientAddr => (utf8Bytes clientAddr).length < 256 ^ 2
  | .connectFail _ reason => (utf8Bytes reason).length < 256 ^ 2
  | .disconnect reason => (utf8Bytes reason).length < 256 ^ 2
  | .authOk _ | .registerOk _ | .connectAck _ | .heartbeat _ | .heartbeatAck _
  | .unregister _ => True

instance (m : Message) : Decidable m.Fits := by
  cases m <;> unfold Fits <;> infer_instance

/-! ## Fields

Each says when a payload has the bytes of a field at some offset. -/

variable {p : List UInt8} {m : Message} {offset width : Nat}

lemma uuid_field {id : Uuid} : Uuid.asBytes id <+: p.drop offset ↔
      offset + 16 ≤ p.length ∧ Uuid.fromSlice (slice p offset 16) = id := by
  rw [isPrefix_drop_iff (Uuid.length_asBytes id) (.inl (by decide))]
  refine and_congr_right fun hlong => ⟨fun h => ?_, ?_⟩
  · rw [h, Uuid.fromSlice_asBytes]
  · rintro rfl
    exact (Uuid.asBytes_fromSlice (length_slice hlong)).symm

lemma number_field {n : Nat} (hwidth : 0 < width) (hn : n < 256 ^ width) :
    toBe width n <+: p.drop offset ↔
      offset + width ≤ p.length ∧ ofBe (slice p offset width) = n := by
  rw [isPrefix_drop_iff (length_toBe width n) (.inl hwidth)]
  refine and_congr_right fun hlong => ⟨fun h => ?_, ?_⟩
  · rw [h, ofBe_toBe_of_lt hn]
  · rintro rfl
    exact (toBe_ofBe_slice hlong).symm

lemma u16_field {port : UInt16} : toBe 2 port.toNat <+: p.drop offset ↔
      offset + 2 ≤ p.length ∧ UInt16.ofNat (ofBe (slice p offset 2)) = port := by
  rw [number_field (by decide) port.toNat_lt]
  refine and_congr_right fun hlong => ?_
  have hlt := ofBe_lt (slice p offset 2)
  rw [length_slice hlong] at hlt
  rw [← UInt16.toNat_inj, UInt16.toNat_ofNat_of_lt' hlt]

lemma u64_field {timestamp : UInt64} : toBe 8 timestamp.toNat <+: p.drop offset ↔
      offset + 8 ≤ p.length ∧ UInt64.ofNat (ofBe (slice p offset 8)) = timestamp := by
  rw [number_field (by decide) timestamp.toNat_lt]
  refine and_congr_right fun hlong => ?_
  have hlt := ofBe_lt (slice p offset 8)
  rw [length_slice hlong] at hlt
  rw [← UInt64.toNat_inj, UInt64.toNat_ofNat_of_lt' hlt]

lemma protocol_field {protocol : ServiceProtocol} :
    [protocol.toByte] <+: p.drop offset ↔ offset + 1 ≤ p.length ∧
      ServiceProtocol.fromByte (UInt8.ofNat (ofBe (slice p offset 1))) = .ok protocol := by
  rw [isPrefix_drop_iff List.length_singleton (.inl (by decide))]
  refine and_congr_right fun hlong => ⟨fun h => ?_, fun h => ?_⟩
  · rw [h]
    cases protocol <;> rfl
  · have hback := toBe_ofBe_slice hlong
    rw [ServiceProtocol.toByte_of_fromByte h]
    simpa [toBe] using hback.symm

@[simp] lemma length_textBytes (width : Nat) (text : String) :
    (textBytes width text).length = width + (utf8Bytes text).length := by
  simp [textBytes]

lemma length_of_text {text : String} {n : Nat} (hend : offset + n ≤ p.length)
    (htext : fromUtf8 (slice p offset n) = some text) : n = (utf8Bytes text).length := by
  rw [utf8Bytes_of_fromUtf8 htext, length_slice hend]

/-- A text with its length in front of it. -/
lemma text_field {text : String} (hpos : 0 < width) :
    (utf8Bytes text).length < 256 ^ width ∧ textBytes width text <+: p.drop offset ↔
      offset + width + ofBe (slice p offset width) ≤ p.length ∧
        fromUtf8 (slice p (offset + width) (ofBe (slice p offset width))) = some text := by
  rw [textBytes, append_isPrefix_drop_iff (length_toBe ..)]
  constructor
  · rintro ⟨hfits, hlength, hbytes⟩
    rcases (number_field hpos hfits).mp hlength with ⟨hwidth, hn⟩
    rcases (isPrefix_drop_iff rfl (.inr hwidth)).mp hbytes with ⟨hend, hcontent⟩
    rw [hn, hcontent, fromUtf8_utf8Bytes]
    exact ⟨hend, rfl⟩
  · rintro ⟨hend, htext⟩
    have hwidth : offset + width ≤ p.length := by omega
    have hn := length_of_text hend htext
    have hfits : (utf8Bytes text).length < 256 ^ width := by
      have hbound := ofBe_lt (slice p offset width)
      rwa [hn, length_slice hwidth] at hbound
    refine ⟨hfits, (number_field hpos hfits).mpr ⟨hwidth, hn⟩, ?_⟩
    rw [isPrefix_drop_iff rfl (.inr hwidth), ← hn]
    exact ⟨hend, (utf8Bytes_of_fromUtf8 htext).symm⟩

variable {context : String} {text : String} {bytes : List UInt8} {make : String → Message}

lemma textOf_eq_ok_iff : textOf context bytes = .ok text ↔ fromUtf8 bytes = some text := by
  unfold textOf
  cases fromUtf8 bytes with
  | none => simp
  | some found => simp

lemma map_textOf_eq_ok_iff : (textOf context bytes).map make = .ok m ↔
      ∃ text, fromUtf8 bytes = some text ∧ m = make text := by
  simp only [Result.map_eq_ok_iff, textOf_eq_ok_iff, @eq_comm _ m]

/-! ## The layouts -/

lemma decodeUuid_eq_ok_iff {make : Uuid → Message} :
    decodeUuid context make p = .ok m ↔ ∃ id, m = make id ∧ Uuid.asBytes id <+: p.drop 0 := by
  simp only [decodeUuid, Result.ite_error_eq_ok_iff, uuid_field]
  constructor
  · rintro ⟨hlong, h⟩
    cases h
    exact ⟨_, rfl, by omega, rfl⟩
  · rintro ⟨_, rfl, hlong, rfl⟩
    exact ⟨by omega, rfl⟩

lemma decodeTimestamp_eq_ok_iff {make : UInt64 → Message} :
    decodeTimestamp context make p = .ok m ↔ ∃ timestamp, m = make timestamp ∧
      toBe 8 timestamp.toNat <+: p.drop 0 := by
  simp only [decodeTimestamp, Result.ite_error_eq_ok_iff, u64_field]
  constructor
  · rintro ⟨hlong, h⟩
    cases h
    exact ⟨_, rfl, by omega, rfl⟩
  · rintro ⟨_, rfl, hlong, rfl⟩
    exact ⟨by omega, rfl⟩

lemma decodeReason_eq_ok_iff : decodeReason context make p = .ok m ↔ ∃ reason, m = make reason ∧
      (utf8Bytes reason).length < 256 ^ 2 ∧ textBytes 2 reason <+: p.drop 0 := by
  simp only [decodeReason, Result.ite_error_eq_ok_iff, map_textOf_eq_ok_iff]
  constructor
  · rintro ⟨-, hlong, reason, htext, rfl⟩
    exact ⟨reason, rfl, (text_field (by decide)).mpr ⟨by omega, htext⟩⟩
  · rintro ⟨reason, rfl, hfield⟩
    rcases (text_field (by decide)).mp hfield with ⟨hlong, htext⟩
    exact ⟨by omega, by omega, reason, htext, rfl⟩

lemma decodeAuth_eq_ok_iff : decodeAuth p = .ok m ↔ ∃ token clientId, m = .auth token clientId ∧
      (utf8Bytes token).length < 256 ^ 2 ∧
        textBytes 2 token ++ Uuid.asBytes clientId <+: p.drop 0 := by
  simp only [decodeAuth, Result.ite_error_eq_ok_iff, map_textOf_eq_ok_iff,
    append_isPrefix_drop_iff (length_textBytes ..), uuid_field, Nat.zero_add]
  constructor
  · rintro ⟨-, hlong, token, htext, rfl⟩
    have hlength := length_of_text (by omega) htext
    rcases (text_field (by decide)).mpr ⟨by omega, htext⟩ with ⟨hfits, htoken⟩
    exact ⟨token, _, rfl, hfits, htoken, by omega, by rw [hlength]⟩
  · rintro ⟨token, _, rfl, hfits, htoken, hlong, rfl⟩
    rcases (text_field (by decide)).mp ⟨hfits, htoken⟩ with ⟨hend, htext⟩
    have hlength := length_of_text hend htext
    exact ⟨by omega, by omega, token, htext, by rw [hlength]⟩

lemma decodeConnectFail_eq_ok_iff :
    decodeConnectFail p = .ok m ↔ ∃ connectionId reason, m = .connectFail connectionId reason ∧
      (utf8Bytes reason).length < 256 ^ 2 ∧
        Uuid.asBytes connectionId ++ textBytes 2 reason <+: p.drop 0 := by
  simp only [decodeConnectFail, Result.ite_error_eq_ok_iff, map_textOf_eq_ok_iff,
    append_isPrefix_drop_iff (Uuid.length_asBytes _), uuid_field, Nat.reduceAdd]
  constructor
  · rintro ⟨-, hlong, reason, htext, rfl⟩
    rcases (text_field (by decide)).mpr ⟨by omega, htext⟩ with ⟨hfits, hreason⟩
    exact ⟨_, reason, rfl, hfits, ⟨by omega, rfl⟩, hreason⟩
  · rintro ⟨_, reason, rfl, hfits, ⟨-, rfl⟩, hreason⟩
    rcases (text_field (by decide)).mp ⟨hfits, hreason⟩ with ⟨hlong, htext⟩
    exact ⟨by omega, by omega, reason, htext, rfl⟩

lemma decodeConnect_eq_ok_iff : decodeConnect p = .ok m ↔ ∃ serviceId connectionId clientAddr,
      m = .connect serviceId connectionId clientAddr ∧ (utf8Bytes clientAddr).length < 256 ^ 2 ∧
        Uuid.asBytes serviceId ++ (Uuid.asBytes connectionId ++ textBytes 2 clientAddr) <+:
          p.drop 0 := by
  simp only [decodeConnect, Result.ite_error_eq_ok_iff, map_textOf_eq_ok_iff,
    append_isPrefix_drop_iff (Uuid.length_asBytes _), uuid_field, Nat.reduceAdd]
  constructor
  · rintro ⟨-, hlong, addr, htext, rfl⟩
    rcases (text_field (by decide)).mpr ⟨by omega, htext⟩ with ⟨hfits, haddr⟩
    exact ⟨_, _, addr, rfl, hfits, ⟨by omega, rfl⟩, ⟨by omega, rfl⟩, haddr⟩
  · rintro ⟨_, _, addr, rfl, hfits, ⟨-, rfl⟩, ⟨-, rfl⟩, haddr⟩
    rcases (text_field (by decide)).mp ⟨hfits, haddr⟩ with ⟨hlong, htext⟩
    exact ⟨by omega, by omega, addr, htext, rfl⟩

lemma decodeRegister_eq_ok_iff : decodeRegister p = .ok m ↔ ∃ name protocol localPort remotePort,
      m = .register name protocol localPort remotePort ∧ (utf8Bytes name).length < 256 ^ 1 ∧
        textBytes 1 name ++ ([protocol.toByte] ++
          (toBe 2 localPort.toNat ++ toBe 2 remotePort.toNat)) <+: p.drop 0 := by
  simp only [decodeRegister, Result.ite_error_eq_ok_iff, Result.bind_eq_ok_iff,
    Result.pure_eq_ok_iff, textOf_eq_ok_iff, append_isPrefix_drop_iff (length_textBytes ..),
    append_isPrefix_drop_iff (List.length_singleton), append_isPrefix_drop_iff (length_toBe ..),
    protocol_field, u16_field, List.isEmpty_iff_length_eq_zero, Nat.zero_add]
  have hports (n : Nat) : 2 + n = 1 + n + 1 := by omega
  have hports' (n : Nat) : 4 + n = 1 + n + 1 + 2 := by omega
  constructor
  · rintro ⟨-, hlong, name, htext, protocol, hprotocol, rfl⟩
    have hlength := length_of_text (by omega) htext
    rcases (text_field (by decide)).mpr ⟨by omega, htext⟩ with ⟨hfits, hname⟩
    rw [hlength] at hprotocol hlong ⊢
    rw [hports, hports']
    exact ⟨name, protocol, _, _, rfl, hfits, hname, ⟨by omega, hprotocol⟩, ⟨by omega, rfl⟩,
      by omega, rfl⟩
  · rintro ⟨name, protocol, _, _, rfl, hfits, hname, ⟨-, hprotocol⟩, ⟨-, rfl⟩, hlong, rfl⟩
    rcases (text_field (by decide)).mp ⟨hfits, hname⟩ with ⟨hend, htext⟩
    have hlength := length_of_text hend htext
    rw [← hlength] at hprotocol hlong ⊢
    exact ⟨by omega, by omega, name, htext, protocol, hprotocol, by rw [hports, hports']⟩

/-- A payload is read as the message `m` exactly if it starts with the payload of `m` and the texts
of `m` fit their prefixes. -/
lemma decodePayload_eq_ok_iff {t : MessageType} :
    decodePayload t p = .ok m ↔ m.messageType = t ∧ m.Fits ∧ m.payload <+: p := by
  cases t
  case' auth => refine decodeAuth_eq_ok_iff.trans ?_
  case' authOk | registerOk | connectAck | unregister => refine decodeUuid_eq_ok_iff.trans ?_
  case' authFail | registerFail | disconnect => refine decodeReason_eq_ok_iff.trans ?_
  case' register => refine decodeRegister_eq_ok_iff.trans ?_
  case' connect => refine decodeConnect_eq_ok_iff.trans ?_
  case' connectFail => refine decodeConnectFail_eq_ok_iff.trans ?_
  case' heartbeat | heartbeatAck => refine decodeTimestamp_eq_ok_iff.trans ?_
  all_goals cases m <;> simp [messageType, Fits, payload]

end Message

end ZLayer.Tunnel
