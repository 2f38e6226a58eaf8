import ZLayer.Tunnel.MessageFraming

/-!
# MessageConfusion — messages read as other messages, and bytes that are no message's own

Two things keep `decode` from being the exact inverse of `encode`.  The writer narrows the length
of a text to its prefix, so a text that is too long may be read back cut short, as another message.
And the reader looks at the bytes it needs only, so a payload may carry more of them: the bytes are
accepted, but they are not the encoding of the message that comes out.

Both are decided by how many bytes a payload of each type needs, and by whether what stands there
can be read.
-/

namespace ZLayer.Tunnel
namespace MessageType

open Lib BigEndian

def fixedSize : MessageType → Nat
  | .auth => 18
  | .authOk | .registerOk | .connectAck | .unregister => 16
  | .authFail | .registerFail | .disconnect => 2
  | .register => 6
  | .connect => 34
  | .connectFail => 18
  | .heartbeat | .heartbeatAck => 8

/-- Offset and width of the length of the text, for the types that have one. -/
def textPosition : MessageType → Option (Nat × Nat)
  | .auth | .authFail | .registerFail | .disconnect => some (0, 2)
  | .register => some (0, 1)
  | .connect => some (32, 2)
  | .connectFail => some (16, 2)
  | .authOk | .registerOk | .connectAck | .unregister | .heartbeat | .heartbeatAck => none

/-- The length of the text that the payload announces. -/
def textLength (t : MessageType) (body : List UInt8) : Nat :=
  match t.textPosition with
  | some (offset, width) => ofBe (slice body offset width)
  | none => 0

def needed (t : MessageType) (body : List UInt8) : Nat :=
  t.fixedSize + t.textLength body

/-- The text is UTF-8, and in a registration the byte after it is a protocol. -/
def Readable (t : MessageType) (body : List UInt8) : Prop :=
  (∀ offset width, t.textPosition = some (offset, width) →
    fromUtf8 (slice body (offset + width) (t.textLength body)) ≠ none) ∧
  (t = .register → ofBe (slice body (1 + t.textLength body) 1) ≤ 1)

variable {offset width : Nat} {t : MessageType}

lemma textLength_of_position (body : List UInt8) (h : t.textPosition = some (offset, width)) :
    t.textLength body = ofBe (slice body offset width) := by
  simp only [textLength, h]

end MessageType

namespace ServiceProtocol

/-- The bytes of the two protocols are the ones that are read. -/
lemma exists_fromByte {n : Nat} (h : n ≤ 1) :
    ∃ protocol, fromByte (UInt8.ofNat n) = .ok protocol := by
  rcases Nat.le_one_iff_eq_zero_or_eq_one.mp h with rfl | rfl
  · exact ⟨.tcp, rfl⟩
  · exact ⟨.udp, rfl⟩

end ServiceProtocol

namespace Message

open Lib BigEndian MessageType

variable {t : MessageType} {body : List UInt8} {m : Message}

/-! ## The text of a message -/

/-- What stands before the text of a message, the text, and what stands behind it. -/
def textParts : Message → Option (List UInt8 × String × List UInt8)
  | .auth token clientId => some ([], token, Uuid.asBytes clientId)
  | .authFail reason | .registerFail reason | .disconnect reason => some ([], reason, [])
  | .register name protocol localPort remotePort =>
    some ([], name, protocol.toByte :: (toBe 2 localPort.toNat ++ toBe 2 remotePort.toNat))
  | .connect serviceId connectionId clientAddr =>
    some (Uuid.asBytes serviceId ++ Uuid.asBytes connectionId, clientAddr, [])
  | .connectFail connectionId reason => some (Uuid.asBytes connectionId, reason, [])
  | .authOk _ | .registerOk _ | .connectAck _ | .heartbeat _ | .heartbeatAck _
  | .unregister _ => none

variable {before after : List UInt8} {text : String}

/-- The layout of a message that has a text. -/
lemma layout_of_textParts (h : m.textParts = some (before, text, after)) :
    ∃ width, 0 < width ∧ m.messageType.textPosition = some (before.length, width) ∧
      m.payload = before ++ (textBytes width text ++ after) ∧
      m.messageType.fixedSize = before.length + width + after.length ∧
      (m.Fits ↔ (utf8Bytes text).length < 256 ^ width) := by
  cases m <;> simp only [textParts, Option.some.injEq, Prod.mk.injEq, reduceCtorEq] at h
  case register =>
    rcases h with ⟨rfl, rfl, rfl⟩
    exact ⟨1, by decide, rfl, rfl, by simp [messageType, fixedSize], Iff.rfl⟩
  all_goals
    rcases h with ⟨rfl, rfl, rfl⟩
    exact ⟨2, by decide, by simp [messageType, textPosition], by simp [payload],
      by simp [messageType, fixedSize], Iff.rfl⟩

/-- The layout of a message without a text. -/
lemma layout_of_no_text (h : m.textParts = none) :
    m.messageType.textPosition = none ∧ m.payload.length = m.messageType.fixedSize ∧ m.Fits ∧
      m.messageType ≠ .register := by
  cases m <;> simp_all [textParts, messageType, textPosition, payload, fixedSize, Fits]

/-! ## Which payloads are read -/

/-- A text that stands behind some bytes is read there. -/
lemma text_of_isPrefix (before after : List UInt8) {width : Nat} (hpos : 0 < width)
    (hfits : (utf8Bytes text).length < 256 ^ width)
    (h : before ++ (textBytes width text ++ after) <+: body.drop 0) :
    ofBe (slice body before.length width) = (utf8Bytes text).length ∧
      fromUtf8 (slice body (before.length + width) (utf8Bytes text).length) = some text := by
  have hrest := ((append_isPrefix_drop_iff rfl).mp h).2
  rw [Nat.zero_add] at hrest
  rcases (text_field hpos).mp ⟨hfits, ((append_isPrefix_drop_iff rfl).mp hrest).1⟩
    with ⟨hend, htext⟩
  have hlength := length_of_text hend htext
  exact ⟨hlength, hlength ▸ htext⟩

/-- What a payload that starts with that of a message announces. -/
lemma needed_of_isPrefix (hfits : m.Fits) (h : m.payload <+: body) :
    needed m.messageType body = m.payload.length := by
  cases hparts : m.textParts with
  | none =>
    rcases layout_of_no_text hparts with ⟨hposition, hlength, -⟩
    simp only [needed, textLength, hposition, hlength, Nat.add_zero]
  | some parts =>
    rcases parts with ⟨before, text, after⟩
    rcases layout_of_textParts hparts with ⟨width, hpos, hposition, hpayload, hfixed, hiff⟩
    have hlen := (text_of_isPrefix before after hpos (hiff.mp hfits) (hpayload ▸ h)).1
    rw [needed, textLength_of_position body hposition, hlen, hpayload, hfixed]
    simp only [List.length_append, length_textBytes]
    omega

lemma readable_of_isPrefix (hfits : m.Fits) (h : m.payload <+: body) :
    Readable m.messageType body := by
  cases hparts : m.textParts with
  | none =>
    rcases layout_of_no_text hparts with ⟨hposition, -, -, hregister⟩
    constructor
    · intro offset width hsome
      rw [hposition] at hsome
      cases hsome
    · intro htype
      exact absurd htype hregister
  | some parts =>
    rcases parts with ⟨before, text, after⟩
    rcases layout_of_textParts hparts with ⟨width, hpos, hposition, hpayload, -, hiff⟩
    have hread := text_of_isPrefix before after hpos (hiff.mp hfits) (hpayload ▸ h)
    constructor
    · intro offset width' hsome
      rw [hposition] at hsome
      cases hsome
      rw [textLength_of_position body hposition, hread.1, hread.2]
      exact Option.some_ne_none text
    · intro htype
      -- behind the name stands the byte of a protocol
      cases m <;> simp only [messageType, reduceCtorEq] at htype
      case register name protocol localPort remotePort =>
        cases hparts
        cases hposition
        have hlen : ofBe (slice body 0 1) = (utf8Bytes text).length := hread.1
        have hfront : textBytes 1 text ++ ([protocol.toByte] ++
            (toBe 2 localPort.toNat ++ toBe 2 remotePort.toNat)) <+: body := h
        have hbyte : slice body (1 + (utf8Bytes text).length) 1 = [protocol.toByte] :=
          slice_of_isPrefix hfront (length_textBytes ..) rfl
        rw [textLength_of_position body rfl, hlen, hbyte]
        cases protocol <;> decide

variable {bytes : List UInt8}

/-- Two checks of the length, and a text that can be read. -/
lemma exists_checked {first second : Nat} {e e' : DecodeError} {context : String}
    {make : String → Message} (hfirst : first ≤ body.length) (hsecond : second ≤ body.length)
    (htext : fromUtf8 bytes ≠ none) :
    ∃ m, (if body.length < first then .error e else if body.length < second then .error e'
      else (textOf context bytes).map make) = .ok m := by
  rw [if_neg (Nat.not_lt.mpr hfirst), if_neg (Nat.not_lt.mpr hsecond)]
  rcases Option.ne_none_iff_exists'.mp htext with ⟨text, htext⟩
  exact ⟨make text, map_textOf_eq_ok_iff.mpr ⟨text, htext, rfl⟩⟩

lemma exists_decodeRegister (hlength : 6 + ofBe (slice body 0 1) ≤ body.length)
    (htext : fromUtf8 (slice body 1 (ofBe (slice body 0 1))) ≠ none)
    (hprotocol : ofBe (slice body (1 + ofBe (slice body 0 1)) 1) ≤ 1) :
    ∃ m, decodeRegister body = .ok m := by
  have hempty : ¬ body.isEmpty = true := by
    intro h
    rw [List.isEmpty_iff.mp h] at hlength
    simp at hlength
  have hlong : ¬ body.length < 1 + ofBe (slice body 0 1) + 1 + 2 + 2 := by omega
  rcases Option.ne_none_iff_exists'.mp htext with ⟨name, hname⟩
  rcases ServiceProtocol.exists_fromByte hprotocol with ⟨protocol, hbyte⟩
  rw [decodeRegister, if_neg hempty, if_neg hlong]
  exact ⟨_, Result.bind_eq_ok_iff.mpr ⟨name, textOf_eq_ok_iff.mpr hname,
    Result.bind_eq_ok_iff.mpr ⟨protocol, hbyte, rfl⟩⟩⟩

/-- A payload with the bytes it announces and a text that can be read is read. -/
lemma exists_decodePayload (hlength : needed t body ≤ body.length) (hread : Readable t body) :
    ∃ m, decodePayload t body = .ok m := by
  have hfixed : t.fixedSize + t.textLength body ≤ body.length := hlength
  cases t with
  | auth =>
    have hneeded : 18 + ofBe (slice body 0 2) ≤ body.length := hfixed
    exact exists_checked (by omega) (by omega) (hread.1 0 2 rfl)
  | connect =>
    have hneeded : 34 + ofBe (slice body 32 2) ≤ body.length := hfixed
    exact exists_checked (by omega) hneeded (hread.1 32 2 rfl)
  | connectFail =>
    have hneeded : 18 + ofBe (slice body 16 2) ≤ body.length := hfixed
    exact exists_checked (by omega) hneeded (hread.1 16 2 rfl)
  | authFail | registerFail | disconnect =>
    have hneeded : 2 + ofBe (slice body 0 2) ≤ body.length := hfixed
    exact exists_checked (by omega) hneeded (hread.1 0 2 rfl)
  | register => exact exists_decodeRegister hlength (hread.1 0 1 rfl) (hread.2 rfl)
  | authOk | registerOk | connectAck | unregister | heartbeat | heartbeatAck =>
    exact ⟨_, if_neg (Nat.not_lt.mpr hlength)⟩

/-- The payloads that are read. -/
lemma exists_decodePayload_iff :
    (∃ m, decodePayload t body = .ok m) ↔ needed t body ≤ body.length ∧ Readable t body := by
  constructor
  · rintro ⟨m, hm⟩
    rcases decodePayload_eq_ok_iff.mp hm with ⟨rfl, hfits, hstart⟩
    rw [needed_of_isPrefix hfits hstart]
    exact ⟨hstart.length_le, readable_of_isPrefix hfits hstart⟩
  · rintro ⟨hlength, hread⟩
    exact exists_decodePayload hlength hread

/-! ## Bytes that are not the encoding of what they are read as -/

/-- The bytes begin with a frame that is read and holds more than its message needs. -/
def Padded (bytes : List UInt8) : Prop :=
  ∃ t body rest, bytes = frame t body ++ rest ∧ body.length ≤ maxMessageSize - headerSize ∧
    needed t body < body.length ∧ Readable t body

/-- The bytes that are taken for a message are its own exactly if they hold nothing behind it. -/
lemma encode_eq_take_iff {bytes rest : List UInt8}
    (hbytes : bytes = frame m.messageType body ++ rest) (hstart : m.payload <+: body) :
    m.encode = bytes.take (headerSize + body.length) ↔ m.payload.length = body.length := by
  have htake : bytes.take (headerSize + body.length) = frame m.messageType body := by
    rw [hbytes, List.take_left' (length_frame ..)]
  rw [htake]
  constructor
  · intro h
    have hlength := congrArg List.length h
    rw [length_encode, length_frame] at hlength
    omega
  · intro h
    rw [encode, hstart.eq_of_length h]

lemma canonical_iff_not_padded :
    (∀ m n, decode bytes = .ok (m, n) → m.encode = bytes.take n) ↔ ¬ Padded bytes := by
  constructor
  · rintro hcanonical ⟨t, body, rest, hbytes, hsize, hneeded, hread⟩
    rcases exists_decodePayload (Nat.le_of_lt hneeded) hread with ⟨m, hm⟩
    rcases decodePayload_eq_ok_iff.mp hm with ⟨rfl, hfits, hstart⟩
    have hdecode := decode_eq_ok_iff.mpr ⟨body, rest, hbytes, hsize, hfits, hstart, rfl⟩
    have hlength := (encode_eq_take_iff hbytes hstart).mp (hcanonical m _ hdecode)
    rw [needed_of_isPrefix hfits hstart] at hneeded
    omega
  · intro hpadded m n hm
    rcases decode_eq_ok_iff.mp hm with ⟨body, rest, hbytes, hsize, hfits, hstart, rfl⟩
    refine (encode_eq_take_iff hbytes hstart).mpr ?_
    by_contra hlength
    have hneeded : needed m.messageType body < body.length := by
      rw [needed_of_isPrefix hfits hstart]
      exact Nat.lt_of_le_of_ne hstart.length_le hlength
    exact hpadded ⟨m.messageType, body, rest, hbytes, hsize, hneeded,
      readable_of_isPrefix hfits hstart⟩

/-! ## Messages that are read back as other messages -/

/-- The payload as far as its length, narrowed to four bytes, reaches. -/
def announced (m : Message) : List UInt8 :=
  m.payload.take (m.payload.length % 256 ^ 4)

lemma length_announced (m : Message) : m.announced.length = m.payload.length % 256 ^ 4 :=
  List.length_take_of_le (Nat.mod_le ..)

lemma decode_encode_eq_ok_iff {out : Message} {n : Nat} :
    decode m.encode = .ok (out, n) ↔ m.announced.length ≤ maxMessageSize - headerSize ∧
      decodePayload m.messageType m.announced = .ok out ∧
        n = headerSize + m.announced.length := by
  have hlong : ¬ m.payload.length < m.payload.length % 256 ^ 4 :=
    Nat.not_lt.mpr (Nat.mod_le ..)
  rw [encode, frame, decode_header, if_neg hlong, length_announced]
  constructor
  · intro h
    split at h
    · cases h
    next hsize =>
      rcases Result.map_eq_ok_iff.mp h with ⟨found, hfound, hout⟩
      cases hout
      exact ⟨Nat.not_lt.mp hsize, hfound, rfl⟩
  · rintro ⟨hsize, hfound, rfl⟩
    rw [if_neg (Nat.not_lt.mpr hsize)]
    exact Result.map_eq_ok_iff.mpr ⟨out, hfound, rfl⟩

lemma payload_lt_of_fits (h : m.Fits) : m.payload.length < 256 ^ 4 := by
  cases m <;> simp only [Fits] at h <;> simp [payload] <;> omega

/-- A message whose texts fit is read as itself if it is read; the others are never read as
themselves, so that they must not be read at all. -/
lemma unconfused_iff : (∀ out n, decode m.encode = .ok (out, n) → out = m) ↔
      ¬ (¬ m.Fits ∧ m.announced.length ≤ maxMessageSize - headerSize ∧
        needed m.messageType m.announced ≤ m.announced.length ∧
          Readable m.messageType m.announced) := by
  constructor
  · rintro h ⟨hfits, hsize, hread⟩
    rcases exists_decodePayload_iff.mpr hread with ⟨out, hout⟩
    have hsame := h out _ (decode_encode_eq_ok_iff.mpr ⟨hsize, hout, rfl⟩)
    rw [hsame] at hout
    exact hfits (decodePayload_eq_ok_iff.mp hout).2.1
  · intro h out n hout
    rcases decode_encode_eq_ok_iff.mp hout with ⟨hsize, hread, -⟩
    by_cases hfits : m.Fits
    · have hwhole : m.announced = m.payload := by
        rw [announced, Nat.mod_eq_of_lt (payload_lt_of_fits hfits), List.take_length]
      have hself : decodePayload m.messageType m.announced = .ok m :=
        decodePayload_eq_ok_iff.mpr ⟨rfl, hfits, hwhole ▸ List.prefix_refl _⟩
      rw [hread] at hself
      cases hself
      rfl
    · exact absurd ⟨hfits, hsize, exists_decodePayload_iff.mp ⟨out, hread⟩⟩ h

section Announced

variable {before after : List UInt8} {text : String} {width : Nat}
variable (hposition : m.messageType.textPosition = some (before.length, width))
variable (hpayload : m.payload = before ++ (textBytes width text ++ after))
include hpayload

/-- A part of the text that the announced payload still holds. -/
lemma slice_announced (offset n : Nat) (htext : offset + n ≤ (utf8Bytes text).length)
    (h : before.length + width + offset + n ≤ m.announced.length) :
    slice m.announced (before.length + width + offset) n = slice (utf8Bytes text) offset n := by
  have hsplit : m.payload =
      (before ++ toBe width (utf8Bytes text).length) ++ (utf8Bytes text ++ after) := by
    simp [hpayload, textBytes]
  have hfront : (before ++ toBe width (utf8Bytes text).length).length = before.length + width := by
    simp
  rw [length_announced] at h
  rw [announced, slice_take h, hsplit, ← hfront, slice_middle after htext]

include hposition

lemma textLength_announced (h : before.length + width ≤ m.announced.length) :
    m.messageType.textLength m.announced = (utf8Bytes text).length % 256 ^ width := by
  have hsplit : m.payload =
      before ++ (toBe width (utf8Bytes text).length ++ (utf8Bytes text ++ after)) := by
    simp [hpayload, textBytes]
  rw [length_announced] at h
  rw [textLength_of_position _ hposition, announced, slice_take h, hsplit,
    slice_append _ rfl (length_toBe ..), ofBe_toBe]

/-- The announced payload is read exactly if the text cut to its narrowed length can be. -/
lemma read_announced_iff
    (hfixed : m.messageType.fixedSize = before.length + width + after.length) :
    (needed m.messageType m.announced ≤ m.announced.length ∧
        Readable m.messageType m.announced) ↔
      m.messageType.fixedSize + (utf8Bytes text).length % 256 ^ width ≤ m.announced.length ∧
        fromUtf8 ((utf8Bytes text).take ((utf8Bytes text).length % 256 ^ width)) ≠ none ∧
          (m.messageType = .register → ofBe (slice m.announced
            (1 + (utf8Bytes text).length % 256 ^ width) 1) ≤ 1) := by
  by_cases hshort : m.announced.length < m.messageType.fixedSize
  · -- too short for any text
    constructor
    · rintro ⟨hneeded, -⟩
      rw [needed] at hneeded
      omega
    · rintro ⟨hneeded, -⟩
      omega
  · have hlen := textLength_announced hposition hpayload (by omega)
    rw [needed, hlen]
    refine and_congr_right fun hlong => ?_
    have hcut : (utf8Bytes text).length % 256 ^ width ≤ (utf8Bytes text).length := Nat.mod_le ..
    have hslice := slice_announced hpayload 0 ((utf8Bytes text).length % 256 ^ width)
      (by omega) (by omega)
    rw [Nat.add_zero, slice_zero] at hslice
    rw [Readable, hlen, ← hslice]
    refine and_congr_left fun _ => ⟨fun h => h before.length width hposition, ?_⟩
    intro h offset width' hsome
    rw [hposition] at hsome
    cases hsome
    exact h

end Announced

/-- A text with a length of two bytes, in a payload of `fixed` bytes besides, is not read cut short:
its length does not come out small enough, or the cut goes through a character. -/
def TextKept (fixed : Nat) (text : String) : Prop :=
  (utf8Bytes text).length < 2 ^ 32 ∨
    maxMessageSize - headerSize < fixed + (utf8Bytes text).length % 2 ^ 32 ∨
    fromUtf8 ((utf8Bytes text).take ((utf8Bytes text).length % 2 ^ 32)) = none

/-- The name of a service is not read cut short: its length fits one byte, or the payload does not
come out right, or the cut goes through a character, or the byte at the cut is no protocol. -/
def NameKept (name : String) : Prop :=
  (utf8Bytes name).length < 256 ∨
    maxMessageSize - headerSize < (6 + (utf8Bytes name).length) % 2 ^ 32 ∨
    (6 + (utf8Bytes name).length) % 2 ^ 32 < 6 + (utf8Bytes name).length % 256 ∨
    fromUtf8 ((utf8Bytes name).take ((utf8Bytes name).length % 256)) = none ∨
    1 < ofBe (slice (utf8Bytes name) ((utf8Bytes name).length % 256) 1)

/-- The text of the message is not read cut short. -/
def Unmistakable : Message → Prop
  | .auth token _ => TextKept 18 token
  | .authFail reason | .registerFail reason | .disconnect reason => TextKept 2 reason
  | .register name _ _ _ => NameKept name
  | .connect _ _ clientAddr => TextKept 34 clientAddr
  | .connectFail _ reason => TextKept 18 reason
  | .authOk _ | .registerOk _ | .connectAck _ | .heartbeat _ | .heartbeatAck _
  | .unregister _ => True

/-- What the announced part of a message with a length of two bytes comes to. -/
lemma unconfused_text_iff (hparts : m.textParts = some (before, text, after))
    (htype : m.messageType ≠ .register) :
    (∀ out n, decode m.encode = .ok (out, n) → out = m) ↔
      TextKept m.messageType.fixedSize text := by
  rcases layout_of_textParts hparts with ⟨width, -, hposition, hpayload, hfixed, hfits⟩
  have hsmall : m.messageType.fixedSize ≤ 34 := by cases m.messageType <;> decide
  have hwidth : width = 2 := by
    generalize m.messageType = t at hposition htype
    cases t <;> simp_all [MessageType.textPosition]
  subst hwidth
  have hlength : m.announced.length =
      (m.messageType.fixedSize + (utf8Bytes text).length) % 2 ^ 32 := by
    rw [length_announced, hpayload]
    simp only [List.length_append, length_textBytes]
    congr 1
    omega
  have hmax : maxMessageSize - headerSize = 65531 := rfl
  rw [unconfused_iff, hfits, read_announced_iff hposition hpayload hfixed, TextKept, hlength, hmax,
    ← not_iff_not]
  simp only [not_not, not_or, Nat.not_lt]
  -- a length that is small when narrowed to four bytes comes to the same when narrowed to two
  constructor
  · rintro ⟨hlarge, hsize, hneeded, hread, -⟩
    have hsame : (utf8Bytes text).length % 256 ^ 2 = (utf8Bytes text).length % 2 ^ 32 := by omega
    exact ⟨by omega, by omega, hsame ▸ hread⟩
  · rintro ⟨hlarge, hcut, hread⟩
    have hsame : (utf8Bytes text).length % 256 ^ 2 = (utf8Bytes text).length % 2 ^ 32 := by omega
    exact ⟨by omega, by omega, by omega, hsame ▸ hread, fun hregister => absurd hregister htype⟩

lemma unconfused_register_iff {name : String} {protocol : ServiceProtocol}
    {localPort remotePort : UInt16} (hm : m = .register name protocol localPort remotePort) :
    (∀ out n, decode m.encode = .ok (out, n) → out = m) ↔ NameKept name := by
  have hparts : m.textParts = some ([], name,
      protocol.toByte :: (toBe 2 localPort.toNat ++ toBe 2 remotePort.toNat)) := by
    rw [hm, textParts]
  rcases layout_of_textParts hparts with ⟨width, -, hposition, hpayload, hfixed, hfits⟩
  have htype : m.messageType = .register := by rw [hm, messageType]
  have hwidth : width = 1 := by
    rw [htype] at hposition
    cases hposition
    rfl
  subst hwidth
  have hsize : m.messageType.fixedSize = 6 := by rw [htype, fixedSize]
  have hlength : m.announced.length = (6 + (utf8Bytes name).length) % 2 ^ 32 := by
    rw [length_announced, hpayload]
    simp only [List.length_append, length_textBytes, List.length_cons, length_toBe,
      List.length_nil]
    congr 1
    omega
  have hbyte (hlarge : 256 ≤ (utf8Bytes name).length)
      (hlong : 6 + (utf8Bytes name).length % 256 ≤ m.announced.length) :
      slice m.announced (1 + (utf8Bytes name).length % 256) 1 =
        slice (utf8Bytes name) ((utf8Bytes name).length % 256) 1 := by
    have hslice := slice_announced hpayload ((utf8Bytes name).length % 256) 1
      (by omega) (by simp only [List.length_nil]; omega)
    simpa using hslice
  rw [unconfused_iff, hfits, read_announced_iff hposition hpayload hfixed, NameKept, hsize,
    Nat.pow_one, ← hlength, ← not_iff_not]
  simp only [not_not, not_or, Nat.not_lt]
  constructor
  · rintro ⟨hlarge, hmax, hlong, hread, hprotocol⟩
    have hnext := hprotocol htype
    rw [hbyte hlarge hlong] at hnext
    exact ⟨hlarge, hmax, hlong, hread, hnext⟩
  · rintro ⟨hlarge, hmax, hlong, hread, hnext⟩
    refine ⟨hlarge, hmax, hlong, hread, fun _ => ?_⟩
    rwa [hbyte hlarge hlong]

lemma unconfused_iff_unmistakable :
    (∀ out n, decode m.encode = .ok (out, n) → out = m) ↔ m.Unmistakable := by
  cases m with
  | register => exact unconfused_register_iff rfl
  | auth | authFail | registerFail | disconnect | connect | connectFail =>
    exact unconfused_text_iff rfl nofun
  | authOk | registerOk | connectAck | heartbeat | heartbeatAck | unregister =>
    exact iff_of_true (unconfused_iff.mpr fun h => h.1 trivial) trivial

/-! ## Both ways -/

/-- A message is never read back as another one exactly if its text is not read cut short, and
bytes are never taken for a message they do not encode exactly if they hold nothing behind it. -/
theorem decode_exact_iff (m : Message) (bytes : List UInt8) :
    ((∀ out n, decode m.encode = .ok (out, n) → out = m) ↔ m.Unmistakable) ∧
      ((∀ out n, decode bytes = .ok (out, n) → out.encode = bytes.take n) ↔ ¬ Padded bytes) :=
  ⟨unconfused_iff_unmistakable, canonical_iff_not_padded⟩

def longName : Message :=
  .register (String.ofList (List.replicate 256 (Char.ofNat 0))) .udp 8080 9090

def paddedAuthOk : List UInt8 :=
  frame .authOk (toBe 16 1 ++ [255])

/-- A registration under a long name is read as one under the empty name, for another protocol and
other ports, and an acknowledgement with a byte too many is accepted. -/
theorem longName_misread_and_padding_accepted :
    decode longName.encode = .ok (.register "" .tcp 0 0, 267) ∧
      longName ≠ .register "" .tcp 0 0 ∧
      decode paddedAuthOk = .ok (.authOk 1, 22) ∧
      (Message.authOk 1).encode ≠ paddedAuthOk.take 22 := by
  decide +kernel

end Message

end ZLayer.Tunnel
