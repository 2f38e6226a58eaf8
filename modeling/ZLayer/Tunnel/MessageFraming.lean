import ZLayer.Tunnel.PayloadLayout

/-!
# MessageFraming — messages in a stream of bytes

What `decode` makes of a header and the bytes behind it, and from that: a message that can be sent
is read back in front of anything, every proper part of it is reported as incomplete, and a stream
of messages is read back however it is cut into chunks.
-/

namespace ZLayer.Tunnel
namespace Message

open Lib BigEndian List

/-! ## The header -/

@[simp] lemma length_frame (t : MessageType) (body : List UInt8) :
    (frame t body).length = headerSize + body.length := by
  simp [frame, headerSize]
  omega

/-- Bytes that begin with a known type and a length. -/
lemma decode_header (t : MessageType) (n : Nat) (part : List UInt8) :
    decode (t.toByte :: (toBe 4 n ++ part)) =
      if n % 256 ^ 4 > maxMessageSize - headerSize then
        .error (.payloadTooLarge (n % 256 ^ 4))
      else if part.length < n % 256 ^ 4 then
        .error (.incompleteMessage (headerSize + part.length) (headerSize + n % 256 ^ 4))
      else
        (decodePayload t (part.take (n % 256 ^ 4))).map fun m => (m, headerSize + n % 256 ^ 4) := by
  have hlength : (t.toByte :: (toBe 4 n ++ part)).length = headerSize + part.length := by
    simp [headerSize]
    omega
  have hlong : ¬ headerSize + part.length < headerSize := by omega
  have hlen : ofBe (slice (t.toByte :: (toBe 4 n ++ part)) 1 4) = n % 256 ^ 4 := by
    have hslice : slice ([t.toByte] ++ (toBe 4 n ++ part)) 1 4 = toBe 4 n :=
      slice_append part rfl (length_toBe 4 n)
    rw [← ofBe_toBe, ← hslice]
    rfl
  have hbody (k : Nat) : slice (t.toByte :: (toBe 4 n ++ part)) headerSize k = part.take k := by
    have hheader : (t.toByte :: toBe 4 n).length = headerSize := by simp [headerSize]
    have hdrop : ((t.toByte :: toBe 4 n) ++ part).drop headerSize = part :=
      drop_left' hheader
    exact congrArg (take k) hdrop
  have hfits : headerSize + part.length < headerSize + n % 256 ^ 4 ↔ part.length < n % 256 ^ 4 := by
    omega
  unfold decode
  simp only [hlength, if_neg hlong, headD_cons, MessageType.tryFrom_toByte, hlen, hbody, hfits]
  split
  · rfl
  · split
    · rfl
    · change (decodePayload t (part.take (n % 256 ^ 4)) >>= fun m =>
        pure (m, headerSize + n % 256 ^ 4)) = _
      cases decodePayload t (part.take (n % 256 ^ 4)) <;> rfl

variable {bytes : List UInt8}

/-- Bytes that begin neither way are refused. -/
lemma header_of_decode_eq_ok {out : Message × Nat} (h : decode bytes = .ok out) :
    ∃ (t : MessageType) (n : Nat) (part : List UInt8), n < 256 ^ 4 ∧
      bytes = t.toByte :: (toBe 4 n ++ part) := by
  cases bytes with
  | nil => cases h
  | cons first tail =>
    by_cases hshort : (first :: tail).length < headerSize
    · rw [decode, if_pos hshort] at h
      cases h
    have hfour : (tail.take 4).length = 4 := by
      simp only [headerSize, length_cons] at hshort
      rw [length_take]
      omega
    rw [decode, if_neg hshort] at h
    rcases Result.bind_eq_ok_iff.mp h with ⟨t, htype, -⟩
    refine ⟨t, ofBe (tail.take 4), tail.drop 4, ?_, ?_⟩
    · have hbound := ofBe_lt (tail.take 4)
      rwa [hfour] at hbound
    · have hback := toBe_ofBe (tail.take 4)
      rw [hfour] at hback
      rw [hback, take_append_drop, MessageType.toByte_of_tryFrom htype]
      rfl

variable {m : Message}

/-- A message that is read stands in a frame at the front of the bytes, perhaps with more bytes in
its payload than it needs. -/
lemma decode_eq_ok_iff {n : Nat} :
    decode bytes = .ok (m, n) ↔ ∃ body rest, bytes = frame m.messageType body ++ rest ∧
      body.length ≤ maxMessageSize - headerSize ∧ m.Fits ∧ m.payload <+: body ∧
        n = headerSize + body.length := by
  constructor
  · intro h
    rcases header_of_decode_eq_ok h with ⟨t, k, part, hk, rfl⟩
    rw [decode_header, Nat.mod_eq_of_lt hk] at h
    split at h
    · cases h
    next hsize =>
      split at h
      · cases h
      next hlong =>
        rcases Result.map_eq_ok_iff.mp h with ⟨found, hfound, hout⟩
        cases hout
        rcases decodePayload_eq_ok_iff.mp hfound with ⟨rfl, hfits, hstart⟩
        have hlength : (part.take k).length = k := length_take_of_le (Nat.not_lt.mp hlong)
        refine ⟨part.take k, part.drop k, ?_, ?_, hfits, hstart, by rw [hlength]⟩
        · rw [frame, hlength, cons_append, append_assoc, take_append_drop]
        · rw [hlength]
          exact Nat.not_lt.mp hsize
  · rintro ⟨body, rest, rfl, hsize, hfits, hstart, rfl⟩
    have hmod : body.length % 256 ^ 4 = body.length := by
      refine Nat.mod_eq_of_lt (Nat.lt_of_le_of_lt hsize ?_)
      decide
    have hlong : ¬ (body ++ rest).length < body.length := by
      rw [length_append]
      omega
    rw [frame, cons_append, append_assoc, decode_header, hmod,
      if_neg (Nat.not_lt.mpr hsize), if_neg hlong, take_left' rfl,
      decodePayload_eq_ok_iff.mpr ⟨rfl, hfits, hstart⟩]
    rfl

/-! ## One message -/

/-- The texts fit their prefixes, and the message with its header has the size of a message. -/
def Sendable (m : Message) : Prop :=
  m.Fits ∧ headerSize + m.payload.length ≤ maxMessageSize

lemma Sendable.payload_le (h : m.Sendable) : m.payload.length ≤ maxMessageSize - headerSize := by
  have hsize := h.2
  omega

lemma length_encode (m : Message) : m.encode.length = headerSize + m.payload.length :=
  length_frame ..

lemma decode_encode_append (h : m.Sendable) (rest : List UInt8) :
    decode (m.encode ++ rest) = .ok (m, m.encode.length) :=
  decode_eq_ok_iff.mpr
    ⟨m.payload, rest, rfl, h.payload_le, h.1, prefix_refl _, length_encode m⟩

/-- A part of a message is reported as incomplete. -/
lemma decode_take_encode (h : m.Sendable) {k : Nat} (hk : k < m.encode.length) :
    ∃ e, decode (m.encode.take k) = .error e ∧ e.isIncomplete = true := by
  rw [length_encode] at hk
  by_cases hheader : k < headerSize
  · have hshort : (m.encode.take k).length < headerSize := by
      rw [length_take]
      omega
    exact ⟨.messageTooShort (m.encode.take k).length, by rw [decode, if_pos hshort], rfl⟩
  · -- the header is there, the payload is cut off
    have htake : m.encode.take k = m.messageType.toByte ::
        (toBe 4 m.payload.length ++ m.payload.take (k - headerSize)) := by
      have hsplit : m.encode = (m.messageType.toByte :: toBe 4 m.payload.length) ++ m.payload := by
        simp [encode, frame]
      have hlength : (m.messageType.toByte :: toBe 4 m.payload.length).length = headerSize := by
        simp [headerSize]
      rw [hsplit, take_append, hlength,
        take_of_length_le (by rw [hlength]; exact Nat.not_lt.mp hheader), cons_append]
    have hpayload := h.payload_le
    have hmod : m.payload.length % 256 ^ 4 = m.payload.length := by
      refine Nat.mod_eq_of_lt (Nat.lt_of_le_of_lt hpayload ?_)
      decide
    have hcut : (m.payload.take (k - headerSize)).length < m.payload.length := by
      rw [length_take]
      omega
    rw [htake, decode_header, hmod, if_neg (Nat.not_lt.mpr hpayload), if_pos hcut]
    exact ⟨_, rfl, rfl⟩

/-! ## Streams

A receiver keeps the bytes it could not decode yet.  Each chunk is put behind them, and as many
messages are taken off the front as are complete.
-/

/-- Take messages off the front of the buffer.  Every message takes at least one byte, so the
length of the buffer is fuel enough. -/
def drain : Nat → List UInt8 → List Message × List UInt8
  | 0, buffer => ([], buffer)
  | fuel + 1, buffer =>
    match decode buffer with
    | .ok (m, n) => (m :: (drain fuel (buffer.drop n)).1, (drain fuel (buffer.drop n)).2)
    | .error _ => ([], buffer)

/-- One more chunk for a receiver with these messages and this buffer. -/
def receive (s : List Message × List UInt8) (chunk : List UInt8) : List Message × List UInt8 :=
  let out := drain (s.2 ++ chunk).length (s.2 ++ chunk)
  (s.1 ++ out.1, out.2)

/-- A buffer that does not hold a whole message. -/
def Stuck (buffer : List UInt8) : Prop :=
  ∀ out, decode buffer ≠ .ok out

lemma stuck_nil : Stuck [] := by
  intro out h
  cases h

variable {ms : List Message}

/-- Sendable messages at the front of a buffer are taken off one after the other. -/
lemma drain_spec (hms : ∀ m ∈ ms, m.Sendable) {buffer rest : List UInt8}
    (h : buffer ++ rest = ms.flatMap encode) {fuel : Nat} (hfuel : buffer.length ≤ fuel) :
    ∃ k, (drain fuel buffer).1 = ms.take k ∧
      (drain fuel buffer).2 ++ rest = (ms.drop k).flatMap encode ∧
        Stuck (drain fuel buffer).2 := by
  induction ms generalizing buffer fuel with
  | nil =>
    have hnil : buffer = [] := (append_eq_nil_iff.mp h).1
    subst hnil
    refine ⟨0, ?_⟩
    cases fuel <;> exact ⟨rfl, h, stuck_nil⟩
  | cons m ms ih =>
    have hm : m.Sendable := hms m (by simp)
    rw [flatMap_cons] at h
    by_cases hwhole : m.encode.length ≤ buffer.length
    · -- the buffer starts with the whole message
      have hstart : m.encode <+: buffer := by
        refine prefix_of_prefix_length_le ?_ ⟨rest, rfl⟩ hwhole
        exact ⟨ms.flatMap encode, h.symm⟩
      rcases hstart with ⟨tail, rfl⟩
      rw [append_assoc] at h
      have htail : tail ++ rest = ms.flatMap encode := append_cancel_left h
      have hpos : 1 ≤ m.encode.length := by
        rw [length_encode, headerSize]
        omega
      cases fuel with
      | zero =>
        rw [length_append] at hfuel
        omega
      | succ fuel =>
        have hless : tail.length ≤ fuel := by
          rw [length_append] at hfuel
          omega
        rcases ih (fun m' hm' => hms m' (by simp [hm'])) htail hless with
          ⟨k, htaken, hleft, hstuck⟩
        have hdrop : (m.encode ++ tail).drop m.encode.length = tail := drop_left' rfl
        refine ⟨k + 1, ?_⟩
        simp only [drain, decode_encode_append hm tail, hdrop, take_succ_cons,
          drop_succ_cons]
        exact ⟨by rw [htaken], hleft, hstuck⟩
    · -- the buffer ends inside the message
      have hbuffer : buffer = m.encode.take buffer.length := by
        have hboth := congrArg (take buffer.length) h
        rwa [take_left' rfl, take_append_of_le_length (by omega)] at hboth
      rcases decode_take_encode hm (Nat.not_le.mp hwhole) with ⟨e, herror, -⟩
      rw [← hbuffer] at herror
      have hstuck : Stuck buffer := by
        intro out hout
        rw [herror] at hout
        cases hout
      refine ⟨0, ?_⟩
      cases fuel with
      | zero => exact ⟨rfl, h, hstuck⟩
      | succ fuel =>
        simp only [drain, herror]
        exact ⟨rfl, h, hstuck⟩

/-- However a stream of sendable messages is cut into chunks, a receiver gets the messages. -/
lemma foldl_receive (hms : ∀ m ∈ ms, m.Sendable) (chunks : List (List UInt8))
    {buffer : List UInt8} (hstuck : Stuck buffer)
    (h : buffer ++ chunks.flatten = ms.flatMap encode) (received : List Message) :
    chunks.foldl receive (received, buffer) = (received ++ ms, []) := by
  induction chunks generalizing ms buffer received with
  | nil =>
    rw [flatten_nil, append_nil] at h
    cases ms with
    | nil => simp [h]
    | cons m ms =>
      -- a whole message would have been taken off already
      rw [flatMap_cons] at h
      exact absurd (h ▸ decode_encode_append (hms m (by simp)) _) (hstuck _)
  | cons chunk chunks ih =>
    rw [flatten_cons, ← append_assoc] at h
    rcases drain_spec hms h (Nat.le_refl _) with ⟨k, htaken, hleft, hstuck'⟩
    have hrest : ∀ m ∈ ms.drop k, m.Sendable := fun m hm => hms m (mem_of_mem_drop hm)
    rw [foldl_cons, receive, htaken]
    rw [ih hrest hstuck' hleft, append_assoc, take_append_drop]

/-- A message that can be sent is read back in front of any bytes, its parts are incomplete, and
streams of such messages are read back in any chunks. -/
theorem roundTrip_of_sendable : (∀ m : Message, m.Sendable →
      (∀ rest, decode (m.encode ++ rest) = .ok (m, m.encode.length)) ∧
      ∀ k < m.encode.length, ∃ e, decode (m.encode.take k) = .error e ∧ e.isIncomplete = true) ∧
    ∀ (ms : List Message) (chunks : List (List UInt8)), (∀ m ∈ ms, m.Sendable) →
      chunks.flatten = ms.flatMap encode → chunks.foldl receive ([], []) = (ms, []) := by
  refine ⟨fun m hm => ⟨decode_encode_append hm, fun k hk => decode_take_encode hm hk⟩, ?_⟩
  intro ms chunks hms h
  exact foldl_receive hms chunks stuck_nil h []

/-- Two messages in three chunks, the first of which ends inside a header and the second inside a
text. -/
theorem roundTrip_of_two : (Message.heartbeat 7).Sendable ∧ (Message.authFail "no").Sendable ∧
      decode ((Message.heartbeat 7).encode ++ [1, 2]) =
        .ok (.heartbeat 7, (Message.heartbeat 7).encode.length) ∧
      [[0x30, 0, 0], [0, 8, 0, 0, 0, 0, 0, 0, 0, 7, 0x03, 0, 0, 0, 4, 0, 2, 110], [111]].foldl
        receive ([], []) = ([.heartbeat 7, .authFail "no"], []) := by
  have hbeat : (Message.heartbeat 7).Sendable := ⟨trivial, by decide⟩
  have hfail : (Message.authFail "no").Sendable := ⟨by decide +kernel, by decide +kernel⟩
  refine ⟨hbeat, hfail, (roundTrip_of_sendable.1 _ hbeat).1 [1, 2], ?_⟩
  refine roundTrip_of_sendable.2 _ _ ?_ (by decide +kernel)
  intro m hm
  rcases mem_cons.mp hm with rfl | hm
  · exact hbeat
  · rw [mem_singleton.mp hm]
    exact hfail

lemma length_utf8Bytes_replicate (n : Nat) :
    (utf8Bytes (String.ofList (replicate n 'a'))).length = n := by
  induction n with
  | zero => rfl
  | succ n ih =>
    have hone : "a".utf8ByteSize = 1 := by decide
    have hrest : (replicate n 'a').utf8Encode.size = n := by simpa [utf8Bytes] using ih
    simp [utf8Bytes, replicate_succ, hone, hrest, Nat.add_comm]

/-- A reason of 65530 bytes gives a payload of 65532: no more than `maxMessageSize`, but the
header counts as well. -/
def longReason : Message :=
  .authFail (String.ofList (replicate 65530 'a'))

theorem payload_of_maxMessageSize_refused :
    longReason.Fits ∧ longReason.payload.length ≤ maxMessageSize ∧
      decode longReason.encode = .error (.payloadTooLarge 65532) := by
  have hlength : longReason.payload.length = 65532 := by
    rw [longReason, payload, length_textBytes, length_utf8Bytes_replicate]
  refine ⟨?_, ?_, ?_⟩
  · rw [longReason, Fits, length_utf8Bytes_replicate]
    decide
  · rw [hlength]
    decide
  · rw [encode, frame, hlength, decode_header]
    rfl

end Message

end ZLayer.Tunnel
