import ZLayer.Overlay.RelayIsolation

/-!
# RelayLifetime — allocations that have outlived their lifetime

An allocation is granted for a number of seconds, and a refresh grants it anew.  Nothing in the
server looks at the time that is left: an allocation that nobody gives back stays in the table,
relays on and counts as a session.  So lifetimes are honoured exactly in the runs in which clients
and peers stop in time by themselves.
-/

namespace ZLayer.Overlay
namespace Relay

open Lib Machine HashMap

section Lifetime

variable {computeAuthTag : List UInt8 → List UInt8} {config : Config}

/-- The last allocate or refresh is more than the granted lifetime ago. -/
def Allocation.Expired (alloc : Allocation) (now : Nat) : Prop :=
  alloc.refreshedAt + alloc.lifetimeSecs.toNat * 10 ^ 9 < now

instance (alloc : Allocation) (now : Nat) : Decidable (alloc.Expired now) := Nat.decLt ..

def liveSessions (s : State) (now : Nat) : Nat :=
  (entries s.allocations).countP fun entry => ¬ entry.2.Expired now

def Event.now : Event → Nat
  | .datagram _ _ ambient => ambient.now
  | .peer _ _ _ now => now
  | .peerError _ => 0

/-- What the server sends in answer to an event honours the lifetimes. -/
structure Honours (computeAuthTag : List UInt8 → List UInt8) (config : Config) (s : State)
    (event : Event) : Prop where
  sent : ∀ id peerAddr data,
    (step computeAuthTag config s event).2 = some (.toPeer id peerAddr data) →
    ∀ alloc, s.allocations[id]? = some alloc → ¬ alloc.Expired event.now
  received : ∀ id client message,
    (step computeAuthTag config s event).2 = some (.toClient id client message) →
    ∀ alloc, s.allocations[id]? = some alloc → ¬ alloc.Expired event.now
  /-- A client is refused only if so many allocations are within their lifetime. -/
  refused : ∀ client,
    (step computeAuthTag config s event).2 =
      some (allocateErr computeAuthTag client maxSessionsReached) →
    config.maxSessions ≤ liveSessions s event.now

/-- Clients and peers stop in time: no data for a permitted peer comes from a client whose
allocation has expired, and none from a permitted peer for such an allocation; and no client asks
for an allocation when the table is full and one of its allocations has expired. -/
def InTime (computeAuthTag : List UInt8 → List UInt8) (config : Config) (s : State) : Event → Prop
  | .datagram source packet ambient =>
    (∀ id ∈ s.clientLookup[source]?, ∀ alloc ∈ s.allocations[id]?, ∀ data ∈ parseData packet,
      data.1.ip ∈ alloc.permissions → ¬ alloc.Expired ambient.now) ∧
    ∀ message ∈ parseAndVerifyControl computeAuthTag packet, message.1 = .allocateReq →
      config.maxSessions ≤ s.allocations.size →
      ∀ (id : AllocationId) (alloc : Allocation), s.allocations[id]? = some alloc →
        ¬ alloc.Expired ambient.now
  | .peer id peerFrom _ now =>
    ∀ alloc ∈ s.allocations[id]?, alloc.relayHandle.running → peerFrom.ip ∈ alloc.permissions →
      ¬ alloc.Expired now
  | .peerError _ => True

/-! ## The messages -/

lemma MsgType.toByte_injective : Function.Injective MsgType.toByte := by
  intro a b h
  cases a <;> cases b <;> first | rfl | exact absurd h (by decide)

/-- Control messages that are the same have the same type and payloads of one length. -/
lemma type_and_length_of_buildControlMsg {msgType msgType' : MsgType}
    {payload payload' : List UInt8}
    (h : buildControlMsg computeAuthTag msgType payload =
      buildControlMsg computeAuthTag msgType' payload') :
    msgType = msgType' ∧
      BigEndian.toBe 2 payload.length = BigEndian.toBe 2 payload'.length := by
  simp only [buildControlMsg, List.cons_append, List.append_assoc, List.cons.injEq] at h
  refine ⟨MsgType.toByte_injective h.1, ?_⟩
  exact (List.append_inj h.2 (by simp)).1

variable {data : SocketAddr × List UInt8} {packet : List UInt8}

lemma parseData_head (h : parseData packet = some data) :
    packet.head?.bind MsgType.fromByte = some .data := by
  unfold parseData at h
  split at h
  next payload hparse =>
    unfold parseMsg at hparse
    cases packet with
    | nil => simp [headerLen] at hparse
    | cons b rest =>
      split at hparse
      · cases hparse
      · split at hparse
        · cases hparse
        next msgType hbyte =>
          dsimp only at hparse
          generalize (if msgType = .data then _ else _) = expected at hparse
          split at hparse
          · cases hparse
          · cases hparse
            exact hbyte
  · cases h

/-! ## One event -/

variable {s : State} {source : SocketAddr} {alloc : Allocation} {ambient : Ambient}
  {id : AllocationId}

/-- A full table with an expired allocation has fewer live sessions than are allowed. -/
lemma live_iff (hs : Sized config s) {now : Nat}
    (hfull : config.maxSessions ≤ s.allocations.size) :
    config.maxSessions ≤ liveSessions s now ↔
      ∀ (id : AllocationId) (alloc : Allocation), s.allocations[id]? = some alloc →
        ¬ alloc.Expired now := by
  have hlength : (entries s.allocations).length = config.maxSessions := by
    rw [Std.ExtTreeMap.length_toList]
    exact Nat.le_antisymm hs.size hfull
  rw [liveSessions, ← hlength, List.countP_le_length.ge_iff_eq, List.countP_eq_length]
  constructor
  · intro hlive id alloc halloc
    exact of_decide_eq_true (hlive (id, alloc) ((mem_entries _).mpr halloc))
  · rintro hlive ⟨id, alloc⟩ hentry
    exact decide_eq_true (hlive id alloc ((mem_entries _).mp hentry))

variable {event : Event}

lemma inTime_of_honours (hs : Sized config s) (h : Honours computeAuthTag config s event) :
    InTime computeAuthTag config s event := by
  cases event with
  | datagram source packet ambient =>
    refine ⟨fun id hlookup alloc halloc data hdata hpermitted => ?_, ?_⟩
    · refine h.sent id data.1 data.2 ?_ alloc halloc
      rw [Option.mem_def] at hlookup halloc hdata
      rw [step, parseData_head hdata]
      simp only [handleData, hlookup, hdata, halloc, if_pos hpermitted]
    · rintro ⟨msgType, payload⟩ hparse rfl hfull
      refine (live_iff hs hfull).mp (h.refused source ?_)
      rw [Option.mem_def] at hparse
      rw [step, head_of_parse hparse]
      simp only [handleAllocateReq, hparse, if_pos hfull]
  | peer id peerFrom data now =>
    intro alloc halloc hrunning hpermitted
    rcases hs.task id alloc halloc with ⟨hcopy, hclient⟩
    refine h.received id alloc.clientAddr (buildDataMsgTagged peerFrom data) ?_ alloc halloc
    rw [Option.mem_def] at halloc
    simp [step, halloc, forwardPeer, hrunning, hcopy, hpermitted, hclient]
  | peerError id => trivial

lemma honours_of_inTime (hs : Sized config s) (h : InTime computeAuthTag config s event) :
    Honours computeAuthTag config s event := by
  have heffect : Effect computeAuthTag config s event _ _ := effect_step s event
  generalize (step computeAuthTag config s event).1 = s' at heffect
  refine ⟨fun id peerAddr data hout alloc halloc => ?_,
    fun id client message hout alloc halloc => ?_,
    fun client hout => ?_⟩
  · rw [hout] at heffect
    cases heffect with
    | sent hlookup hdata halloc' hpermitted =>
      cases halloc.symm.trans halloc'
      exact h.1 id hlookup alloc halloc _ hdata hpermitted
  · rw [hout] at heffect
    cases heffect with
    | received halloc' hrunning hfound hpermitted =>
      cases halloc.symm.trans halloc'
      rw [(hs.task id alloc halloc).1, halloc] at hfound
      cases hfound
      exact h alloc halloc hrunning hpermitted
  · rw [hout, allocateErr] at heffect
    generalize hmessage : buildControlMsg computeAuthTag .allocateErr maxSessionsReached = message
      at heffect
    cases heffect with
    | full hparse hfull => exact (live_iff hs hfull).mpr (h.2 _ hparse rfl hfull)
    | refused htext =>
      have hlength := (type_and_length_of_buildControlMsg hmessage).2
      simp only [List.mem_cons, List.not_mem_nil, or_false] at htext
      rcases htext with rfl | rfl <;> exact absurd hlength (by decide +kernel)
    | allocated | permitted | refreshed =>
      exact nomatch (type_and_length_of_buildControlMsg hmessage).1

/-- Lifetimes are honoured exactly in the runs in which clients and peers stop in time. -/
theorem lifetimes_honoured_iff (computeAuthTag : List UInt8 → List UInt8) (config : Config)
    (events : List Event) :
    Along (next computeAuthTag config) (Honours computeAuthTag config) State.new events ↔
      Along (next computeAuthTag config) (InTime computeAuthTag config) State.new events := by
  refine along_congr (I := Sized config) (fun s event hs => ?_) (fun s event hs => ?_) events
    (sized_new config)
  · exact (effect_step s event).sized hs
  · exact ⟨inTime_of_honours hs, honours_of_inTime hs⟩

end Lifetime

/-! ## A client that vanishes, and one that does not stop -/

/-- A nanosecond after the lifetime of an allocation made at the beginning. -/
def afterLifetime : Nat := defaultLifetimeSecs.toNat * 10 ^ 9 + 1

def secondAskEvent (now : Nat) : Event :=
  .datagram examplePeer (buildControlMsg exampleTag .allocateReq [0])
    { now
      allocationId := 8
      relaySocket := .bound 40001 }

/-- Data is relayed for an allocation that has expired, and a new client is refused on its
account. -/
theorem expired_allocation_counts :
    ¬ Along (next exampleTag exampleConfig) (Honours exampleTag exampleConfig) State.new
      [askEvent, permitEvent, sendEvent afterLifetime] ∧
    ¬ Along (next exampleTag exampleConfig) (Honours exampleTag exampleConfig) State.new
      [askEvent, secondAskEvent afterLifetime] := by
  constructor
  · rintro ⟨-, -, hhonours, -⟩
    have halloc : ∃ alloc ∈ (stateAfter exampleTag exampleConfig
        [askEvent, permitEvent]).allocations[(7 : AllocationId)]?,
        alloc.Expired afterLifetime := by decide +kernel
    rcases halloc with ⟨alloc, halloc, hexpired⟩
    exact hhonours.sent 7 examplePeer [1, 2, 3] (by decide +kernel) alloc halloc hexpired
  · rintro ⟨-, hhonours, -⟩
    have hlive : exampleConfig.maxSessions ≤
        liveSessions (stateAfter exampleTag exampleConfig [askEvent]) afterLifetime :=
      hhonours.refused examplePeer (by decide +kernel)
    exact absurd hlive (by decide +kernel)

end Relay
end ZLayer.Overlay
