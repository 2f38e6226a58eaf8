import ZLayer.Lib.InverseIndex
import ZLayer.Lib.Since
import ZLayer.Overlay.Relay

/-!
# RelayIsolation — whose allocation, and for which peers

An event does one of a few things, each for a reason that can be read off the packet and the tables:
`Effect` lists them.  From it follow what the tables have in common, and where an allocation and its
permissions come from: both were asked for by authenticated messages of the client the allocation
belongs to, which it has belonged to ever since.
-/

namespace ZLayer.Overlay
namespace Relay

open Lib Machine HashMap

section Isolation

variable {computeAuthTag : List UInt8 → List UInt8} {config : Config}

/-! ## What an event can do -/

/-- A control message starts with the byte of its type. -/
lemma head_of_parse {packet payload : List UInt8} {msgType : MsgType}
    (hparse : parseAndVerifyControl computeAuthTag packet = some (msgType, payload)) :
    packet.head?.bind MsgType.fromByte = some msgType := by
  cases packet with
  | nil => simp [parseAndVerifyControl, headerLen] at hparse
  | cons b rest =>
    cases hbyte : MsgType.fromByte b with
    | none => simp [parseAndVerifyControl, hbyte] at hparse
    | some dispatched =>
      unfold parseAndVerifyControl at hparse
      simp only [List.headD_cons, hbyte, Option.ite_none_left_eq_some,
        Option.ite_none_right_eq_some, Option.some.injEq, Prod.mk.injEq] at hparse
      simp [hbyte, hparse]

lemma type_of_parse {packet payload : List UInt8} {msgType dispatched : MsgType}
    (hparse : parseAndVerifyControl computeAuthTag packet = some (msgType, payload))
    (hhead : packet.head?.bind MsgType.fromByte = some dispatched) : msgType = dispatched :=
  Option.some.inj ((head_of_parse hparse).symm.trans hhead)

/-- An authenticated message of the given type about the allocation. -/
structure Authenticated (computeAuthTag : List UInt8 → List UInt8) (packet : List UInt8)
    (msgType : MsgType) (id : AllocationId) (payload : List UInt8) : Prop where
  parsed : parseAndVerifyControl computeAuthTag packet = some (msgType, payload)
  names : allocationIdOf (payload.take 16) = id

/-- What an event does to the tables, what it makes the server send, and why. -/
inductive Effect (computeAuthTag : List UInt8 → List UInt8) (config : Config) (s : State) :
    Event → State → Option Output → Prop
  | nothing (event : Event) : Effect computeAuthTag config s event s none
  | full {source : SocketAddr} {packet payload : List UInt8} {ambient : Ambient}
      (hparse : parseAndVerifyControl computeAuthTag packet = some (.allocateReq, payload))
      (hfull : config.maxSessions ≤ s.allocations.size) :
      Effect computeAuthTag config s (.datagram source packet ambient) s
        (some (allocateErr computeAuthTag source maxSessionsReached))
  | refused {source : SocketAddr} {packet text : List UInt8} {ambient : Ambient}
      (htext : text ∈ [allocationAlreadyExists, relayBindFailed]) :
      Effect computeAuthTag config s (.datagram source packet ambient) s
        (some (allocateErr computeAuthTag source text))
  | allocated {source : SocketAddr} {packet payload message : List UInt8} {ambient : Ambient}
      {port : UInt16}
      (hparse : parseAndVerifyControl computeAuthTag packet = some (.allocateReq, payload))
      (hroom : s.allocations.size < config.maxSessions) (hnew : source ∉ s.clientLookup) :
      Effect computeAuthTag config s (.datagram source packet ambient)
        { allocations := s.allocations.insert ambient.allocationId
            (newAllocation config source ambient.allocationId port ambient.now)
          clientLookup := s.clientLookup.insert source ambient.allocationId }
        (some (.answer source (buildControlMsg computeAuthTag .allocateResp message)))
  | permitted {packet payload message : List UInt8} {ambient : Ambient} {id : AllocationId}
      {alloc : Allocation} {peerAddr : SocketAddr} {consumed : Nat} {permissions : List IpAddr}
      (hauth : Authenticated computeAuthTag packet .permissionReq id payload)
      (halloc : s.allocations[id]? = some alloc)
      (hpeer : decodeAddr (payload.drop 16) = some (peerAddr, consumed))
      (hpermissions : ∀ ip ∈ permissions, ip ∈ alloc.permissions ∨ ip = peerAddr.ip) :
      Effect computeAuthTag config s (.datagram alloc.clientAddr packet ambient)
        { s with allocations := s.allocations.insert id { alloc with permissions } }
        (some (.answer alloc.clientAddr (buildControlMsg computeAuthTag .permissionResp message)))
  | refreshed {packet payload message : List UInt8} {ambient : Ambient} {id : AllocationId}
      {alloc : Allocation} {lifetimeSecs : UInt32}
      (hauth : Authenticated computeAuthTag packet .refreshReq id payload)
      (halloc : s.allocations[id]? = some alloc) :
      Effect computeAuthTag config s (.datagram alloc.clientAddr packet ambient)
        { s with
          allocations := s.allocations.insert id
            { alloc with
              lifetimeSecs
              refreshedAt := ambient.now } }
        (some (.answer alloc.clientAddr (buildControlMsg computeAuthTag .refreshResp message)))
  | deallocated {packet payload : List UInt8} {ambient : Ambient} {id : AllocationId}
      {alloc : Allocation} (hauth : Authenticated computeAuthTag packet .deallocate id payload)
      (halloc : s.allocations[id]? = some alloc) :
      Effect computeAuthTag config s (.datagram alloc.clientAddr packet ambient)
        { allocations := s.allocations.erase id
          clientLookup := s.clientLookup.erase alloc.clientAddr } none
  | sent {source peerAddr : SocketAddr} {packet data : List UInt8} {ambient : Ambient}
      {id : AllocationId} {alloc : Allocation} (hlookup : s.clientLookup[source]? = some id)
      (hdata : parseData packet = some (peerAddr, data)) (halloc : s.allocations[id]? = some alloc)
      (hpermitted : peerAddr.ip ∈ alloc.permissions) :
      Effect computeAuthTag config s (.datagram source packet ambient) s
        (some (.toPeer id peerAddr data))
  | received {id : AllocationId} {peerFrom : SocketAddr} {data : List UInt8} {now : Nat}
      {alloc found : Allocation} (halloc : s.allocations[id]? = some alloc)
      (hrunning : alloc.relayHandle.running) (hfound :
        s.allocations[alloc.relayHandle.allocIdCopy]? = some found)
      (hpermitted : peerFrom.ip ∈ found.permissions) :
      Effect computeAuthTag config s (.peer id peerFrom data now) s
        (some (.toClient id alloc.relayHandle.clientAddr (buildDataMsgTagged peerFrom data)))
  | stopped {id : AllocationId} {alloc : Allocation} (halloc : s.allocations[id]? = some alloc) :
      Effect computeAuthTag config s (.peerError id)
        { s with
          allocations := s.allocations.insert id
            { alloc with relayHandle := { alloc.relayHandle with running := false } } } none

variable {packet : List UInt8}

section

variable (s : State) (source : SocketAddr) (ambient : Ambient)

include s source ambient

lemma effect_handleAllocateReq (hhead : packet.head?.bind MsgType.fromByte = some .allocateReq) :
    Effect computeAuthTag config s (.datagram source packet ambient)
      (handleAllocateReq computeAuthTag config s source packet ambient).1
      (handleAllocateReq computeAuthTag config s source packet ambient).2 := by
  unfold handleAllocateReq
  split
  · exact .nothing _
  next parsed hparse =>
    rcases parsed with ⟨msgType, payload⟩
    cases type_of_parse hparse hhead
    split
    next hfull => exact .full hparse hfull
    next hroom =>
      split
      · exact .refused (by simp)
      next hnew =>
        split
        · exact .refused (by simp)
        · exact .nothing _
        · exact .allocated hparse (Nat.lt_of_not_le hroom) hnew

lemma effect_handlePermissionReq
    (hhead : packet.head?.bind MsgType.fromByte = some .permissionReq) :
    Effect computeAuthTag config s (.datagram source packet ambient)
      (handlePermissionReq computeAuthTag s source packet).1
      (handlePermissionReq computeAuthTag s source packet).2 := by
  unfold handlePermissionReq
  split
  · exact .nothing _
  next msgType payload hparse =>
    cases type_of_parse hparse hhead
    split
    · exact .nothing _
    · dsimp only
      split
      · exact .nothing _
      next peerAddr consumed hpeer =>
        split
        · exact .nothing _
        next alloc halloc =>
          split
          · exact .nothing _
          next howner =>
            cases not_not.mp howner
            refine .permitted ⟨hparse, rfl⟩ halloc hpeer fun ip hip => ?_
            split at hip
            · exact .inl hip
            · simpa using hip

lemma effect_ofOwner {msgType : MsgType} (hhead : packet.head?.bind MsgType.fromByte = some msgType)
    (length : Nat) {next : AllocationId → Allocation → List UInt8 → State × Option Output}
    (hnext : ∀ id alloc payload, Authenticated computeAuthTag packet msgType id payload →
      s.allocations[id]? = some alloc → alloc.clientAddr = source →
        Effect computeAuthTag config s (.datagram source packet ambient) (next id alloc payload).1
          (next id alloc payload).2) :
    Effect computeAuthTag config s (.datagram source packet ambient)
      (ofOwner computeAuthTag s source packet length next).1
      (ofOwner computeAuthTag s source packet length next).2 := by
  unfold ofOwner
  dsimp only
  repeat' split
  case h_2.isFalse payload hparse _ _ alloc halloc howner =>
    cases type_of_parse hparse hhead
    exact hnext _ alloc payload ⟨hparse, rfl⟩ halloc (not_not.mp howner)
  all_goals exact .nothing _

end

lemma effect_handleData (s : State) (source : SocketAddr) (packet : List UInt8)
    (ambient : Ambient) :
    Effect computeAuthTag config s (.datagram source packet ambient)
      (handleData s source packet).1 (handleData s source packet).2 := by
  unfold handleData
  split
  · exact .nothing _
  next id hlookup =>
    split
    · exact .nothing _
    next peerAddr data hdata =>
      split
      · exact .nothing _
      next alloc halloc =>
        split
        next hpermitted => exact .sent hlookup hdata halloc hpermitted
        · exact .nothing _

lemma effect_step (s : State) (event : Event) :
    Effect computeAuthTag config s event (step computeAuthTag config s event).1
      (step computeAuthTag config s event).2 := by
  cases event with
  | datagram source packet ambient =>
    rw [step]
    split
    next hhead => exact effect_handleAllocateReq s source ambient hhead
    next hhead => exact effect_handlePermissionReq s source ambient hhead
    next hhead =>
      refine effect_ofOwner s source ambient hhead _ fun id alloc payload hauth halloc howner => ?_
      exact howner ▸ .refreshed hauth halloc
    next hhead =>
      refine effect_ofOwner s source ambient hhead _ fun id alloc payload hauth halloc howner => ?_
      exact howner ▸ .deallocated hauth halloc
    · exact effect_handleData s source packet ambient
    · exact .nothing _
  | peer id peerFrom data now =>
    rw [step]
    split
    · exact .nothing _
    next alloc halloc =>
      unfold forwardPeer
      split
      · exact .nothing _
      next hrunning =>
        split
        · exact .nothing _
        next found hfound =>
          split
          next hpermitted =>
            exact .received halloc (by simpa using hrunning) hfound hpermitted
          · exact .nothing _
  | peerError id =>
    rw [step]
    split
    · exact .nothing _
    next alloc halloc => exact .stopped halloc

/-! ## The tables -/

def Owns (s : State) (id : AllocationId) (client : SocketAddr) : Prop :=
  ∃ alloc, s.allocations[id]? = some alloc ∧ alloc.clientAddr = client

/-- The number of allocations, and what their tasks were started with. -/
structure Sized (config : Config) (s : State) : Prop where
  size : s.allocations.size ≤ config.maxSessions
  task : ∀ (id : AllocationId) (alloc : Allocation), s.allocations[id]? = some alloc →
    alloc.relayHandle.allocIdCopy = id ∧ alloc.relayHandle.clientAddr = alloc.clientAddr

/-- What the tables have in common. -/
structure Consistent (config : Config) (s : State) : Prop extends Sized config s where
  lookup : Indexes s.clientLookup (Owns s)

/-- The random bytes of a new allocation are not those of another. -/
def Fresh (s : State) : Event → Prop
  | .datagram _ packet ambient =>
    packet.head?.bind MsgType.fromByte = some .allocateReq →
      ambient.allocationId ∉ s.allocations
  | _ => True

instance (s : State) : (event : Event) → Decidable (Fresh s event)
  | .datagram .. => inferInstanceAs (Decidable (_ → _))
  | .peer .. | .peerError .. => isTrue trivial

variable {id : AllocationId}

lemma owns_insert {s : State} {alloc changed : Allocation}
    (halloc : s.allocations[id]? = some alloc) (hclient : changed.clientAddr = alloc.clientAddr)
    (id' : AllocationId) (client : SocketAddr) :
    Owns { s with allocations := s.allocations.insert id changed } id' client ↔
      Owns s id' client := by
  rw [Owns, Owns, lookup_insert]
  split
  next heq =>
    subst heq
    simp [halloc, hclient]
  · rfl

lemma Sized.insert {s : State} (h : Sized config s) {alloc changed : Allocation}
    (halloc : s.allocations[id]? = some alloc) (hclient : changed.clientAddr = alloc.clientAddr)
    (hcopy : changed.relayHandle.allocIdCopy = alloc.relayHandle.allocIdCopy)
    (haddr : changed.relayHandle.clientAddr = alloc.relayHandle.clientAddr) :
    Sized config { s with allocations := s.allocations.insert id changed } where
  size := by
    have hmem : id ∈ s.allocations :=
      Std.ExtTreeMap.mem_iff_isSome_getElem?.mpr (by rw [halloc]; rfl)
    rw [Std.ExtTreeMap.size_insert, if_pos (Std.ExtTreeMap.contains_iff_mem.mpr hmem)]
    exact h.size
  task id' alloc' halloc' := by
    rcases of_lookup_insert halloc' with ⟨rfl, rfl⟩ | ⟨-, hold⟩
    · rw [hcopy, haddr, hclient]
      exact h.task id alloc halloc
    · exact h.task id' alloc' hold

variable {out : Option Output} {event : Event} {s s' : State}

lemma Effect.sized (h : Effect computeAuthTag config s event s' out) (hs : Sized config s) :
    Sized config s' := by
  cases h with
  | nothing | full | refused | sent | received => exact hs
  | allocated hparse hroom hnew =>
    refine ⟨(Std.ExtTreeMap.size_insert_le).trans hroom, fun id _ halloc => ?_⟩
    rcases of_lookup_insert halloc with ⟨heq, rfl⟩ | ⟨-, hold⟩
    · exact ⟨heq, rfl⟩
    · exact hs.task id _ hold
  | permitted _ halloc | refreshed _ halloc | stopped halloc => exact hs.insert halloc rfl rfl rfl
  | deallocated hauth halloc =>
    exact ⟨(Std.ExtTreeMap.size_erase_le).trans hs.size, fun id alloc halloc =>
      hs.task id alloc (of_lookup_erase halloc).2⟩

lemma sized_new (config : Config) : Sized config State.new where
  size := Nat.zero_le _
  task id _ halloc := nomatch (Std.ExtTreeMap.getElem?_empty (a := id)).symm.trans halloc

variable {alloc : Allocation}

lemma Consistent.lookup_allocate {s : State} (h : Consistent config s) {source : SocketAddr}
    (hclient : alloc.clientAddr = source) (hfresh : id ∉ s.allocations)
    (hnew : source ∉ s.clientLookup) :
    Indexes (s.clientLookup.insert source id)
      (Owns ⟨s.allocations.insert id alloc, s.clientLookup.insert source id⟩) := by
  have hnone : s.allocations[id]? = none := Std.ExtTreeMap.getElem?_eq_none hfresh
  refine (h.lookup.insert hnew id).congr fun id' client => ?_
  rw [Owns, Owns, lookup_insert]
  by_cases hid : id = id'
  · subst hid
    simp [hnone, hclient, eq_comm]
  · simp [hid, Ne.symm hid]

lemma Consistent.lookup_deallocate {s : State} (h : Consistent config s)
    (halloc : s.allocations[id]? = some alloc) :
    Indexes (s.clientLookup.erase alloc.clientAddr)
      (Owns ⟨s.allocations.erase id, s.clientLookup.erase alloc.clientAddr⟩) := by
  refine (h.lookup.erase alloc.clientAddr).congr fun id' client => ?_
  rw [Owns, Owns, lookup_erase]
  by_cases hid : id = id'
  · subst hid
    simp only [halloc, if_true]
    constructor
    · rintro ⟨⟨other, ⟨⟩, rfl⟩, hne⟩
      exact absurd rfl hne
    · rintro ⟨other, ⟨⟩, -⟩
  · rw [if_neg hid]
    -- another allocation of the same client would be the same one
    refine and_iff_left_of_imp fun howns => ?_
    rintro rfl
    exact hid (h.lookup.unique ⟨alloc, halloc, rfl⟩ howns)

lemma Effect.consistent (h : Effect computeAuthTag config s event s' out)
    (hs : Consistent config s) (hfresh : Fresh s event) : Consistent config s' := by
  refine ⟨h.sized hs.toSized, ?_⟩
  cases h with
  | nothing | full | refused | sent | received => exact hs.lookup
  | allocated hparse hroom hnew =>
    exact hs.lookup_allocate rfl (hfresh (head_of_parse hparse)) hnew
  | permitted _ halloc | refreshed _ halloc | stopped halloc =>
    exact hs.lookup.congr fun id client => (owns_insert halloc (by rfl) id client).symm
  | deallocated hauth halloc => exact hs.lookup_deallocate halloc

lemma consistent_new (config : Config) : Consistent config State.new where
  toSized := sized_new config
  lookup := Indexes.empty fun id _ ⟨_, halloc, _⟩ =>
    nomatch (Std.ExtTreeMap.getElem?_empty (a := id)).symm.trans halloc

/-! ## Where an allocation and its permissions come from -/

/-- The event is an authenticated request of the client for the allocation. -/
def Creates (computeAuthTag : List UInt8 → List UInt8) (id : AllocationId) (client : SocketAddr)
    (event : Event) : Prop :=
  ∃ packet ambient payload, event = .datagram client packet ambient ∧
    parseAndVerifyControl computeAuthTag packet = some (.allocateReq, payload) ∧
    ambient.allocationId = id

/-- The event is an authenticated request of the client to permit the address. -/
def Permits (computeAuthTag : List UInt8 → List UInt8) (id : AllocationId) (client : SocketAddr)
    (ip : IpAddr) (event : Event) : Prop :=
  ∃ packet ambient payload peerAddr consumed, event = .datagram client packet ambient ∧
    Authenticated computeAuthTag packet .permissionReq id payload ∧
    decodeAddr (payload.drop 16) = some (peerAddr, consumed) ∧ peerAddr.ip = ip

lemma Effect.creates (h : Effect computeAuthTag config s event s' out) {client : SocketAddr}
    (howns : Owns s' id client) : Owns s id client ∨ Creates computeAuthTag id client event := by
  cases h with
  | nothing | full | refused | sent | received => exact .inl howns
  | @allocated source packet payload message ambient port hparse hroom hnew =>
    rcases howns with ⟨alloc, halloc, rfl⟩
    rcases of_lookup_insert halloc with ⟨heq, rfl⟩ | ⟨-, hold⟩
    · exact .inr ⟨packet, ambient, payload, rfl, hparse, heq⟩
    · exact .inl ⟨alloc, hold, rfl⟩
  | permitted _ halloc | refreshed _ halloc | stopped halloc =>
    refine .inl ((owns_insert halloc ?_ id client).mp howns)
    rfl
  | deallocated hauth halloc =>
    rcases howns with ⟨alloc, halloc, hclient⟩
    exact .inl ⟨alloc, (of_lookup_erase halloc).2, hclient⟩

/-- A permission of the allocation after the event was one before, or the event asks for it. -/
lemma Effect.permits (h : Effect computeAuthTag config s event s' out) {alloc' : Allocation}
    (halloc' : s'.allocations[id]? = some alloc') {ip : IpAddr} (hip : ip ∈ alloc'.permissions) :
    (∃ alloc, s.allocations[id]? = some alloc ∧ alloc.clientAddr = alloc'.clientAddr ∧
      ip ∈ alloc.permissions) ∨ Permits computeAuthTag id alloc'.clientAddr ip event := by
  cases h with
  | nothing | full | refused | sent | received => exact .inl ⟨alloc', halloc', rfl, hip⟩
  | allocated =>
    rcases of_lookup_insert halloc' with ⟨-, rfl⟩ | ⟨-, hold⟩
    · cases hip
    · exact .inl ⟨alloc', hold, rfl, hip⟩
  | @permitted packet payload message ambient _ alloc peerAddr consumed permissions hauth halloc
      hpeer hpermissions =>
    rcases of_lookup_insert halloc' with ⟨rfl, rfl⟩ | ⟨-, hold⟩
    · rcases hpermissions ip hip with hold | hnew
      · exact .inl ⟨alloc, halloc, rfl, hold⟩
      · exact .inr ⟨packet, ambient, payload, peerAddr, consumed, rfl, hauth, hpeer, hnew.symm⟩
    · exact .inl ⟨alloc', hold, rfl, hip⟩
  | deallocated => exact .inl ⟨alloc', (of_lookup_erase halloc').2, rfl, hip⟩
  | refreshed _ halloc | stopped halloc =>
    rcases of_lookup_insert halloc' with ⟨rfl, rfl⟩ | ⟨-, hold⟩
    · exact .inl ⟨_, halloc, rfl, hip⟩
    · exact .inl ⟨alloc', hold, rfl, hip⟩

/-! ## Whole runs -/

def stateAfter (computeAuthTag : List UInt8 → List UInt8) (config : Config) (events : List Event) :
    State :=
  events.foldl (next computeAuthTag config) State.new

/-- The client asked for the allocation, and it has been the client's ever since. -/
def CreatedBy (computeAuthTag : List UInt8 → List UInt8) (config : Config) (events : List Event)
    (id : AllocationId) (client : SocketAddr) : Prop :=
  Since (next computeAuthTag config) (fun _ => Creates computeAuthTag id client)
    (fun s => Owns s id client) State.new events

/-- The client asked to permit the address, and the allocation has been the client's ever since. -/
def PermittedBy (computeAuthTag : List UInt8 → List UInt8) (config : Config) (events : List Event)
    (id : AllocationId) (client : SocketAddr) (ip : IpAddr) : Prop :=
  Since (next computeAuthTag config) (fun _ => Permits computeAuthTag id client ip)
    (fun s => Owns s id client) State.new events

structure Traced (computeAuthTag : List UInt8 → List UInt8) (config : Config) (events : List Event)
    (s : State) : Prop where
  consistent : Consistent config s
  created : ∀ id client, Owns s id client → CreatedBy computeAuthTag config events id client
  permitted : ∀ (id : AllocationId) (alloc : Allocation), s.allocations[id]? = some alloc →
    ∀ ip ∈ alloc.permissions, PermittedBy computeAuthTag config events id alloc.clientAddr ip

variable {events : List Event}

lemma Traced.snoc
    (h : Traced computeAuthTag config events (stateAfter computeAuthTag config events))
    (hfresh : Fresh (stateAfter computeAuthTag config events) event) :
    Traced computeAuthTag config (events ++ [event])
      (next computeAuthTag config (stateAfter computeAuthTag config events) event) := by
  have heffect : Effect computeAuthTag config _ event _ _ :=
    effect_step (stateAfter computeAuthTag config events) event
  have hafter : (events ++ [event]).foldl (next computeAuthTag config) State.new =
      next computeAuthTag config (stateAfter computeAuthTag config events) event :=
    List.foldl_concat ..
  refine ⟨heffect.consistent h.consistent hfresh, fun id client howns => ?_,
    fun id alloc' halloc' ip hip => ?_⟩
  · rcases heffect.creates howns with hbefore | hcreates
    · exact (h.created id client hbefore).snoc (hafter ▸ howns)
    · exact Since.now hcreates (hafter ▸ howns)
  · have howns : Owns _ id alloc'.clientAddr := ⟨alloc', halloc', rfl⟩
    rcases heffect.permits halloc' hip with ⟨alloc, halloc, hclient, hbefore⟩ | hpermits
    · have hold := h.permitted id alloc halloc ip hbefore
      rw [hclient] at hold
      exact hold.snoc (hafter ▸ howns)
    · exact Since.now hpermits (hafter ▸ howns)

lemma traced_stateAfter (hfresh : Along (next computeAuthTag config) Fresh State.new events) :
    Traced computeAuthTag config events (stateAfter computeAuthTag config events) := by
  refine hfresh.history ⟨consistent_new config, fun id client howns => ?_, ?_⟩
    fun _ _ hfresh h => h.snoc hfresh
  · rcases howns with ⟨alloc, halloc, -⟩
    exact nomatch (Std.ExtTreeMap.getElem?_empty (a := id)).symm.trans halloc
  · intro id alloc halloc
    exact nomatch (Std.ExtTreeMap.getElem?_empty (a := id)).symm.trans halloc

/-- The allocation is there with the lifetime and the permissions it had. -/
def Kept (s : State) (id : AllocationId) (alloc : Allocation) : Prop :=
  ∃ alloc', s.allocations[id]? = some alloc' ∧ alloc'.clientAddr = alloc.clientAddr ∧
    alloc'.permissions = alloc.permissions ∧ alloc'.lifetimeSecs = alloc.lifetimeSecs ∧
    alloc'.refreshedAt = alloc.refreshedAt

/-- An allocation that is refreshed, given a permission or removed, is so by a message of its
client. -/
lemma Effect.kept (h : Effect computeAuthTag config s event s' out) (hfresh : Fresh s event)
    (halloc : s.allocations[id]? = some alloc) :
    Kept s' id alloc ∨ ∃ packet ambient msgType payload,
      event = .datagram alloc.clientAddr packet ambient ∧
      msgType ∈ [MsgType.permissionReq, .refreshReq, .deallocate] ∧
      Authenticated computeAuthTag packet msgType id payload := by
  have hsame {m : HashMap AllocationId Allocation} {lookup : HashMap SocketAddr AllocationId}
      (hm : m[id]? = some alloc) : Kept ⟨m, lookup⟩ id alloc := ⟨alloc, hm, rfl, rfl, rfl, rfl⟩
  cases h with
  | nothing | full | refused | sent | received => exact .inl (hsame halloc)
  | @allocated source packet payload message ambient port hparse hroom hnew =>
    have hne : ambient.allocationId ≠ id := by
      rintro rfl
      refine hfresh (head_of_parse hparse) ?_
      exact Std.ExtTreeMap.mem_iff_isSome_getElem?.mpr (by rw [halloc]; rfl)
    exact .inl (hsame (by rw [lookup_insert_of_ne _ _ hne, halloc]))
  | @permitted packet payload _ ambient id' _ _ _ _ hauth halloc'
  | @refreshed packet payload _ ambient id' _ _ hauth halloc' =>
    by_cases hid : id' = id
    · subst hid
      cases halloc.symm.trans halloc'
      exact .inr ⟨packet, ambient, _, payload, rfl, by simp, hauth⟩
    · exact .inl (hsame (by rw [lookup_insert_of_ne _ _ hid, halloc]))
  | @deallocated packet payload ambient id' alloc' hauth halloc' =>
    by_cases hid : id' = id
    · subst hid
      cases halloc.symm.trans halloc'
      exact .inr ⟨packet, ambient, _, payload, rfl, by simp, hauth⟩
    · exact .inl (hsame (by rw [lookup_erase_of_ne _ hid, halloc]))
  | @stopped id' alloc' halloc' =>
    by_cases hid : id' = id
    · subst hid
      cases halloc.symm.trans halloc'
      exact .inl ⟨_, Std.ExtTreeMap.getElem?_insert_self, rfl, rfl, rfl, rfl⟩
    · exact .inl (hsame (by rw [lookup_insert_of_ne _ _ hid, halloc]))

structure Isolated (computeAuthTag : List UInt8 → List UInt8) (config : Config)
    (events : List Event) (event : Event) (s : State) : Prop where
  /-- The two tables are inverse by client address. -/
  inverse : ∀ (client : SocketAddr) (id : AllocationId),
    s.clientLookup[client]? = some id ↔ Owns s id client
  bounded : s.allocations.size ≤ config.maxSessions
  created : ∀ id client, Owns s id client → CreatedBy computeAuthTag config events id client
  /-- Only an authenticated message of its client changes or removes an allocation. -/
  changed : ∀ (id : AllocationId) (alloc : Allocation), s.allocations[id]? = some alloc →
    Kept (step computeAuthTag config s event).1 id alloc ∨ ∃ packet ambient msgType payload,
      event = .datagram alloc.clientAddr packet ambient ∧
      msgType ∈ [MsgType.permissionReq, .refreshReq, .deallocate] ∧
      Authenticated computeAuthTag packet msgType id payload
  /-- What leaves a relay socket was sent by the client, to a peer the client has permitted. -/
  sent : ∀ id peerAddr data,
    (step computeAuthTag config s event).2 = some (.toPeer id peerAddr data) →
    ∃ client packet ambient, Owns s id client ∧ event = .datagram client packet ambient ∧
      parseData packet = some (peerAddr, data) ∧
      PermittedBy computeAuthTag config events id client peerAddr.ip
  /-- What a client is passed was sent to its relay socket by a peer it has permitted. -/
  received : ∀ id client message,
    (step computeAuthTag config s event).2 = some (.toClient id client message) →
    ∃ peerFrom data now, Owns s id client ∧ event = .peer id peerFrom data now ∧
      message = buildDataMsgTagged peerFrom data ∧
      PermittedBy computeAuthTag config events id client peerFrom.ip

/-- Every run of the server keeps its clients apart. -/
theorem relay_isolated (computeAuthTag : List UInt8 → List UInt8) (config : Config)
    (events : List Event) (event : Event)
    (hfresh : Along (next computeAuthTag config) Fresh State.new (events ++ [event])) :
    Isolated computeAuthTag config events event (stateAfter computeAuthTag config events) := by
  rw [along_append] at hfresh
  have htraced := traced_stateAfter hfresh.1
  have hconsistent := htraced.consistent
  generalize hs : stateAfter computeAuthTag config events = s at htraced hconsistent
  have heffect : Effect computeAuthTag config s event _ _ := effect_step s event
  have hdrawn : Fresh s event := hs ▸ hfresh.2.1
  refine ⟨hconsistent.lookup, hconsistent.size, htraced.created,
    fun id alloc halloc => heffect.kept hdrawn halloc, fun id peerAddr data hout => ?_,
    fun id client message hout => ?_⟩
  · rw [hout] at heffect
    generalize (step computeAuthTag config s event).1 = s' at heffect
    cases heffect with
    | @sent source _ packet _ ambient _ alloc hlookup hdata halloc hpermitted =>
      rcases (hconsistent.lookup source id).mp hlookup with ⟨owned, howned, rfl⟩
      cases halloc.symm.trans howned
      exact ⟨_, packet, ambient, ⟨alloc, halloc, rfl⟩, rfl, hdata,
        htraced.permitted id alloc halloc _ hpermitted⟩
  · rw [hout] at heffect
    generalize (step computeAuthTag config s event).1 = s' at heffect
    cases heffect with
    | @received _ peerFrom data now alloc found halloc hrunning hfound hpermitted =>
      rcases hconsistent.task id alloc halloc with ⟨hcopy, hclient⟩
      rw [hcopy, halloc] at hfound
      cases hfound
      rw [hclient]
      exact ⟨peerFrom, data, now, ⟨alloc, halloc, rfl⟩, rfl, rfl,
        htraced.permitted id alloc halloc _ hpermitted⟩

end Isolation

/-! ## A client that asks, permits and sends -/

def exampleConfig : Config :=
  { externalAddr := ⟨.v4 0x01020304, 3478⟩
    maxSessions := 1 }

def exampleClient : SocketAddr := ⟨.v4 0x0a000001, 5000⟩

def examplePeer : SocketAddr := ⟨.v4 0x0a000002, 51820⟩

def exampleTag (_ : List UInt8) : List UInt8 := List.replicate authTagLen 0

def exampleAmbient (now : Nat) : Ambient :=
  { now
    allocationId := 7
    relaySocket := .bound 40000 }

def askEvent : Event :=
  .datagram exampleClient (buildControlMsg exampleTag .allocateReq [0]) (exampleAmbient 0)

def permitEvent : Event :=
  .datagram exampleClient
    (buildControlMsg exampleTag .permissionReq (BigEndian.toBe 16 7 ++ encodeAddr examplePeer))
    (exampleAmbient 1)

def sendEvent (now : Nat) : Event :=
  .datagram exampleClient (buildDataMsgTagged examplePeer [1, 2, 3]) (exampleAmbient now)

theorem relay_isolated_exampleClient :
    Isolated exampleTag exampleConfig [askEvent, permitEvent] (sendEvent 2)
      (stateAfter exampleTag exampleConfig [askEvent, permitEvent]) ∧
    (step exampleTag exampleConfig (stateAfter exampleTag exampleConfig [askEvent, permitEvent])
      (sendEvent 2)).2 = some (.toPeer 7 examplePeer [1, 2, 3]) :=
  ⟨relay_isolated exampleTag exampleConfig _ _ (by decide +kernel), by decide +kernel⟩

end Relay
end ZLayer.Overlay
