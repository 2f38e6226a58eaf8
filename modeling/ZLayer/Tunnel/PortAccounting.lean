import ZLayer.Lib.Ownership
import ZLayer.Tunnel.ConcurrentRegistry
import ZLayer.Tunnel.RegistryConsistency

/-!
# PortAccounting — ports and tokens of concurrent calls

In every state a used port has one holder: a service of a tunnel that is in the map, or of one that
a call is about to clear, or a call that has taken the port and not yet passed it to a service, or
that has taken it from one and not yet given it back.  Two accesses break this when another call
comes between a check and the change it is for.
-/

namespace ZLayer.Tunnel
namespace Concurrent

open Lib TunnelRegistry HashMap List

/-! ## What a call holds -/

namespace Progress

/-- The port that no service has yet, or no longer. -/
def port : Progress → Option UInt16
  | .addByPort _ _ port | .addInsert _ _ port | .removeByPort port | .removeRelease port =>
    some port
  | _ => none

def unregisters : Progress → Option Uuid
  | .unregisterToken tunnelId _ | .unregisterLock tunnelId | .unregisterServices tunnelId _ _ =>
    some tunnelId
  | _ => none

def uses : Progress → Option Uuid
  | .addAllocate service => some service.tunnelId
  | .addByPort tunnelId _ _ | .addInsert tunnelId _ _ | .removeService tunnelId _ => some tunnelId
  | _ => none

/-- The token that the call has not found, and has still to put into the map. -/
def registering : Progress → Option String
  | .registerToken tunnel => some tunnel.tokenHash
  | _ => none

/-- The service is one that the call has still to clear. -/
def Clears (tunnelId serviceId : Uuid) : Progress → Prop
  | .unregisterToken id _ | .unregisterLock id => id = tunnelId
  | .unregisterServices id _ visited => id = tunnelId ∧ serviceId ∉ visited
  | _ => False

/-- What the arguments of an access have in common with the code before it. -/
def WellFormed (objects : HashMap Uuid ServerTunnel) : Progress → Prop
  | .registerToken tunnel | .registerTunnel tunnel => tunnel.services = ∅
  | .addByPort _ service port | .addInsert _ service port => service.assignedPort = some port
  | .unregisterServices tunnelId due _ =>
    ∀ tunnel, objects[tunnelId]? = some tunnel → ∀ id ∈ tunnel.services, id ∈ due
  | _ => True

/-- What the map of tokens has for a tunnel on its way into the maps, or out of them. -/
def TokenFits (s : State) : Progress → Prop
  | .registerToken tunnel => tunnel.tokenHash ∉ s.tunnelsByToken
  | .registerTunnel tunnel =>
    tunnel.id ∉ s.objects → s.tunnelsByToken[tunnel.tokenHash]? = some tunnel.id
  | .unregisterToken tunnelId tokenHash => s.tunnelsByToken[tokenHash]? = some tunnelId
  | _ => True

lemma unregisters_of_clears {q : Progress} {tunnelId serviceId : Uuid}
    (h : q.Clears tunnelId serviceId) : q.unregisters = some tunnelId := by
  cases q with
  | unregisterToken | unregisterLock => exact congrArg some h
  | unregisterServices => exact congrArg some h.1
  | _ => cases h

end Progress

/-- A part of the next access of a call. -/
def callHas {α : Type} (s : State) (part : Progress → Option α) (c : Nat) (a : α) : Prop :=
  (s.calls[c]?).bind part = some a

def CallClears (s : State) (c : Nat) (tunnelId serviceId : Uuid) : Prop :=
  ∃ q : Progress, s.calls[c]? = some q ∧ q.Clears tunnelId serviceId

inductive Holder
  | service (tunnelId serviceId : Uuid)
  | call (c : Nat)
  deriving DecidableEq

/-- The services of the tunnel count: it is in the map, or a call has still to clear them. -/
def Counted (s : State) (tunnelId serviceId : Uuid) : Prop :=
  tunnelId ∈ s.tunnels ∨ ∃ c, CallClears s c tunnelId serviceId

def ServedBy (s : State) (tunnelId serviceId : Uuid) (port : UInt16) : Prop :=
  ∃ tunnel, s.objects[tunnelId]? = some tunnel ∧ Serves tunnel serviceId port

def Holds (s : State) : Holder → UInt16 → Prop
  | .service tunnelId serviceId, port =>
    Counted s tunnelId serviceId ∧ ServedBy s tunnelId serviceId port
  | .call c, port => callHas s Progress.port c port

def PortsHeld (s : State) : Prop :=
  Accounts (fun port => port ∈ s.portPool.usedPorts) (Holds s)

/-- The map of tokens has the tunnel under its token. -/
def Listed (s : State) (id : Uuid) : Prop :=
  ∃ tunnel, s.objects[id]? = some tunnel ∧ s.tunnelsByToken[tunnel.tokenHash]? = some id

/-- What an access of a call may rely on. -/
structure Lawful (s : State) (q : Progress) : Prop where
  wellFormed : q.WellFormed s.objects
  token : q.TokenFits s
  uses : ∀ id, q.uses = some id → id ∈ s.tunnels
  unregisters : ∀ id, q.unregisters = some id → id ∉ s.tunnels ∧ id ∈ s.objects

structure Sound (s : State) : Prop where
  ports : PortsHeld s
  listed : ∀ id ∈ s.tunnels, Listed s id
  lawful : ∀ (c : Nat) (q : Progress), s.calls[c]? = some q → Lawful s q
  unregisters : Exclusive (callHas s Progress.unregisters)
  registering : Exclusive (callHas s Progress.registering)

variable {s : State}

/-! ## Steps of one call -/

section Update

variable {s s' : State} {c : Nat} {q : Progress} {new : Option Progress}

/-- One call has gone on or returned. -/
def Changed (s s' : State) (c : Nat) (new : Option Progress) : Prop :=
  ∀ c' : Nat, s'.calls[c']? = if c = c' then new else s.calls[c']?

lemma changed_goOn (s : State) (c : Nat) (q : Progress) : Changed s (s.goOn c q) c (some q) :=
  fun _ => lookup_insert _ _ _ _

lemma changed_leave (s : State) (c : Nat) : Changed s (s.leave c) c none :=
  fun _ => lookup_erase _ _ _

lemma Changed.callHas_iff (h : Changed s s' c new) {α : Type} (part : Progress → Option α)
    (c' : Nat) (a : α) :
    callHas s' part c' a ↔
      if c = c' then new.bind part = some a else callHas s part c' a := by
  rw [callHas, h c']
  split <;> rfl

lemma Changed.callClears_iff (h : Changed s s' c new) (c' : Nat) (tunnelId serviceId : Uuid) :
    CallClears s' c' tunnelId serviceId ↔
      if c = c' then ∃ q, new = some q ∧ q.Clears tunnelId serviceId
      else CallClears s c' tunnelId serviceId := by
  rw [CallClears, h c']
  split <;> rfl

/-- The port of the call has not changed. -/
lemma Changed.callHas_same (h : Changed s s' c new)
    (hport : new.bind Progress.port = (s.calls[c]?).bind Progress.port) (c' : Nat) (a : UInt16) :
    callHas s' Progress.port c' a ↔ callHas s Progress.port c' a := by
  rw [h.callHas_iff]
  split
  next heq =>
    rw [hport, heq]
    rfl
  · rfl

lemma Changed.callHas_moved (h : Changed s s' c new) (hq : s.calls[c]? = some q) (c' : Nat)
    (port : UInt16) :
    callHas s' Progress.port c' port ↔ (callHas s Progress.port c' port ∧
      ¬ (c' = c ∧ q.port = some port)) ∨ c' = c ∧ new.bind Progress.port = some port := by
  rw [h.callHas_iff]
  by_cases hc : c = c'
  · subst hc
    simp [callHas, hq]
  · simp [hc, Ne.symm hc]

/-- No other call has what the call has now. -/
lemma Changed.exclusive (h : Changed s s' c new) {α : Type} {part : Progress → Option α}
    (hs : Exclusive (callHas s part))
    (hnew : ∀ a, new.bind part = some a → ∀ c', callHas s part c' a → c' = c) :
    Exclusive (callHas s' part) := by
  intro a c₁ c₂ h₁ h₂
  rw [h.callHas_iff] at h₁ h₂
  split at h₁ <;> split at h₂
  next heq₁ heq₂ => exact heq₁.symm.trans heq₂
  next heq₁ hne₂ => exact absurd (hnew a h₁ c₂ h₂).symm hne₂
  next hne₁ heq₂ => exact absurd (hnew a h₂ c₁ h₁).symm hne₁
  · exact hs a c₁ c₂ h₁ h₂

lemma Changed.lawful (h : Changed s s' c new) (hsound : Sound s)
    (hold : ∀ c' q, c' ≠ c → s.calls[c']? = some q → Lawful s q → Lawful s' q)
    (hnew : ∀ q, new = some q → Lawful s' q) (c' : Nat) (q : Progress)
    (hq : s'.calls[c']? = some q) : Lawful s' q := by
  rw [h c'] at hq
  split at hq
  · exact hnew q hq
  next hne => exact hold c' q (Ne.symm hne) hq (hsound.lawful c' q hq)

lemma Changed.counted_iff (h : Changed s s' c new) (htunnels : s'.tunnels = s.tunnels)
    {tunnelId serviceId : Uuid}
    (hclears : (∃ q, new = some q ∧ q.Clears tunnelId serviceId) ↔
      CallClears s c tunnelId serviceId) :
    Counted s' tunnelId serviceId ↔ Counted s tunnelId serviceId := by
  simp only [Counted, htunnels]
  refine or_congr_right (exists_congr fun c' => ?_)
  rw [h.callClears_iff]
  split
  next heq =>
    rw [← heq]
    exact hclears
  · rfl

lemma not_callClears (hq : s.calls[c]? = some q) (hnone : q.unregisters = none)
    (tunnelId serviceId : Uuid) : ¬ CallClears s c tunnelId serviceId := by
  rintro ⟨q', hq', hclears⟩
  cases hq.symm.trans hq'
  exact nomatch hnone.symm.trans (Progress.unregisters_of_clears hclears)

/-- A call that clears nothing, before and after. -/
lemma Changed.clears_of_not (hq : s.calls[c]? = some q) (hbefore : q.unregisters = none)
    (hafter : new.bind Progress.unregisters = none) (tunnelId serviceId : Uuid) :
    (∃ q, new = some q ∧ q.Clears tunnelId serviceId) ↔ CallClears s c tunnelId serviceId := by
  refine iff_of_false ?_ (not_callClears hq hbefore tunnelId serviceId)
  rintro ⟨q, rfl, hclears⟩
  exact nomatch hafter.symm.trans (Progress.unregisters_of_clears hclears)

/-- The tunnels and tokens that an access relies on are as they were. -/
lemma Lawful.congr (h : Lawful s q) (hobjects : s'.objects = s.objects)
    (htunnels : s'.tunnels = s.tunnels) (htoken : q.TokenFits s → q.TokenFits s') :
    Lawful s' q where
  wellFormed := hobjects ▸ h.wellFormed
  token := htoken h.token
  uses := htunnels ▸ h.uses
  unregisters := htunnels ▸ hobjects ▸ h.unregisters

lemma tokenFits_congr (hobjects : ∀ id, id ∈ s.objects → id ∈ s'.objects)
    (htokens : s'.tunnelsByToken = s.tunnelsByToken) (h : q.TokenFits s) : q.TokenFits s' := by
  cases q with
  | registerToken | unregisterToken =>
    rw [Progress.TokenFits, htokens]
    exact h
  | registerTunnel tunnel =>
    intro hnew
    rw [htokens]
    exact h fun hobject => hnew (hobjects _ hobject)
  | _ => trivial

/-- A step that moves no ports. -/
lemma Sound.ports_same (h : Sound s) (hchanged : Changed s s' c new)
    (hobjects : s'.objects = s.objects) (htunnels : s'.tunnels = s.tunnels)
    (hpool : s'.portPool = s.portPool)
    (hport : new.bind Progress.port = (s.calls[c]?).bind Progress.port)
    (hclears : ∀ tunnelId serviceId port, ServedBy s tunnelId serviceId port →
      ((∃ q, new = some q ∧ q.Clears tunnelId serviceId) ↔ CallClears s c tunnelId serviceId)) :
    PortsHeld s' := by
  refine h.ports.congr (fun port => by rw [hpool]) fun holder port => ?_
  cases holder with
  | service tunnelId serviceId =>
    simp only [Holds, ServedBy, hobjects]
    refine and_congr_left fun hserved => ?_
    exact hchanged.counted_iff htunnels (hclears tunnelId serviceId port hserved)
  | call c' => exact hchanged.callHas_same hport c' port

/-- A step that leaves the tunnels and tokens as they are, and moves at most ports. -/
lemma Sound.of_ports (h : Sound s) (hchanged : Changed s s' c new)
    (hobjects : s'.objects = s.objects) (htunnels : s'.tunnels = s.tunnels)
    (htokens : s'.tunnelsByToken = s.tunnelsByToken) (hports : PortsHeld s')
    (hunregisters : new.bind Progress.unregisters = none ∨
      new.bind Progress.unregisters = (s.calls[c]?).bind Progress.unregisters)
    (hregistering : new.bind Progress.registering = none)
    (hnew : ∀ q, new = some q → Lawful s q) : Sound s' := by
  have hsame (q : Progress) (hq : Lawful s q) : Lawful s' q :=
    hq.congr hobjects htunnels (tokenFits_congr (fun _ => by rw [hobjects]; exact id) htokens)
  refine ⟨hports, ?_, hchanged.lawful h (fun _ q _ _ => hsame q) fun q hq => hsame q (hnew q hq),
    hchanged.exclusive h.unregisters fun id hid c' hc' => ?_,
    hchanged.exclusive h.registering fun _ htoken => nomatch hregistering.symm.trans htoken⟩
  · simp only [Listed, htunnels, hobjects, htokens]
    exact h.listed
  · rcases hunregisters with hnone | hbefore
    · exact nomatch hnone.symm.trans hid
    · exact h.unregisters id c' c hc' (hbefore.symm.trans hid)

/-- A call that unregisters no tunnel goes on with the port it has. -/
lemma Sound.idle (h : Sound s) (hq : s.calls[c]? = some q) (hchanged : Changed s s' c new)
    (hobjects : s'.objects = s.objects) (htunnels : s'.tunnels = s.tunnels)
    (htokens : s'.tunnelsByToken = s.tunnelsByToken) (hpool : s'.portPool = s.portPool)
    (hport : new.bind Progress.port = q.port) (hbefore : q.unregisters = none)
    (hafter : new.bind Progress.unregisters = none)
    (hregistering : new.bind Progress.registering = none)
    (hnew : ∀ q, new = some q → Lawful s q) : Sound s' := by
  refine h.of_ports hchanged hobjects htunnels htokens ?_ (.inl hafter) hregistering hnew
  refine h.ports_same hchanged hobjects htunnels hpool (by rw [hq, hport]; rfl) fun _ _ _ _ => ?_
  exact Changed.clears_of_not hq hbefore hafter _ _

/-- A call that has no port and unregisters no tunnel returns. -/
lemma Sound.leave (h : Sound s) (hq : s.calls[c]? = some q) (hport : q.port = none)
    (hbefore : q.unregisters = none) : Sound (s.leave c) :=
  h.idle hq (changed_leave s c) rfl rfl rfl rfl hport.symm hbefore rfl rfl nofun

end Update

variable {tunnel : ServerTunnel}

lemma getTunnel_eq_some {tunnelId : Uuid} (h : s.getTunnel tunnelId = some tunnel) :
    tunnelId ∈ s.tunnels ∧ s.objects[tunnelId]? = some tunnel := by
  unfold State.getTunnel at h
  split at h
  next hmem => exact ⟨hmem, h⟩
  · cases h

variable {q : Progress}

lemma lawful_of_uses {id : Uuid} (hlive : id ∈ s.tunnels) (hwf : q.WellFormed s.objects)
    (htoken : q.TokenFits s) (huses : q.uses = some id) (hunregisters : q.unregisters = none) :
    Lawful s q where
  wellFormed := hwf
  token := htoken
  uses _ h := Option.some.inj (huses.symm.trans h) ▸ hlive
  unregisters _ h := nomatch hunregisters.symm.trans h

lemma lawful_of_none (hwf : q.WellFormed s.objects) (htoken : q.TokenFits s)
    (huses : q.uses = none) (hunregisters : q.unregisters = none) : Lawful s q where
  wellFormed := hwf
  token := htoken
  uses _ h := nomatch huses.symm.trans h
  unregisters _ h := nomatch hunregisters.symm.trans h

/-! ## The services of a tunnel -/

section Services

variable {s s' : State} {tunnelId serviceId : Uuid} {tunnel changed : ServerTunnel}

lemma servedBy_insert (hobjects : s'.objects = s.objects.insert tunnelId changed)
    (id serviceId : Uuid) (port : UInt16) :
    ServedBy s' id serviceId port ↔
      if tunnelId = id then Serves changed serviceId port else ServedBy s id serviceId port := by
  rw [ServedBy, hobjects, lookup_insert]
  split
  · simp
  · rfl

lemma servedBy_of_lookup (h : s.objects[tunnelId]? = some tunnel) (serviceId : Uuid)
    (port : UInt16) : ServedBy s tunnelId serviceId port ↔ Serves tunnel serviceId port := by
  simp [ServedBy, h]

lemma mem_services_of_served (h : s.objects[tunnelId]? = some tunnel) {port : UInt16}
    (hserved : ServedBy s tunnelId serviceId port) : serviceId ∈ tunnel.services := by
  rcases (servedBy_of_lookup h serviceId port).mp hserved with ⟨service, hservice, -⟩
  exact mem_iff_exists_lookup.mpr ⟨service, hservice⟩

/-- One service of a tunnel in the map has another port, or none. -/
lemma holds_replaced (hcounted : ∀ id sid, Counted s' id sid ↔ Counted s id sid)
    (hlive : tunnelId ∈ s.tunnels) (htunnel : s.objects[tunnelId]? = some tunnel)
    (hobjects : s'.objects = s.objects.insert tunnelId changed) {port : Option UInt16}
    (hserves : ∀ sid p, Serves changed sid p ↔
      if serviceId = sid then port = some p else Serves tunnel sid p) (id sid : Uuid) (p : UInt16) :
    Holds s' (.service id sid) p ↔
      if tunnelId = id ∧ serviceId = sid then port = some p else Holds s (.service id sid) p := by
  simp only [Holds, hcounted, servedBy_insert hobjects]
  by_cases hid : tunnelId = id
  · subst hid
    rw [if_pos rfl, hserves, servedBy_of_lookup htunnel]
    by_cases hsid : serviceId = sid <;> simp [hsid, Counted, hlive]
  · simp [hid]

/-- A tunnel that is in the map has other services now. -/
lemma Sound.replace (h : Sound s) {c : Nat} {q : Progress} (hq : s.calls[c]? = some q)
    (hbefore : q.unregisters = none) {new : Option Progress} (hchanged : Changed s s' c new)
    (hlive : tunnelId ∈ s.tunnels) (htunnel : s.objects[tunnelId]? = some tunnel)
    (hobjects : s'.objects = s.objects.insert tunnelId changed)
    (htoken : changed.tokenHash = tunnel.tokenHash) (htunnels : s'.tunnels = s.tunnels)
    (htokens : s'.tunnelsByToken = s.tunnelsByToken)
    (hafter : new.bind Progress.unregisters = none)
    (hregistering : new.bind Progress.registering = none)
    (hnew : ∀ q, new = some q → Lawful s' q)
    (hports : (∀ id sid, Counted s' id sid ↔ Counted s id sid) → PortsHeld s') : Sound s' := by
  have hcounted (id sid : Uuid) : Counted s' id sid ↔ Counted s id sid :=
    hchanged.counted_iff htunnels (Changed.clears_of_not hq hbefore hafter id sid)
  have hgrow (id : Uuid) (hid : id ∈ s.objects) : id ∈ s'.objects :=
    hobjects ▸ Std.ExtTreeMap.mem_insert.mpr (.inr hid)
  refine ⟨hports hcounted, fun id hid => ?_, hchanged.lawful h (fun _ q _ _ hlawful => ?_) hnew,
    hchanged.exclusive h.unregisters fun _ hid => (nomatch hafter.symm.trans hid),
    hchanged.exclusive h.registering fun _ hid => (nomatch hregistering.symm.trans hid)⟩
  · rcases h.listed id (htunnels ▸ hid) with ⟨other, hother, hlisted⟩
    rw [Listed, hobjects, htokens, lookup_insert]
    split
    next heq =>
      cases htunnel.symm.trans (heq ▸ hother)
      exact ⟨changed, rfl, htoken ▸ hlisted⟩
    · exact ⟨other, hother, hlisted⟩
  · refine ⟨?_, tokenFits_congr hgrow htokens hlawful.token, htunnels ▸ hlawful.uses,
      fun id hid => ?_⟩
    · have hwf := hlawful.wellFormed
      cases q with
      | unregisterServices id due visited =>
        -- no call goes through the services of a tunnel in the map
        have hne : tunnelId ≠ id := by
          rintro rfl
          exact (hlawful.unregisters tunnelId rfl).1 hlive
        intro other hother
        rw [hobjects, lookup_insert, if_neg hne] at hother
        exact hwf other hother
      | _ => exact hwf
    · rw [htunnels]
      exact ⟨(hlawful.unregisters id hid).1, hgrow id (hlawful.unregisters id hid).2⟩

end Services

namespace Sound

variable {s : State} {c : Nat} {tunnelId serviceId : Uuid} {tunnel : ServerTunnel} {port : UInt16}

/-! ### Adding a service -/

lemma addLookup (h : Sound s) {service : NewService}
    (hq : s.calls[c]? = some (.addLookup service)) :
    Sound (s.access c (.addLookup service)) := by
  rw [State.access]
  split
  · exact h.leave hq rfl rfl
  next tunnel hfound =>
    refine h.idle hq (changed_goOn s c _) rfl rfl rfl rfl rfl rfl rfl rfl ?_
    rintro q ⟨⟩
    exact lawful_of_uses (getTunnel_eq_some hfound).1 trivial trivial rfl rfl

/-- A port that was free is now the call's. -/
lemma addAllocate (h : Sound s) {service : NewService}
    (hq : s.calls[c]? = some (.addAllocate service)) :
    Sound (s.access c (.addAllocate service)) := by
  rw [State.access]
  split
  · exact h
  · split
    · exact h.leave hq rfl rfl
    next port pool halloc =>
      rcases allocatePort_eq_ok halloc with ⟨hfree, -, rfl⟩
      dsimp only
      have hlive := (h.lawful c _ hq).uses service.tunnelId rfl
      generalize hadded : TunnelService.mk service.id service.name service.protocol
        service.localPort service.remotePort (some port) = added
      have hchanged := changed_goOn s c (.addByPort service.tunnelId added port)
      refine h.of_ports hchanged rfl rfl rfl ?_ (.inl rfl) rfl ?_
      · refine h.ports.take (h := .call c) (k := port) hfree (fun other => ?_)
          fun holder other => ?_
        · simp [PortPool.use, or_comm]
        · cases holder with
          | service id sid =>
            have hcounted := hchanged.counted_iff rfl (Changed.clears_of_not hq rfl rfl id sid)
            exact (and_congr hcounted (.refl (ServedBy s id sid other))).trans (by simp [Holds])
          | call c' =>
            exact (hchanged.callHas_moved hq c' other).trans
              (by simp [Holds, Progress.port, eq_comm])
      · rintro q ⟨⟩
        exact lawful_of_uses hlive (by rw [Progress.WellFormed, ← hadded]) trivial rfl rfl

variable {service : TunnelService}

lemma addByPort (h : Sound s) (hq : s.calls[c]? = some (.addByPort tunnelId service port)) :
    Sound (s.access c (.addByPort tunnelId service port)) := by
  have hlawful := h.lawful c _ hq
  rw [State.access]
  refine h.idle hq (changed_goOn s c _) rfl rfl rfl rfl rfl rfl rfl rfl ?_
  rintro q ⟨⟩
  exact lawful_of_uses (hlawful.uses tunnelId rfl) hlawful.wellFormed trivial rfl rfl

/-- The port of the call becomes the port of the service. -/
lemma addInsert (h : Sound s) (hq : s.calls[c]? = some (.addInsert tunnelId service port))
    (hfresh : ∀ tunnel, s.objects[tunnelId]? = some tunnel → service.id ∉ tunnel.services) :
    Sound (s.access c (.addInsert tunnelId service port)) := by
  have hlawful := h.lawful c _ hq
  have hlive := hlawful.uses tunnelId rfl
  have hassigned : service.assignedPort = some port := hlawful.wellFormed
  rcases h.listed tunnelId hlive with ⟨tunnel, htunnel, -⟩
  simp only [State.access, htunnel]
  generalize hchangedTunnel :
    { tunnel with services := tunnel.services.insert service.id service } = changed
  have hserves (sid : Uuid) (p : UInt16) : Serves changed sid p ↔
      if service.id = sid then some port = some p else Serves tunnel sid p := by
    rw [Serves, ← hchangedTunnel, lookup_insert]
    split
    · simp [hassigned]
    · rfl
  have hnone (p : UInt16) : ¬ Holds s (.service tunnelId service.id) p :=
    fun hholds => hfresh tunnel htunnel (mem_services_of_served htunnel hholds.2)
  have hchanged := changed_leave s c
  refine h.replace hq rfl hchanged hlive htunnel rfl (by rw [← hchangedTunnel]) rfl rfl rfl rfl
    (by rintro _ ⟨⟩) fun hcounted => h.ports.pass (h := .call c) (g := .service tunnelId service.id)
      (k := port) (by rw [Holds, callHas, hq]; rfl) (fun _ => Iff.rfl) fun holder other => ?_
  cases holder with
  | service id sid =>
    rw [holds_replaced hcounted hlive htunnel rfl hserves]
    split
    next heq =>
      rcases heq with ⟨rfl, rfl⟩
      simp [hnone, eq_comm]
    next hne =>
      have hother : Holder.service id sid ≠ .service tunnelId service.id :=
        fun hsame => hne (by cases hsame; exact ⟨rfl, rfl⟩)
      simp [hother]
  | call c' =>
    exact (hchanged.callHas_moved hq c' other).trans (by simp [Holds, Progress.port, eq_comm])

/-! ### Removing a service -/

lemma removeLookup (h : Sound s) (hq : s.calls[c]? = some (.removeLookup tunnelId serviceId)) :
    Sound (s.access c (.removeLookup tunnelId serviceId)) := by
  rw [State.access]
  split
  · exact h.leave hq rfl rfl
  next tunnel hfound =>
    refine h.idle hq (changed_goOn s c _) rfl rfl rfl rfl rfl rfl rfl rfl ?_
    rintro q ⟨⟩
    exact lawful_of_uses (getTunnel_eq_some hfound).1 trivial trivial rfl rfl

/-- The port of the service becomes the port of the call. -/
lemma removeService (h : Sound s) (hq : s.calls[c]? = some (.removeService tunnelId serviceId)) :
    Sound (s.access c (.removeService tunnelId serviceId)) := by
  have hlive := (h.lawful c _ hq).uses tunnelId rfl
  rw [State.access]
  split
  · exact h.leave hq rfl rfl
  next tunnel htunnel =>
    split
    · exact h.leave hq rfl rfl
    next service hservice =>
      dsimp only
      generalize hchangedTunnel :
        { tunnel with services := tunnel.services.erase serviceId } = changed
      have hserves (sid : Uuid) (p : UInt16) : Serves changed sid p ↔
          if serviceId = sid then (none : Option UInt16) = some p else Serves tunnel sid p := by
        rw [Serves, ← hchangedTunnel, lookup_erase]
        split
        · simp
        · rfl
      have htoken : changed.tokenHash = tunnel.tokenHash := by rw [← hchangedTunnel]
      have hself (p : UInt16) : Holds s (.service tunnelId serviceId) p ↔
          service.assignedPort = some p := by
        simp [Holds, Counted, hlive, servedBy_of_lookup htunnel, Serves, hservice]
      split
      next hassigned =>
        -- the service had no port
        have hchanged := changed_leave s c
        refine h.replace hq rfl hchanged hlive htunnel rfl htoken rfl rfl rfl rfl (by rintro _ ⟨⟩)
          fun hcounted => h.ports.congr (fun _ => Iff.rfl) fun holder other => ?_
        cases holder with
        | service id sid =>
          rw [holds_replaced hcounted hlive htunnel rfl hserves]
          split
          next heq =>
            rcases heq with ⟨rfl, rfl⟩
            rw [hself, hassigned]
          · rfl
        | call c' => exact hchanged.callHas_same (by rw [hq]; rfl) c' other
      next port hassigned =>
        have hchanged := changed_goOn s c (.removeByPort port)
        refine h.replace hq rfl hchanged hlive htunnel rfl htoken rfl rfl rfl rfl ?_
          fun hcounted => h.ports.pass (h := .service tunnelId serviceId) (g := .call c) (k := port)
            ((hself port).mpr hassigned) (fun _ => Iff.rfl) fun holder other => ?_
        · rintro q ⟨⟩
          exact lawful_of_none trivial trivial rfl rfl
        · cases holder with
          | service id sid =>
            rw [holds_replaced hcounted hlive htunnel rfl hserves]
            split
            next heq =>
              rcases heq with ⟨rfl, rfl⟩
              simp [hself, hassigned, eq_comm]
            next hne =>
              have hother : Holder.service id sid ≠ .service tunnelId serviceId :=
                fun hsame => hne (by cases hsame; exact ⟨rfl, rfl⟩)
              simp [hother]
          | call c' =>
            exact (hchanged.callHas_moved hq c' other).trans
              (by simp [Holds, Progress.port, eq_comm])

lemma removeByPort (h : Sound s) (hq : s.calls[c]? = some (.removeByPort port)) :
    Sound (s.access c (.removeByPort port)) := by
  rw [State.access]
  refine h.idle hq (changed_goOn s c _) rfl rfl rfl rfl rfl rfl rfl rfl ?_
  rintro q ⟨⟩
  exact lawful_of_none trivial trivial rfl rfl

/-- The call gives its port back. -/
lemma removeRelease (h : Sound s) (hq : s.calls[c]? = some (.removeRelease port)) :
    Sound (s.access c (.removeRelease port)) := by
  rw [State.access]
  split
  · exact h
  · have hchanged := changed_leave s c
    refine h.of_ports hchanged rfl rfl rfl ?_ (.inl rfl) rfl nofun
    refine h.ports.give (h := .call c) (k := port) ?_ (fun other => ?_) fun holder other => ?_
    · rw [Holds, callHas, hq]
      rfl
    · simp [PortPool.release, and_comm]
    · cases holder with
      | service id sid =>
        have hcounted := hchanged.counted_iff rfl (Changed.clears_of_not hq rfl rfl id sid)
        exact (and_congr hcounted (.refl (ServedBy s id sid other))).trans (by simp [Holds])
      | call c' =>
        exact (hchanged.callHas_moved hq c' other).trans (by simp [Holds, Progress.port, eq_comm])

/-! ### Registering a tunnel -/

variable {tokenHash : String}

lemma registerCheck (h : Sound s) {newId : Uuid} {now : Nat} {name : Option String}
    (hq : s.calls[c]? = some (.registerCheck newId now tokenHash name))
    (hapart : ∀ c', ¬ callHas s Progress.registering c' tokenHash) :
    Sound (s.access c (.registerCheck newId now tokenHash name)) := by
  rw [State.access]
  split
  · exact h.leave hq rfl rfl
  next hnew =>
    have hchanged := changed_goOn s c (.registerToken ⟨newId, tokenHash, name, ∅, now⟩)
    refine ⟨?_, h.listed, hchanged.lawful h (fun _ q _ _ hlawful => ?_) ?_,
      hchanged.exclusive h.unregisters nofun, hchanged.exclusive h.registering ?_⟩
    · exact h.ports_same hchanged rfl rfl rfl (by rw [hq]; rfl) fun id sid _ _ =>
        Changed.clears_of_not hq rfl rfl id sid
    · exact hlawful.congr rfl rfl (tokenFits_congr (fun _ => id) rfl)
    · rintro q ⟨⟩
      exact lawful_of_none rfl hnew rfl rfl
    · rintro _ ⟨⟩ c' hc'
      exact absurd hc' (hapart c')

/-- The token that the call puts into the map is no other call's. -/
lemma registerToken (h : Sound s) (hq : s.calls[c]? = some (.registerToken tunnel)) :
    Sound (s.access c (.registerToken tunnel)) := by
  rw [State.access]
  have hnew : tunnel.tokenHash ∉ s.tunnelsByToken := (h.lawful c _ hq).token
  have hkeeps {token : String} {id : Uuid} (hlisted : s.tunnelsByToken[token]? = some id) :
      (s.tunnelsByToken.insert tunnel.tokenHash tunnel.id)[token]? = some id := by
    have hne : tunnel.tokenHash ≠ token := by
      rintro rfl
      exact hnew (mem_iff_exists_lookup.mpr ⟨id, hlisted⟩)
    rw [lookup_insert_of_ne _ _ hne, hlisted]
  have hchanged : Changed s { s.goOn c (.registerTunnel tunnel) with
      tunnelsByToken := s.tunnelsByToken.insert tunnel.tokenHash tunnel.id } c
      (some (.registerTunnel tunnel)) := changed_goOn s c _
  refine ⟨?_, fun id hid => ?_, hchanged.lawful h (fun c' q hne hq' hlawful => ?_) ?_,
    hchanged.exclusive h.unregisters nofun, hchanged.exclusive h.registering nofun⟩
  · exact h.ports_same hchanged rfl rfl rfl (by rw [hq]; rfl) fun id sid _ _ =>
      Changed.clears_of_not hq rfl rfl id sid
  · rcases h.listed id hid with ⟨other, hother, hlisted⟩
    exact ⟨other, hother, hkeeps hlisted⟩
  · refine hlawful.congr rfl rfl fun htoken => ?_
    cases q with
    | registerToken other =>
      intro hmem
      rcases Std.ExtTreeMap.mem_insert.mp hmem with heq | hmem
      · -- two calls with one token
        have hsame := Std.LawfulEqOrd.eq_of_compare heq
        refine hne (h.registering tunnel.tokenHash c' c ?_ (by rw [callHas, hq]; rfl))
        rw [callHas, hq', hsame]
        rfl
      · exact htoken hmem
    | registerTunnel other => exact fun hobject => hkeeps (htoken hobject)
    | unregisterToken => exact hkeeps htoken
    | _ => trivial
  · rintro q ⟨⟩
    refine lawful_of_none (h.lawful c _ hq).wellFormed (fun _ => ?_) rfl rfl
    exact Std.ExtTreeMap.getElem?_insert_self

/-- The tunnel has no services yet, and the map of tokens has it already. -/
lemma registerTunnel (h : Sound s) (hq : s.calls[c]? = some (.registerTunnel tunnel))
    (hfresh : tunnel.id ∉ s.objects) : Sound (s.access c (.registerTunnel tunnel)) := by
  have hempty : tunnel.services = ∅ := (h.lawful c _ hq).wellFormed
  have hnone : s.objects[tunnel.id]? = none := Std.ExtTreeMap.getElem?_eq_none hfresh
  rw [State.access]
  generalize hs' : ({ s.leave c with
    objects := s.objects.insert tunnel.id tunnel
    tunnels := insert tunnel.id s.tunnels } : State) = s'
  have hchanged : Changed s s' c none := by
    rw [← hs']
    exact changed_leave s c
  have hobjects : s'.objects = s.objects.insert tunnel.id tunnel := by rw [← hs']
  have htunnels (id : Uuid) : id ∈ s'.tunnels ↔ id = tunnel.id ∨ id ∈ s.tunnels := by
    rw [← hs', Finset.mem_insert]
  have htokens : s'.tunnelsByToken = s.tunnelsByToken := by rw [← hs']; rfl
  have hgrow (id : Uuid) (hid : id ∈ s.objects) : id ∈ s'.objects :=
    hobjects ▸ Std.ExtTreeMap.mem_insert.mpr (.inr hid)
  refine ⟨?_, fun id hid => ?_, hchanged.lawful h (fun c' q _ hq' hlawful => ?_) nofun,
    hchanged.exclusive h.unregisters nofun, hchanged.exclusive h.registering nofun⟩
  · refine h.ports.congr (fun _ => by rw [← hs']; rfl) fun holder other => ?_
    cases holder with
    | service id sid =>
      rw [Holds, Holds, servedBy_insert hobjects]
      split
      next heq =>
        -- neither the new tunnel nor an older one of the id has the port
        subst heq
        simp [Serves, hempty, ServedBy, hnone]
      next hne =>
        refine and_congr_left fun _ => ?_
        rw [Counted, Counted, htunnels]
        refine or_congr (by simp [Ne.symm hne]) (exists_congr fun c' => ?_)
        rw [hchanged.callClears_iff]
        split
        next heq =>
          subst heq
          simp [not_callClears hq rfl]
        · rfl
    | call c' => exact hchanged.callHas_same (by rw [hq]; rfl) c' other
  · rw [Listed, htokens, hobjects, lookup_insert]
    split
    next heq => exact ⟨tunnel, rfl, heq ▸ (h.lawful c _ hq).token hfresh⟩
    next hne => exact h.listed id (((htunnels id).mp hid).resolve_left (Ne.symm hne))
  · refine ⟨?_, tokenFits_congr hgrow htokens hlawful.token,
      fun id hid => (htunnels id).mpr (.inr (hlawful.uses id hid)), fun id hid => ?_⟩
    · have hwf := hlawful.wellFormed
      cases q with
      | unregisterServices id due visited =>
        intro other hother
        rw [hobjects] at hother
        rcases of_lookup_insert hother with ⟨-, rfl⟩ | ⟨-, hold⟩
        · simp [hempty]
        · exact hwf other hold
      | _ => exact hwf
    · rcases hlawful.unregisters id hid with ⟨hgone, hobject⟩
      rw [htunnels]
      refine ⟨?_, hgrow id hobject⟩
      rintro (rfl | hmem)
      · exact hfresh hobject
      · exact hgone hmem

/-! ### Unregistering a tunnel -/

/-- The services of the tunnel, which counted because it was in the map, now count because the call
will clear them. -/
lemma unregisterTunnel (h : Sound s) (hq : s.calls[c]? = some (.unregisterTunnel tunnelId))
    (hapart : ∀ c', ¬ callHas s Progress.uses c' tunnelId) :
    Sound (s.access c (.unregisterTunnel tunnelId)) := by
  rw [State.access]
  split
  · exact h.leave hq rfl rfl
  next tunnel hfound =>
    rcases getTunnel_eq_some hfound with ⟨hlive, htunnel⟩
    generalize hs' : ({ s.goOn c (.unregisterToken tunnelId tunnel.tokenHash) with
      tunnels := s.tunnels.erase tunnelId } : State) = s'
    have hchanged : Changed s s' c (some (.unregisterToken tunnelId tunnel.tokenHash)) := by
      rw [← hs']
      exact changed_goOn s c _
    have hobjects : s'.objects = s.objects := by rw [← hs']; rfl
    have htunnels (id : Uuid) : id ∈ s'.tunnels ↔ id ≠ tunnelId ∧ id ∈ s.tunnels := by
      rw [← hs', Finset.mem_erase]
    have htokens : s'.tunnelsByToken = s.tunnelsByToken := by rw [← hs']; rfl
    refine ⟨?_, fun id hid => ?_, hchanged.lawful h (fun c' q _ hq' hlawful => ?_) ?_,
      hchanged.exclusive h.unregisters ?_, hchanged.exclusive h.registering nofun⟩
    · refine h.ports.congr (fun _ => by rw [← hs']; rfl) fun holder other => ?_
      cases holder with
      | service id sid =>
        simp only [Holds, ServedBy, hobjects]
        refine and_congr_left fun _ => ?_
        rw [Counted, Counted, htunnels]
        by_cases hid : id = tunnelId
        · subst hid
          refine iff_of_true (.inr ⟨c, ?_⟩) (.inl hlive)
          exact (hchanged.callClears_iff c id sid).mpr (by rw [if_pos rfl]; exact ⟨_, rfl, rfl⟩)
        · refine or_congr (by simp [hid]) (exists_congr fun c' => ?_)
          rw [hchanged.callClears_iff]
          split
          next heq =>
            subst heq
            refine iff_of_false ?_ (not_callClears hq rfl id sid)
            rintro ⟨q, ⟨⟩, hclears⟩
            exact hid hclears.symm
          · rfl
      | call c' => exact hchanged.callHas_same (by rw [hq]; rfl) c' other
    · rw [Listed, hobjects, htokens]
      exact h.listed id ((htunnels id).mp hid).2
    · refine ⟨hobjects ▸ hlawful.wellFormed,
        tokenFits_congr (fun _ => hobjects ▸ id) htokens hlawful.token, fun id hid => ?_,
        fun id hid => ?_⟩
      · rw [htunnels]
        refine ⟨?_, hlawful.uses id hid⟩
        rintro rfl
        exact hapart c' (by rw [callHas, hq']; exact hid)
      · rw [htunnels, hobjects]
        exact ⟨fun hmem => (hlawful.unregisters id hid).1 hmem.2, (hlawful.unregisters id hid).2⟩
    · rintro q ⟨⟩
      refine ⟨trivial, ?_, nofun, ?_⟩
      · rcases h.listed tunnelId hlive with ⟨other, hother, hlisted⟩
        cases htunnel.symm.trans hother
        rw [Progress.TokenFits, htokens, hlisted]
      · rintro id ⟨⟩
        rw [htunnels, hobjects]
        exact ⟨fun hmem => hmem.1 rfl, mem_iff_exists_lookup.mpr ⟨tunnel, htunnel⟩⟩
    · -- a call that unregistered the tunnel before would have taken it from the map
      rintro id ⟨⟩ c' hc'
      rcases Option.bind_eq_some_iff.mp hc' with ⟨q, hq', hunregisters⟩
      exact absurd hlive ((h.lawful c' q hq').unregisters tunnelId hunregisters).1

/-- The token is that of the tunnel that goes, so no other tunnel needs it in the map. -/
lemma unregisterToken (h : Sound s)
    (hq : s.calls[c]? = some (.unregisterToken tunnelId tokenHash)) :
    Sound (s.access c (.unregisterToken tunnelId tokenHash)) := by
  rw [State.access]
  have hlawful := h.lawful c _ hq
  have hgone := hlawful.unregisters tunnelId rfl
  have hkeeps {token : String} {id : Uuid} (hne : id ≠ tunnelId)
      (hlisted : s.tunnelsByToken[token]? = some id) :
      (s.tunnelsByToken.erase tokenHash)[token]? = some id := by
    have hother : tokenHash ≠ token := by
      rintro rfl
      exact hne (Option.some.inj (hlisted.symm.trans hlawful.token))
    rw [lookup_erase_of_ne _ hother, hlisted]
  have hchanged : Changed s { s.goOn c (.unregisterLock tunnelId) with
      tunnelsByToken := s.tunnelsByToken.erase tokenHash } c (some (.unregisterLock tunnelId)) :=
    changed_goOn s c _
  have hunregisters (c' : Nat) (hc' : callHas s Progress.unregisters c' tunnelId) : c' = c :=
    h.unregisters tunnelId c' c hc' (by rw [callHas, hq]; rfl)
  refine ⟨?_, fun id hid => ?_, hchanged.lawful h (fun c' q hne hq' hlawful' => ?_) ?_,
    hchanged.exclusive h.unregisters ?_, hchanged.exclusive h.registering nofun⟩
  · refine h.ports_same hchanged rfl rfl rfl (by rw [hq]; rfl) fun id sid port _ => ?_
    simp [CallClears, hq, Progress.Clears]
  · rcases h.listed id hid with ⟨other, hother, hlisted⟩
    exact ⟨other, hother, hkeeps (fun heq => hgone.1 (heq ▸ hid)) hlisted⟩
  · refine hlawful'.congr rfl rfl fun htoken => ?_
    cases q with
    | registerToken other => exact fun hmem => htoken (Std.ExtTreeMap.mem_of_mem_erase hmem)
    | registerTunnel other =>
      exact fun hobject => hkeeps (fun heq => hobject (heq ▸ hgone.2)) (htoken hobject)
    | unregisterToken id token =>
      refine hkeeps (fun heq => hne (hunregisters c' ?_)) htoken
      rw [callHas, hq', ← heq]
      rfl
    | _ => trivial
  · rintro q ⟨⟩
    exact ⟨trivial, trivial, nofun, hlawful.unregisters⟩
  · rintro id ⟨⟩
    exact hunregisters

lemma unregisterLock (h : Sound s) (hq : s.calls[c]? = some (.unregisterLock tunnelId)) :
    Sound (s.access c (.unregisterLock tunnelId)) := by
  have hunregisters := (h.lawful c _ hq).unregisters
  rcases mem_iff_exists_lookup.mp (hunregisters tunnelId rfl).2 with ⟨tunnel, htunnel⟩
  simp only [State.access, htunnel]
  split
  · exact h
  · have hchanged := changed_goOn s c
      (.unregisterServices tunnelId ((entries tunnel.services).map Prod.fst) [])
    refine h.of_ports hchanged rfl rfl rfl ?_ (.inr (by rw [hq]; rfl)) rfl ?_
    · refine h.ports_same hchanged rfl rfl rfl (by rw [hq]; rfl) fun id sid port _ => ?_
      simp [CallClears, hq, Progress.Clears]
    · rintro q ⟨⟩
      refine ⟨?_, trivial, nofun, hunregisters⟩
      intro other hother id hid
      cases htunnel.symm.trans hother
      exact (mem_keys _).mpr hid

variable {due visited : List Uuid}

/-- The call returns when it has been at every service. -/
lemma unregisterServices (h : Sound s)
    (hq : s.calls[c]? = some (.unregisterServices tunnelId due visited)) :
    Sound (s.access c (.unregisterServices tunnelId due visited)) := by
  have hdue : ∀ tunnel, s.objects[tunnelId]? = some tunnel → ∀ id ∈ tunnel.services, id ∈ due :=
    (h.lawful c _ hq).wellFormed
  rw [State.access]
  split
  · exact h
  next tunnel htunnel =>
    split
    next hdone =>
      have hchanged := changed_leave s c
      refine h.of_ports hchanged rfl rfl rfl ?_ (.inl rfl) rfl nofun
      refine h.ports_same hchanged rfl rfl rfl (by rw [hq]; rfl) fun id sid port hserved => ?_
      refine iff_of_false nofun ?_
      rintro ⟨q, hq', hclears⟩
      cases hq.symm.trans hq'
      rcases hclears with ⟨rfl, hunvisited⟩
      have hmem := mem_services_of_served htunnel hserved
      have hseen := of_decide_eq_true (all_eq_true.mp hdone sid (hdue tunnel htunnel sid hmem))
      exact hseen.resolve_left hunvisited hmem
    · exact h

lemma counted_visited {s' : State} (h : Sound s)
    (hq : s.calls[c]? = some (.unregisterServices tunnelId due visited))
    (hchanged : Changed s s' c (some (.unregisterServices tunnelId due (serviceId :: visited))))
    (htunnels : s'.tunnels = s.tunnels) (id sid : Uuid) :
    Counted s' id sid ↔ Counted s id sid ∧ ¬ (id = tunnelId ∧ sid = serviceId) := by
  have hgone := ((h.lawful c _ hq).unregisters tunnelId rfl).1
  have hcall : callHas s Progress.unregisters c tunnelId := by
    rw [callHas, hq]
    rfl
  rw [Counted, Counted, htunnels]
  constructor
  · rintro (hmem | ⟨c', hclears⟩)
    · refine ⟨.inl hmem, ?_⟩
      rintro ⟨rfl, -⟩
      exact hgone hmem
    · rw [hchanged.callClears_iff] at hclears
      split at hclears
      next heq =>
        rcases hclears with ⟨q, ⟨⟩, hid, hunvisited⟩
        rw [mem_cons, not_or] at hunvisited
        exact ⟨.inr ⟨c, _, hq, hid, hunvisited.2⟩, fun hsame => hunvisited.1 hsame.2⟩
      next hne =>
        -- another call clears another tunnel
        refine ⟨.inr ⟨c', hclears⟩, ?_⟩
        rintro ⟨rfl, -⟩
        rcases hclears with ⟨q, hq', hclears⟩
        refine hne (h.unregisters id c c' hcall ?_)
        rw [callHas, hq']
        exact Progress.unregisters_of_clears hclears
  · rintro ⟨hmem | ⟨c', hclears⟩, hne⟩
    · exact .inl hmem
    · refine .inr ⟨c', (hchanged.callClears_iff c' id sid).mpr ?_⟩
      split
      next heq =>
        subst heq
        rcases hclears with ⟨q, hq', hclears⟩
        cases hq.symm.trans hq'
        refine ⟨_, rfl, hclears.1, ?_⟩
        rw [mem_cons, not_or]
        exact ⟨fun hsame => hne ⟨hclears.1.symm, hsame⟩, hclears.2⟩
      · exact hclears

/-- A service has been visited: its port is in the pool again. -/
lemma visit (h : Sound s) (c : Nat) (serviceId : Uuid) : Sound (s.visit c serviceId) := by
  rw [State.visit]
  split
  next tunnelId due visited hq =>
    have hlawful := h.lawful c _ hq
    have hnew : Lawful s (.unregisterServices tunnelId due (serviceId :: visited)) :=
      ⟨hlawful.wellFormed, trivial, nofun, hlawful.unregisters⟩
    split
    · exact h
    next tunnel htunnel =>
      split
      · exact h
      next service hservice =>
        split
        · exact h
        next hunvisited =>
          have hself (p : UInt16) : ServedBy s tunnelId serviceId p ↔
              service.assignedPort = some p := by
            simp [servedBy_of_lookup htunnel, Serves, hservice]
          have hchanged := changed_goOn s c (.unregisterServices tunnelId due
            (serviceId :: visited))
          dsimp only
          split
          next hassigned =>
            refine h.of_ports hchanged rfl rfl rfl ?_ (.inr (by rw [hq]; rfl)) rfl
              (by rintro q ⟨⟩; exact hnew)
            refine h.ports_same hchanged rfl rfl rfl (by rw [hq]; rfl) fun id sid port hserved => ?_
            have hother : tunnelId = id → sid ≠ serviceId := by
              rintro rfl rfl
              rw [hself, hassigned] at hserved
              cases hserved
            simp only [CallClears, hq, Option.some.injEq, exists_eq_left', Progress.Clears,
              mem_cons, not_or]
            exact and_congr_right fun hid => and_iff_right (hother hid)
          next port hassigned =>
            refine h.of_ports hchanged rfl rfl rfl ?_ (.inr (by rw [hq]; rfl)) rfl
              (by rintro q ⟨⟩; exact hnew)
            refine h.ports.give (h := .service tunnelId serviceId) (k := port) ?_
              (fun other => by simp [PortPool.release, and_comm]) fun holder other => ?_
            · exact ⟨.inr ⟨c, _, hq, rfl, hunvisited⟩, (hself port).mpr hassigned⟩
            · cases holder with
              | call c' =>
                exact (hchanged.callHas_same (by rw [hq]; rfl) c' other).trans (by simp [Holds])
              | service id sid =>
                have hcounted := counted_visited h hq hchanged rfl id sid
                refine (and_congr hcounted (.refl (ServedBy s id sid other))).trans ?_
                rw [Holds, Holder.service.injEq]
                constructor
                · rintro ⟨⟨hcounted, hne⟩, hserved⟩
                  exact ⟨⟨hcounted, hserved⟩, fun hsame => hne hsame.1⟩
                · rintro ⟨⟨hcounted, hserved⟩, hne⟩
                  refine ⟨⟨hcounted, ?_⟩, hserved⟩
                  rintro ⟨rfl, rfl⟩
                  rw [hself, hassigned] at hserved
                  exact hne ⟨⟨rfl, rfl⟩, (Option.some.inj hserved).symm⟩
  · exact h

/-- A call has begun. -/
lemma call (h : Sound s) (request : Request) (hnone : s.calls[c]? = none) :
    Sound (s.goOn c request.start) := by
  have hchanged := changed_goOn s c request.start
  refine h.of_ports hchanged rfl rfl rfl ?_ (.inl ?_) ?_ ?_
  · refine h.ports_same hchanged rfl rfl rfl ?_ fun id sid port _ => iff_of_false ?_ ?_
    · rw [hnone]
      cases request <;> rfl
    · rintro ⟨q, ⟨⟩, hclears⟩
      cases request <;> exact hclears
    · rintro ⟨q, hq, -⟩
      exact nomatch hnone.symm.trans hq
  · cases request <;> rfl
  · cases request <;> rfl
  · rintro q ⟨⟩
    cases request <;> exact lawful_of_none trivial trivial rfl rfl

lemma new (portRange : UInt16 × UInt16) : Sound (State.new portRange) := by
  have hcalls (c : Nat) : (State.new portRange).calls[c]? = none := Std.ExtTreeMap.getElem?_empty
  have hnobody (holder : Holder) (port : UInt16) : ¬ Holds (State.new portRange) holder port := by
    cases holder with
    | service id sid =>
      rintro ⟨-, tunnel, htunnel, -⟩
      exact nomatch (Std.ExtTreeMap.getElem?_empty (a := id)).symm.trans htunnel
    | call c => simp [Holds, callHas, hcalls]
  refine ⟨⟨fun port holder holder' hholder => absurd hholder (hnobody holder port), fun port => ?_⟩,
    by simp [State.new], fun c q hq => (nomatch (hcalls c).symm.trans hq), fun _ c _ hc => ?_,
    fun _ c _ hc => ?_⟩
  · refine iff_of_false ?_ fun ⟨holder, hholder⟩ => hnobody holder port hholder
    simp [State.new, PortPool.new]
  · simp [callHas, hcalls] at hc
  · simp [callHas, hcalls] at hc

end Sound

/-! ## Whole runs -/

namespace Progress

/-- The token that the call is about to look for. -/
def checks : Progress → Option String
  | .registerCheck _ _ tokenHash _ => some tokenHash
  | _ => none

/-- The tunnel that the call is about to take from the map. -/
def removes : Progress → Option Uuid
  | .unregisterTunnel tunnelId => some tunnelId
  | _ => none

def newTunnel : Progress → Option ServerTunnel
  | .registerTunnel tunnel => some tunnel
  | _ => none

def newService : Progress → Option (Uuid × TunnelService)
  | .addInsert tunnelId service _ => some (tunnelId, service)
  | _ => none

end Progress

/-- The access that an event makes. -/
def State.due (s : State) : Event → Option Progress
  | .step c => s.calls[c]?
  | _ => none

/-- `Uuid::new_v4` gives an id that no tunnel, and no service of the tunnel, has. -/
def Fresh (s : State) (event : Event) : Prop :=
  ∀ q ∈ s.due event,
    (∀ tunnel ∈ q.newTunnel, tunnel.id ∉ s.objects) ∧
    ∀ added ∈ q.newService, ∀ tunnel ∈ s.objects[added.1]?, added.2.id ∉ tunnel.services

/-- No call is between its look at the map of tokens, or of tunnels, and the change it looked for:
a token is looked for while no other call is to put it there, and a tunnel is taken from the map
while no other call is to change it. -/
def Apart (s : State) (event : Event) : Prop :=
  ∀ q ∈ s.due event, ∀ other ∈ entries s.calls,
    (q.checks.all fun tokenHash => other.2.registering ≠ some tokenHash) ∧
    q.removes.all fun tunnelId => other.2.uses ≠ some tunnelId

instance (s : State) (event : Event) : Decidable (Fresh s event) :=
  inferInstanceAs (Decidable (∀ q ∈ s.due event, _ ∧ _))

instance (s : State) (event : Event) : Decidable (Apart s event) :=
  inferInstanceAs (Decidable (∀ q ∈ s.due event, ∀ other ∈ entries s.calls, _ ∧ _))

lemma Sound.access (h : Sound s) {c : Nat} (hq : s.calls[c]? = some q)
    (hfresh : Fresh s (.step c)) (hapart : Apart s (.step c)) : Sound (s.access c q) := by
  have hother {c' : Nat} {other : Progress} (hc' : s.calls[c']? = some other) :=
    hapart q hq (c', other) ((mem_entries _).mpr hc')
  cases q with
  | registerCheck newId now tokenHash name =>
    refine h.registerCheck hq fun c' hregistering => ?_
    rcases Option.bind_eq_some_iff.mp hregistering with ⟨other, hc', hregistering⟩
    exact of_decide_eq_true (hother hc').1 hregistering
  | registerToken tunnel => exact h.registerToken hq
  | registerTunnel tunnel => exact h.registerTunnel hq ((hfresh _ hq).1 tunnel rfl)
  | unregisterTunnel tunnelId =>
    refine h.unregisterTunnel hq fun c' huses => ?_
    rcases Option.bind_eq_some_iff.mp huses with ⟨other, hc', huses⟩
    exact of_decide_eq_true (hother hc').2 huses
  | unregisterToken tunnelId tokenHash => exact h.unregisterToken hq
  | unregisterLock tunnelId => exact h.unregisterLock hq
  | unregisterServices tunnelId due visited => exact h.unregisterServices hq
  | addLookup service => exact h.addLookup hq
  | addAllocate service => exact h.addAllocate hq
  | addByPort tunnelId service port => exact h.addByPort hq
  | addInsert tunnelId service port =>
    exact h.addInsert hq fun tunnel htunnel =>
      (hfresh _ hq).2 (tunnelId, service) rfl tunnel htunnel
  | removeLookup tunnelId serviceId => exact h.removeLookup hq
  | removeService tunnelId serviceId => exact h.removeService hq
  | removeByPort port => exact h.removeByPort hq
  | removeRelease port => exact h.removeRelease hq

lemma Sound.next (h : Sound s) (event : Event) (hcondition : Fresh s event ∧ Apart s event) :
    Sound (s.next event) := by
  cases event with
  | call c request =>
    rw [State.next]
    split
    next hnone => exact h.call request hnone
    · exact h
  | step c =>
    rw [State.next]
    split
    · exact h
    next q hq => exact h.access hq hcondition.1 hcondition.2
  | visit c serviceId => exact h.visit c serviceId

/-- Tokens and ports when no call is under way. -/
structure Settled (s : State) : Prop where
  /-- No two live tunnels have the same token. -/
  tokens : ∀ {id id' tunnel tunnel'}, s.getTunnel id = some tunnel →
    s.getTunnel id' = some tunnel' → tunnel.tokenHash = tunnel'.tokenHash → id = id'
  /-- Every used port belongs to a service of a live tunnel. -/
  served : ∀ port ∈ s.portPool.usedPorts, ∃ id tunnel serviceId,
    s.getTunnel id = some tunnel ∧ Serves tunnel serviceId port
  /-- The port of a live service is not free. -/
  used : ∀ {id tunnel serviceId port}, s.getTunnel id = some tunnel →
    Serves tunnel serviceId port → port ∈ s.portPool.usedPorts

/-- With no calls under way the holders of ports are services of live tunnels. -/
lemma Sound.settled (h : Sound s) (hreturned : s.calls.isEmpty) : Settled s := by
  have hcalls (c : Nat) : s.calls[c]? = none := by
    rw [Std.ExtTreeMap.isEmpty_iff.mp hreturned]
    exact Std.ExtTreeMap.getElem?_empty
  refine ⟨?_, fun port hport => ?_, ?_⟩
  · intro id id' tunnel tunnel' htunnel htunnel' htoken
    rcases getTunnel_eq_some htunnel with ⟨hlive, hobject⟩
    rcases getTunnel_eq_some htunnel' with ⟨hlive', hobject'⟩
    rcases h.listed id hlive with ⟨_, hfirst, hlisted⟩
    rcases h.listed id' hlive' with ⟨_, hsecond, hlisted'⟩
    -- the map has both of them under the one token
    cases hobject.symm.trans hfirst
    cases hobject'.symm.trans hsecond
    exact Option.some.inj (hlisted.symm.trans (htoken ▸ hlisted'))
  · rcases (h.ports.held port).mp hport with ⟨holder, hholder⟩
    cases holder with
    | service id sid =>
      rcases hholder with ⟨hlive | ⟨c, q, hq, -⟩, tunnel, htunnel, hserves⟩
      · exact ⟨id, tunnel, sid, by rw [State.getTunnel, if_pos hlive, htunnel], hserves⟩
      · exact nomatch (hcalls c).symm.trans hq
    | call c => simp [Holds, callHas, hcalls] at hholder
  · intro id tunnel sid port htunnel hserves
    rcases getTunnel_eq_some htunnel with ⟨hlive, hobject⟩
    exact (h.ports.held port).mpr ⟨.service id sid, .inl hlive, tunnel, hobject, hserves⟩

/-- Calls that keep apart neither leak a port nor free one that is in use. -/
theorem settled_when_returned (portRange : UInt16 × UInt16) (events : List Event)
    (hkept : Machine.Along State.next (fun s event => Fresh s event ∧ Apart s event)
      (State.new portRange) events)
    (hreturned : (events.foldl State.next (State.new portRange)).calls.isEmpty) :
    Settled (events.foldl State.next (State.new portRange)) := by
  have hsound : Sound (events.foldl State.next (State.new portRange)) :=
    hkept.invariant (fun _ event h => h.next event) (Sound.new portRange)
  exact hsound.settled hreturned

def exampleRange : UInt16 × UInt16 := (30000, 30001)

def registerRun (c : Nat) (newId : Uuid) (tokenHash : String) : List Event :=
  [.call c (.registerTunnel newId 0 tokenHash none), .step c, .step c, .step c]

def sshService (id tunnelId : Uuid) : NewService :=
  { id
    tunnelId
    name := "ssh"
    protocol := .tcp
    localPort := 22
    remotePort := 0 }

def unregisterRun (c : Nat) (tunnelId : Uuid) (services : List Uuid) : List Event :=
  [.call c (.unregisterTunnel tunnelId), .step c, .step c, .step c] ++
    services.map (.visit c) ++ [.step c]

def exampleRun : List Event :=
  [.call 0 (.registerTunnel 1 0 "a" none), .call 1 (.registerTunnel 2 0 "b" none),
    .step 0, .step 1, .step 1, .step 0, .step 0, .step 1,
    .call 0 (.addService (sshService 11 1)), .call 1 (.addService (sshService 12 2)),
    .step 0, .step 1, .step 1, .step 0, .step 0, .step 1, .step 1, .step 0] ++
  unregisterRun 0 1 [11]

theorem settled_when_returned_exampleRun :
    Settled (exampleRun.foldl State.next (State.new exampleRange)) :=
  settled_when_returned exampleRange exampleRun (by decide +kernel) (by decide +kernel)

/-- A service is added to a tunnel that has been unregistered since `add_service` looked it up, and
its port stays in use; two calls look for a token before either has put it into the map, and both
register their tunnel. -/
theorem unsettled_when_returned : let leaked := registerRun 0 1 "a" ++
      [.call 1 (.addService (sshService 11 1)), .step 1] ++ unregisterRun 0 1 [] ++
      [.step 1, .step 1, .step 1]
    let twice : List Event :=
      [.call 0 (.registerTunnel 1 0 "a" none), .call 1 (.registerTunnel 2 0 "a" none),
        .step 0, .step 1, .step 0, .step 0, .step 1, .step 1]
    ((leaked.foldl State.next (State.new exampleRange)).calls.isEmpty ∧
      ¬ Settled (leaked.foldl State.next (State.new exampleRange))) ∧
    (twice.foldl State.next (State.new exampleRange)).calls.isEmpty ∧
      ¬ Settled (twice.foldl State.next (State.new exampleRange)) := by
  intro leaked twice
  refine ⟨⟨by decide +kernel, fun h => ?_⟩, by decide +kernel, fun h => ?_⟩
  · rcases h.served 30000 (by decide +kernel) with ⟨id, tunnel, sid, htunnel, -⟩
    have hnone : (leaked.foldl State.next (State.new exampleRange)).tunnels = ∅ := by
      decide +kernel
    have hlive := (getTunnel_eq_some htunnel).1
    rw [hnone] at hlive
    exact absurd hlive (Finset.notMem_empty id)
  · have htunnels : ∃ t ∈ (twice.foldl State.next (State.new exampleRange)).getTunnel 1,
        ∃ t' ∈ (twice.foldl State.next (State.new exampleRange)).getTunnel 2,
          t.tokenHash = t'.tokenHash := by decide +kernel
    rcases htunnels with ⟨t, ht, t', ht', htoken⟩
    exact absurd (h.tokens ht ht' htoken) (by decide)

end Concurrent
end ZLayer.Tunnel
