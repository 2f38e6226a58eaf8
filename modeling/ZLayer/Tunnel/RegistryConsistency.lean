import ZLayer.Lib.InverseIndex
import ZLayer.Lib.Machine
import ZLayer.Lib.Result
import ZLayer.Tunnel.Registry

/-!
# RegistryConsistency — the lookup maps and the pool say what the tunnels say

The tunnels with their services are the truth; the map of tokens, the map of ports and the used
ports of the pool repeat parts of it.  Each call changes them in several steps, and after every
call of a run they agree again.  A call that fails changes nothing.
-/

namespace ZLayer.Tunnel

open Lib HashMap List

/-! ## The pool -/

namespace PortPool

def InRange (pool : PortPool) (port : UInt16) : Prop :=
  pool.rangeStart ≤ port ∧ port ≤ pool.rangeEnd

variable {port : UInt16}

lemma inRange_of_mem_range {pool : PortPool} (h : port ∈ pool.range) : pool.InRange port := by
  rcases mem_map.mp h with ⟨n, hn, rfl⟩
  rw [mem_range'_1] at hn
  have hstop : pool.rangeEnd.toNat < 2 ^ 16 := pool.rangeEnd.toNat_lt
  have hsmall : n < UInt16.size := by
    rw [UInt16.size]
    omega
  have hport : (UInt16.ofNat n).toNat = n := UInt16.toNat_ofNat_of_lt hsmall
  rw [InRange, UInt16.le_iff_toNat_le, UInt16.le_iff_toNat_le, hport]
  omega

variable {pool pool' : PortPool}

/-- A port that is handed out was free and lies in the range. -/
lemma allocate_eq_some (h : pool.allocate = some (port, pool')) :
    port ∉ pool.usedPorts ∧ pool.InRange port ∧ pool' = pool.use port := by
  rcases Option.map_eq_some_iff.mp h with ⟨found, hfound, hout⟩
  cases hout
  have hfree : port ∉ pool.usedPorts := by simpa using find?_some hfound
  exact ⟨hfree, inRange_of_mem_range (mem_of_find?_eq_some hfound), rfl⟩

lemma allocateSpecific_eq_some (h : pool.allocateSpecific port = some pool') :
    port ∉ pool.usedPorts ∧ pool.InRange port ∧ pool' = pool.use port := by
  unfold allocateSpecific at h
  split at h
  · cases h
  next hrange =>
    split at h
    · cases h
    next hfree =>
      cases h
      rw [not_or] at hrange
      exact ⟨hfree, ⟨UInt16.not_lt.mp hrange.1, UInt16.not_lt.mp hrange.2⟩, rfl⟩

end PortPool

namespace TunnelRegistry

lemma allocatePort_eq_ok {remotePort port : UInt16} {pool pool' : PortPool}
    (h : allocatePort remotePort pool = .ok (port, pool')) :
    port ∉ pool.usedPorts ∧ pool.InRange port ∧ pool' = pool.use port := by
  unfold allocatePort at h
  split at h
  · split at h
    next hfound =>
      cases h
      exact PortPool.allocate_eq_some hfound
    · cases h
  · split at h
    next hfound =>
      cases h
      exact PortPool.allocateSpecific_eq_some hfound
    · cases h

/-! ## Consistency -/

def Serves (tunnel : ServerTunnel) (serviceId : Uuid) (port : UInt16) : Prop :=
  ∃ service, tunnel.services[serviceId]? = some service ∧ service.assignedPort = some port

def Assigned (tunnels : HashMap Uuid ServerTunnel) (owner : Uuid × Uuid) (port : UInt16) : Prop :=
  ∃ tunnel, tunnels[owner.1]? = some tunnel ∧ Serves tunnel owner.2 port

def HoldsToken (tunnels : HashMap Uuid ServerTunnel) (tunnelId : Uuid)
    (tokenHash : String) : Prop :=
  ∃ tunnel, tunnels[tunnelId]? = some tunnel ∧ tunnel.tokenHash = tokenHash

/-- Maps and pool say what the tunnels say, for a pool with the given range. -/
structure Consistent (portRange : UInt16 × UInt16) (r : TunnelRegistry) : Prop where
  ports : Indexes r.servicesByPort (Assigned r.tunnels)
  used : ∀ port, port ∈ r.portPool.usedPorts ↔ port ∈ r.servicesByPort
  range : (r.portPool.rangeStart, r.portPool.rangeEnd) = portRange
  inRange : ∀ port ∈ r.portPool.usedPorts, r.portPool.InRange port
  tokens : Indexes r.tunnelsByToken (HoldsToken r.tunnels)

variable {portRange : UInt16 × UInt16} {r : TunnelRegistry}

lemma consistent_new (portRange : UInt16 × UInt16) : Consistent portRange (new portRange) where
  ports := Indexes.empty (by rintro owner port ⟨tunnel, htunnel, -⟩; simp [new] at htunnel)
  used := by simp [new, PortPool.new]
  range := rfl
  inRange := by simp [new, PortPool.new]
  tokens := Indexes.empty (by rintro id token ⟨tunnel, htunnel, -⟩; simp [new] at htunnel)

/-! ## The truth after a change -/

section Tunnels

variable {tunnels : HashMap Uuid ServerTunnel} {tunnelId : Uuid} {tunnel : ServerTunnel}

variable {changed : ServerTunnel}

lemma assigned_insert (owner : Uuid × Uuid) (port : UInt16) :
    Assigned (tunnels.insert tunnelId changed) owner port ↔
      if tunnelId = owner.1 then Serves changed owner.2 port
      else Assigned tunnels owner port := by
  unfold Assigned
  rw [lookup_insert]
  by_cases h : tunnelId = owner.1
  · simp [h]
  · simp [h]

lemma assigned_erase (owner : Uuid × Uuid) (port : UInt16) :
    Assigned (tunnels.erase tunnelId) owner port ↔
      Assigned tunnels owner port ∧ owner.1 ≠ tunnelId := by
  unfold Assigned
  rw [lookup_erase]
  by_cases h : tunnelId = owner.1
  · simp [h]
  · simp [h, Ne.symm h]

lemma assigned_of_lookup (h : tunnels[tunnelId]? = some tunnel) (serviceId : Uuid)
    (port : UInt16) :
    Assigned tunnels (tunnelId, serviceId) port ↔ Serves tunnel serviceId port := by
  unfold Assigned
  simp [h]

lemma holdsToken_insert (id : Uuid) (tokenHash : String) :
    HoldsToken (tunnels.insert tunnelId changed) id tokenHash ↔
      if tunnelId = id then changed.tokenHash = tokenHash
      else HoldsToken tunnels id tokenHash := by
  unfold HoldsToken
  rw [lookup_insert]
  by_cases h : tunnelId = id
  · simp [h]
  · simp [h]

/-- A tunnel that changes keeps its token. -/
lemma holdsToken_insert_same (h : tunnels[tunnelId]? = some tunnel)
    (htoken : changed.tokenHash = tunnel.tokenHash) (id : Uuid) (tokenHash : String) :
    HoldsToken tunnels id tokenHash ↔
      HoldsToken (tunnels.insert tunnelId changed) id tokenHash := by
  rw [holdsToken_insert]
  split
  next hid =>
    subst hid
    simp [HoldsToken, h, htoken]
  · exact Iff.rfl

lemma holdsToken_erase (id : Uuid) (tokenHash : String) :
    HoldsToken (tunnels.erase tunnelId) id tokenHash ↔
      HoldsToken tunnels id tokenHash ∧ id ≠ tunnelId := by
  unfold HoldsToken
  rw [lookup_erase]
  by_cases h : tunnelId = id
  · simp [h]
  · simp [h, Ne.symm h]

end Tunnels

/-! ## Ports given back -/

/-- Between the two registries the ports of `gone` were given back. -/
structure Released (gone : UInt16 → Prop) (r r' : TunnelRegistry) : Prop where
  ports : ∀ port owner, r'.servicesByPort[port]? = some owner ↔
    r.servicesByPort[port]? = some owner ∧ ¬ gone port
  used : ∀ port, port ∈ r'.portPool.usedPorts ↔ port ∈ r.portPool.usedPorts ∧ ¬ gone port
  range : (r'.portPool.rangeStart, r'.portPool.rangeEnd) =
    (r.portPool.rangeStart, r.portPool.rangeEnd)

lemma releaseService_released (r : TunnelRegistry) (service : TunnelService) :
    Released (fun port => service.assignedPort = some port) r (r.releaseService service) ∧
      (r.releaseService service).tunnels = r.tunnels ∧
      (r.releaseService service).tunnelsByToken = r.tunnelsByToken := by
  unfold releaseService
  cases hport : service.assignedPort with
  | none => exact ⟨⟨by simp, by simp, rfl⟩, rfl, rfl⟩
  | some port =>
    refine ⟨⟨fun other owner => ?_, fun other => ?_, rfl⟩, rfl, rfl⟩
    · rw [lookup_erase]
      by_cases h : port = other
      · simp [h]
      · simp [h]
    · simp only [PortPool.release, Finset.mem_erase]
      simp [and_comm, eq_comm]

lemma foldl_releaseService_released (services : List TunnelService) (r : TunnelRegistry) :
    Released (fun port => ∃ service ∈ services, service.assignedPort = some port) r
        (services.foldl releaseService r) ∧
      (services.foldl releaseService r).tunnels = r.tunnels ∧
      (services.foldl releaseService r).tunnelsByToken = r.tunnelsByToken := by
  induction services generalizing r with
  | nil => exact ⟨⟨by simp, by simp, rfl⟩, rfl, rfl⟩
  | cons service services ih =>
    rcases releaseService_released r service with ⟨hfirst, hfirsts⟩
    rcases ih (r.releaseService service) with ⟨hrest, hrests⟩
    refine ⟨⟨fun port owner => ?_, fun port => ?_, hrest.range.trans hfirst.range⟩,
      hrests.1.trans hfirsts.1, hrests.2.trans hfirsts.2⟩
    · rw [foldl_cons, hrest.ports, hfirst.ports]
      simp [and_assoc]
    · rw [foldl_cons, hrest.used, hfirst.used]
      simp [and_assoc]

/-- Services went away, and exactly their ports were given back. -/
lemma Consistent.of_released {r' : TunnelRegistry} (h : Consistent portRange r)
    {gone : UInt16 → Prop} (lost : Uuid × Uuid → Prop) (hreleased : Released gone r r')
    (hassigned : ∀ owner port,
      Assigned r'.tunnels owner port ↔ Assigned r.tunnels owner port ∧ ¬ lost owner)
    (hgone : ∀ port, gone port ↔ ∃ owner, lost owner ∧ Assigned r.tunnels owner port)
    (htokens : Indexes r'.tunnelsByToken (HoldsToken r'.tunnels)) :
    Consistent portRange r' where
  ports := by
    intro port owner
    rw [hreleased.ports, h.ports, hassigned]
    refine and_congr_right fun hport => not_congr ?_
    rw [hgone]
    constructor
    · rintro ⟨other, hlost, hother⟩
      rwa [h.ports.unique hport hother]
    · intro hlost
      exact ⟨owner, hlost, hport⟩
  used := by
    intro port
    rw [hreleased.used, h.used, Std.ExtTreeMap.mem_iff_isSome_getElem?,
      Std.ExtTreeMap.mem_iff_isSome_getElem?, Option.isSome_iff_exists, Option.isSome_iff_exists]
    simp only [hreleased.ports, exists_and_right]
  range := hreleased.range.trans h.range
  inRange := by
    intro port hport
    have hold := h.inRange port ((hreleased.used port).mp hport).1
    have hrange := Prod.mk.inj hreleased.range
    rw [PortPool.InRange, hrange.1, hrange.2]
    exact hold
  tokens := htokens

/-! ## The calls -/

lemma Consistent.registerTunnel (h : Consistent portRange r) {newId : Uuid}
    (hnew : newId ∉ r.tunnels) (now : Nat) (tokenHash : String) (name : Option String) :
    Consistent portRange (r.registerTunnel newId now tokenHash name).2 := by
  unfold TunnelRegistry.registerTunnel
  split
  · exact h
  next htoken =>
    have hnone : r.tunnels[newId]? = none := Std.ExtTreeMap.getElem?_eq_none hnew
    refine ⟨h.ports.congr fun owner port => ?_, h.used, h.range, h.inRange,
      (h.tokens.insert htoken newId).congr fun id token => ?_⟩
    · -- the new tunnel has no services
      rw [assigned_insert]
      split
      next hid => simp [Assigned, Serves, ← hid, hnone]
      · exact Iff.rfl
    · rw [holdsToken_insert]
      by_cases hid : newId = id
      · simp [← hid, HoldsToken, hnone, eq_comm]
      · simp [hid, Ne.symm hid]

lemma Consistent.unregisterTunnel (h : Consistent portRange r)
    (services : IterOrder Uuid TunnelService) (tunnelId : Uuid) :
    Consistent portRange (TunnelRegistry.unregisterTunnel services tunnelId r).2 := by
  unfold TunnelRegistry.unregisterTunnel
  cases htunnel : r.tunnels[tunnelId]? with
  | none => exact h
  | some tunnel =>
    rcases foldl_releaseService_released ((services.list tunnel.services).map Prod.snd)
      { r with
        tunnels := r.tunnels.erase tunnelId
        tunnelsByToken := r.tunnelsByToken.erase tunnel.tokenHash } with ⟨hreleased, hsame⟩
    have hrel : Released _ r _ := ⟨hreleased.ports, hreleased.used, hreleased.range⟩
    refine h.of_released (fun owner => owner.1 = tunnelId) hrel ?_ ?_ ?_
    · intro owner port
      rw [hsame.1, assigned_erase]
    · -- the ports of the services in the list are those the tunnel serves
      intro port
      constructor
      · rintro ⟨service, hservice, hport⟩
        rcases mem_map.mp hservice with ⟨⟨serviceId, _⟩, hentry, rfl⟩
        exact ⟨(tunnelId, serviceId), rfl, tunnel, htunnel, _,
          (services.mem_list _).mp hentry, hport⟩
      · rintro ⟨⟨_, serviceId⟩, rfl, hassigned⟩
        rcases (assigned_of_lookup htunnel serviceId port).mp hassigned with
          ⟨service, hservice, hport⟩
        exact ⟨service, mem_map.mpr ⟨_, (services.mem_list _).mpr hservice, rfl⟩, hport⟩
    · rw [hsame.1, hsame.2]
      refine (h.tokens.erase tunnel.tokenHash).congr fun id token => ?_
      rw [holdsToken_erase]
      -- the token belongs to the tunnel, and the tunnel has no other
      have hself : HoldsToken r.tunnels tunnelId tunnel.tokenHash := ⟨tunnel, htunnel, rfl⟩
      refine and_congr_right fun hholds => not_congr ?_
      constructor
      · rintro rfl
        exact h.tokens.unique hholds hself
      · rintro rfl
        rcases hholds with ⟨other, hother, rfl⟩
        rw [htunnel] at hother
        cases hother
        rfl

variable {newId tunnelId : Uuid}

lemma Consistent.addService (h : Consistent portRange r)
    (hnew : ∀ tunnel ∈ r.tunnels[tunnelId]?, newId ∉ tunnel.services) (name : String)
    (protocol : ServiceProtocol) (localPort remotePort : UInt16) :
    Consistent portRange
      (TunnelRegistry.addService newId tunnelId name protocol localPort remotePort r).2 := by
  unfold TunnelRegistry.addService getTunnel
  cases htunnel : r.tunnels[tunnelId]? with
  | none => exact h
  | some tunnel =>
    cases hport : allocatePort remotePort r.portPool with
    | error e => exact h
    | ok allocated =>
      rcases allocated with ⟨port, pool⟩
      rcases allocatePort_eq_ok hport with ⟨hfree, hrange, rfl⟩
      have hunused : port ∉ r.servicesByPort := fun hmem => hfree ((h.used port).mpr hmem)
      refine ⟨(h.ports.insert hunused (tunnelId, newId)).congr ?_, fun other => ?_, h.range,
        fun other hother => ?_, h.tokens.congr (holdsToken_insert_same htunnel rfl)⟩
      · rintro ⟨id, serviceId⟩ other
        rw [assigned_insert]
        by_cases hid : tunnelId = id
        · subst hid
          rw [if_pos rfl, assigned_of_lookup htunnel]
          unfold Serves
          rw [lookup_insert]
          by_cases hservice : newId = serviceId
          · have hnone : tunnel.services[serviceId]? = none :=
              Std.ExtTreeMap.getElem?_eq_none (hservice ▸ hnew tunnel htunnel)
            simp [hservice, hnone, eq_comm]
          · simp [hservice, Ne.symm hservice]
        · simp [hid, Ne.symm hid]
      · simp only [PortPool.use, Finset.mem_insert, h.used, Std.ExtTreeMap.mem_insert,
          Std.compare_eq_iff_eq]
        simp [eq_comm]
      · rcases Finset.mem_insert.mp hother with rfl | hold
        · exact hrange
        · exact h.inRange other hold

lemma Consistent.removeService (h : Consistent portRange r) (tunnelId serviceId : Uuid) :
    Consistent portRange (TunnelRegistry.removeService tunnelId serviceId r).2 := by
  unfold TunnelRegistry.removeService getTunnel
  cases htunnel : r.tunnels[tunnelId]? with
  | none => exact h
  | some tunnel =>
    cases hservice : tunnel.services[serviceId]? with
    | none =>
      simp only [hservice]
      exact h
    | some service =>
      simp only [hservice]
      rcases releaseService_released
        { r with
          tunnels := r.tunnels.insert tunnelId
            { tunnel with services := tunnel.services.erase serviceId } } service with
        ⟨hreleased, hsame⟩
      have hrel : Released _ r _ := ⟨hreleased.ports, hreleased.used, hreleased.range⟩
      refine h.of_released (fun owner => owner = (tunnelId, serviceId)) hrel ?_ ?_ ?_
      · rintro ⟨id, otherId⟩ port
        rw [hsame.1, assigned_insert]
        by_cases hid : tunnelId = id
        · subst hid
          rw [if_pos rfl, assigned_of_lookup htunnel]
          unfold Serves
          rw [lookup_erase]
          by_cases hother : serviceId = otherId
          · simp [hother]
          · simp [hother, Ne.symm hother]
        · simp [hid, Ne.symm hid]
      · intro port
        simp [assigned_of_lookup htunnel, Serves, hservice]
      · rw [hsame.1, hsame.2]
        exact h.tokens.congr (holdsToken_insert_same htunnel rfl)

lemma Consistent.touchTunnel (h : Consistent portRange r) (now : Nat) (tunnelId : Uuid) :
    Consistent portRange (TunnelRegistry.touchTunnel now tunnelId r) := by
  unfold TunnelRegistry.touchTunnel getTunnel
  cases htunnel : r.tunnels[tunnelId]? with
  | none => exact h
  | some tunnel =>
    refine ⟨h.ports.congr ?_, h.used, h.range, h.inRange,
      h.tokens.congr (holdsToken_insert_same htunnel rfl)⟩
    rintro ⟨id, serviceId⟩ port
    rw [assigned_insert]
    split
    next hid =>
      cases hid
      exact assigned_of_lookup htunnel serviceId port
    · exact Iff.rfl

lemma Consistent.cleanupStale (h : Consistent portRange r)
    (tunnels : IterOrder Uuid ServerTunnel) (services : IterOrder Uuid TunnelService)
    (now maxIdle : Nat) :
    Consistent portRange (TunnelRegistry.cleanupStale tunnels services now maxIdle r).2 := by
  unfold TunnelRegistry.cleanupStale
  generalize ((tunnels.list r.tunnels).filter _).map Prod.fst = staleIds
  induction staleIds generalizing r with
  | nil => exact h
  | cons tunnelId staleIds ih => exact ih (h.unregisterTunnel services tunnelId)

/-! ## Tunnels that are taken away -/

lemma lookup_unregisterTunnel (services : IterOrder Uuid TunnelService) (tunnelId : Uuid)
    (r : TunnelRegistry) (id : Uuid) :
    (r.unregisterTunnel services tunnelId).2.tunnels[id]? =
      if tunnelId = id then none else r.tunnels[id]? := by
  unfold TunnelRegistry.unregisterTunnel
  cases htunnel : r.tunnels[tunnelId]? with
  | none =>
    dsimp only
    split
    next heq => exact heq ▸ htunnel
    · rfl
  | some tunnel =>
    dsimp only
    rw [(foldl_releaseService_released _ _).2.1, lookup_erase]

lemma lookup_cleanupStale (tunnels : IterOrder Uuid ServerTunnel)
    (services : IterOrder Uuid TunnelService) (now maxIdle : Nat) (r : TunnelRegistry) (id : Uuid) :
    (r.cleanupStale tunnels services now maxIdle).2.tunnels[id]? =
      if ∃ tunnel ∈ r.tunnels[id]?, tunnel.isIdleFor now maxIdle then none
      else r.tunnels[id]? := by
  have hfold (ids : List Uuid) (r : TunnelRegistry) :
      (ids.foldl (fun r tunnelId => (r.unregisterTunnel services tunnelId).2) r).tunnels[id]? =
        if id ∈ ids then none else r.tunnels[id]? := by
    induction ids generalizing r with
    | nil => rfl
    | cons first ids ih =>
      rw [foldl_cons, ih, lookup_unregisterTunnel]
      by_cases hfirst : first = id
      · simp [hfirst]
      · simp [hfirst, Ne.symm hfirst]
  unfold TunnelRegistry.cleanupStale
  dsimp only
  rw [hfold]
  simp [tunnels.mem_list]

/-- A port stays used exactly if its tunnel stays. -/
lemma Consistent.used_of_removed {r' : TunnelRegistry} (h : Consistent portRange r)
    (h' : Consistent portRange r') {gone : Uuid → Prop} [DecidablePred gone]
    (htunnels : ∀ id, r'.tunnels[id]? = if gone id then none else r.tunnels[id]?)
    (port : UInt16) : port ∈ r'.portPool.usedPorts ↔ port ∈ r.portPool.usedPorts ∧
      ∀ owner, Assigned r.tunnels owner port → ¬ gone owner.1 := by
  have hassigned (owner : Uuid × Uuid) : Assigned r'.tunnels owner port ↔
      Assigned r.tunnels owner port ∧ ¬ gone owner.1 := by
    unfold Assigned
    rw [htunnels]
    by_cases hgone : gone owner.1 <;> simp [hgone]
  rw [h.used, h'.used, h.ports.mem_iff, h'.ports.mem_iff]
  simp only [hassigned]
  constructor
  · rintro ⟨owner, howner, hstays⟩
    refine ⟨⟨owner, howner⟩, fun other hother => ?_⟩
    rwa [h.ports.unique hother howner]
  · rintro ⟨⟨owner, howner⟩, hstays⟩
    exact ⟨owner, howner, hstays owner howner⟩

/-- Unregistering a tunnel frees its ports and no others. -/
lemma Consistent.used_unregisterTunnel (h : Consistent portRange r)
    (services : IterOrder Uuid TunnelService) (tunnelId : Uuid) (port : UInt16) :
    port ∈ (r.unregisterTunnel services tunnelId).2.portPool.usedPorts ↔
      port ∈ r.portPool.usedPorts ∧ ∀ owner, Assigned r.tunnels owner port → tunnelId ≠ owner.1 :=
  h.used_of_removed (h.unregisterTunnel services tunnelId)
    (lookup_unregisterTunnel services tunnelId r) port

/-- A cleanup frees the ports of the idle tunnels and no others. -/
lemma Consistent.used_cleanupStale (h : Consistent portRange r)
    (tunnels : IterOrder Uuid ServerTunnel) (services : IterOrder Uuid TunnelService)
    (now maxIdle : Nat) (port : UInt16) :
    port ∈ (r.cleanupStale tunnels services now maxIdle).2.portPool.usedPorts ↔
      port ∈ r.portPool.usedPorts ∧ ∀ owner, Assigned r.tunnels owner port →
        ¬ ∃ tunnel ∈ r.tunnels[owner.1]?, tunnel.isIdleFor now maxIdle :=
  h.used_of_removed (h.cleanupStale tunnels services now maxIdle)
    (lookup_cleanupStale tunnels services now maxIdle r) port

/-! ## Runs -/

/-- `Uuid::new_v4` does not return an id that is in use: no live tunnel has that of a new tunnel,
and no service of the tunnel has that of a new service. -/
def FreshId (r : TunnelRegistry) : Call → Prop
  | .registerTunnel newId _ _ _ => newId ∉ r.tunnels
  | .addService newId tunnelId _ _ _ _ =>
    ∀ tunnel ∈ r.tunnels[tunnelId]?, newId ∉ tunnel.services
  | .unregisterTunnel .. | .removeService .. | .touchTunnel .. | .cleanupStale .. => True

instance (r : TunnelRegistry) (c : Call) : Decidable (r.FreshId c) := by
  cases c <;> unfold FreshId <;> infer_instance

lemma Consistent.next (h : Consistent portRange r) {c : Call} (hfresh : r.FreshId c) :
    Consistent portRange (r.next c) := by
  cases c with
  | registerTunnel newId now tokenHash name => exact h.registerTunnel hfresh now tokenHash name
  | unregisterTunnel services tunnelId => exact h.unregisterTunnel services tunnelId
  | addService newId tunnelId name protocol localPort remotePort =>
    exact h.addService hfresh name protocol localPort remotePort
  | removeService tunnelId serviceId => exact h.removeService tunnelId serviceId
  | touchTunnel now tunnelId => exact h.touchTunnel now tunnelId
  | cleanupStale tunnels services now maxIdle =>
    exact h.cleanupStale tunnels services now maxIdle

variable {e : RegistryError}

lemma registerTunnel_of_error {newId : Uuid} {now : Nat} {tokenHash : String}
    {name : Option String} (h : (r.registerTunnel newId now tokenHash name).1 = .error e) :
    (r.registerTunnel newId now tokenHash name).2 = r := by
  unfold TunnelRegistry.registerTunnel at h ⊢
  split at h
  next htoken => rw [if_pos htoken]
  · cases h

lemma addService_of_error {name : String} {protocol : ServiceProtocol}
    {localPort remotePort : UInt16}
    (h : (r.addService newId tunnelId name protocol localPort remotePort).1 = .error e) :
    (r.addService newId tunnelId name protocol localPort remotePort).2 = r := by
  unfold TunnelRegistry.addService at h ⊢
  cases htunnel : r.getTunnel tunnelId with
  | none => rfl
  | some tunnel =>
    cases hport : allocatePort remotePort r.portPool with
    | error => rfl
    | ok allocated =>
      simp only [htunnel, hport] at h
      cases h

lemma removeService_of_error {tunnelId serviceId : Uuid}
    (h : (r.removeService tunnelId serviceId).1 = .error e) :
    (r.removeService tunnelId serviceId).2 = r := by
  unfold TunnelRegistry.removeService at h ⊢
  cases htunnel : r.getTunnel tunnelId with
  | none => rfl
  | some tunnel =>
    cases hservice : tunnel.services[serviceId]? with
    | none => simp only [hservice]
    | some service =>
      simp only [htunnel, hservice] at h
      cases h

/-- A call that fails leaves the registry as it was. -/
lemma next_of_error {c : Call} (h : (r.call c).1 = .error e) : r.next c = r := by
  cases c with
  | registerTunnel => exact registerTunnel_of_error (Result.map_eq_error_iff.mp h)
  | addService => exact addService_of_error (Result.map_eq_error_iff.mp h)
  | removeService => exact removeService_of_error (Result.map_eq_error_iff.mp h)
  | unregisterTunnel | touchTunnel | cleanupStale => cases h

variable {port : UInt16}

lemma Consistent.configured (h : Consistent portRange r) (hport : port ∈ r.portPool.usedPorts) :
    portRange.1 ≤ port ∧ port ≤ portRange.2 := by
  rw [← h.range]
  exact h.inRange port hport

/-- Every used port finds its service. -/
lemma Consistent.getServiceByPort (h : Consistent portRange r)
    (hport : port ∈ r.portPool.usedPorts) :
    ∃ tunnel service, r.getServiceByPort port = some (tunnel, service) ∧
      service.assignedPort = some port := by
  rcases (h.ports.mem_iff port).mp ((h.used port).mp hport) with ⟨⟨tunnelId, serviceId⟩, howner⟩
  have hfound := (h.ports port (tunnelId, serviceId)).mpr howner
  rcases howner with ⟨tunnel, htunnel, service, hservice, hassigned⟩
  refine ⟨tunnel, service, ?_, hassigned⟩
  simp only [TunnelRegistry.getServiceByPort, getTunnel, hfound, Option.bind_eq_bind,
    Option.bind_some, htunnel, hservice]
  rfl

/-- After every run the pool's used ports are the ports of the services of live tunnels and the
keys of the map of ports, each of them maps to its one service and lies in the configured range,
the map of tokens is the inverse of the tunnels' tokens, and a failing call changes nothing. -/
theorem registry_consistent (portRange : UInt16 × UInt16) (calls : List Call)
    (hfresh : Machine.Along TunnelRegistry.next FreshId (new portRange) calls) :
    let r := calls.foldl TunnelRegistry.next (new portRange)
    (∀ port, port ∈ r.portPool.usedPorts ↔ ∃ owner, Assigned r.tunnels owner port) ∧
      (∀ port, port ∈ r.portPool.usedPorts ↔ port ∈ r.servicesByPort) ∧
      (∀ port owner, r.servicesByPort[port]? = some owner ↔ Assigned r.tunnels owner port) ∧
      (∀ port ∈ r.portPool.usedPorts, portRange.1 ≤ port ∧ port ≤ portRange.2 ∧
        ∃ tunnel service, r.getServiceByPort port = some (tunnel, service) ∧
          service.assignedPort = some port) ∧
      (∀ tokenHash tunnelId, r.tunnelsByToken[tokenHash]? = some tunnelId ↔
        HoldsToken r.tunnels tunnelId tokenHash) ∧
      ∀ c e, (r.call c).1 = .error e → (r.call c).2 = r := by
  have h : Consistent portRange (calls.foldl TunnelRegistry.next (new portRange)) :=
    hfresh.invariant (fun _ _ hr hc => hr.next hc) (consistent_new portRange)
  refine ⟨fun port => (h.used port).trans (h.ports.mem_iff port), h.used, h.ports, ?_, h.tokens,
    fun c e => next_of_error⟩
  intro port hport
  have hrange := h.configured hport
  exact ⟨hrange.1, hrange.2, h.getServiceByPort hport⟩

def exampleCalls : List Call :=
  [.registerTunnel 1 0 "red" none,
    .registerTunnel 2 5 "blue" (some "laptop"),
    .addService 11 1 "web" .tcp 8080 0,
    .addService 12 2 "dns" .udp 53 30001,
    .addService 13 2 "ssh" .tcp 22 30001,
    .registerTunnel 3 6 "red" none,
    .cleanupStale .byKey .byKey 20 16,
    .addService 14 2 "web" .tcp 80 0,
    .removeService 2 12]

theorem registry_consistent_exampleCalls :
    let r := exampleCalls.foldl TunnelRegistry.next (new (30000, 30001))
    (∀ port owner, r.servicesByPort[port]? = some owner ↔ Assigned r.tunnels owner port) ∧
      r.portPool.usedPorts = {30000} := by
  have h := registry_consistent (30000, 30001) exampleCalls (by decide +kernel)
  exact ⟨h.2.2.1, by decide +kernel⟩

end TunnelRegistry

end ZLayer.Tunnel
