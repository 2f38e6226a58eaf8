import ZLayer.Scheduler.WorkerDispatcher

/-!
# LeaseExpiry — the expiry sweep among grants and renewals

The sweep judges the leases of a snapshot and then proposes one `ExpireWorkerLease` after the other.
The command deletes whatever lease the node has when it is applied, and the sweep then drops
whatever session the node has.  A grant or a renewal that is applied in between is deleted with the
stale record, and a worker that registers in between loses its session.

Nothing newer is removed in a run in which no lease of a node that awaits its expiry is granted or
renewed, and no session of such a node is installed.
-/

namespace ZLayer.Scheduler

open Lib List

/-! ## What awaits the sweep -/

namespace SweepPc

/-- The snapshot entries the sweep has still to expire. -/
def condemned (cfg : DispatcherConfig) : SweepPc → List (NodeId × WorkerLeaseRecord)
  | working nowNs todo =>
    todo.filter fun entry => entry.2.isExpired nowNs cfg.ttlCfg.graceSecs
  | dropping _ nowNs todo =>
    todo.filter fun entry => entry.2.isExpired nowNs cfg.ttlCfg.graceSecs
  | _ => []

/-- The nodes whose session the sweep may still drop. -/
def doomed (cfg : DispatcherConfig) (pc : SweepPc) : List NodeId :=
  match pc with
  | dropping node _ _ => node :: (pc.condemned cfg).map Prod.fst
  | _ => (pc.condemned cfg).map Prod.fst

end SweepPc

/-- The node whose lease a command grants or renews, and the time it sets. -/
def Request.renews : Request → Option (NodeId × UInt64)
  | .grantWorkerLease nodeId _ _ renewedNs _ => some (nodeId, renewedNs)
  | .renewWorkerLease nodeId renewedNs _ => some (nodeId, renewedNs)
  | _ => none

/-! ## Histories -/

/-- The tasks of a dispatcher, and the nodes whose session was installed since the sweep took its
snapshot. -/
structure SweepHistory where
  system : DispatcherSystem
  fresh : List NodeId

namespace SweepHistory

def start (cluster : ClusterState) (startingNodeId : NodeId) : SweepHistory :=
  { system := .start cluster startingNodeId
    fresh := [] }

variable (cfg : DispatcherConfig) (calls : ℕ → RegisterRequest)

def withFresh (h : SweepHistory) (e : DispatcherEvent) : List NodeId :=
  match h.system.effect cfg calls e, e, h.system.sweep with
  | .insert session, _, _ => session.nodeId :: h.fresh
  -- the sweep reads the leases
  | _, .sweep _ _, .ticked _ => []
  | _, _, _ => h.fresh

def next (h : SweepHistory) (e : DispatcherEvent) : SweepHistory :=
  { system := h.system.next cfg calls e
    fresh := h.withFresh cfg calls e }

def lease (h : SweepHistory) (node : NodeId) : Option WorkerLeaseRecord :=
  h.system.dispatcher.cluster.workerLeases[node]?

def session (h : SweepHistory) (node : NodeId) : Option WorkerSession :=
  h.system.dispatcher.sessions[node]?

/-- The step of the sweep keeps a lease that is newer than the one it judges, and the session of a
worker that has registered since the snapshot. -/
structure SparesNewer (h : SweepHistory) (e : DispatcherEvent) : Prop where
  lease : ∀ r order, e = .sweep r order → ∀ nowNs node judged rest,
    h.system.sweep = .working nowNs ((node, judged) :: rest) →
    ∀ current, h.lease node = some current → judged.renewedNs < current.renewedNs →
      (h.next cfg calls e).lease node = some current
  session : ∀ r order, e = .sweep r order → ∀ node nowNs todo,
    h.system.sweep = .dropping node nowNs todo → node ∈ h.fresh →
    (h.next cfg calls e).session node = h.session node

/-- No lease that awaits its expiry is renewed beyond the judged record, and no session that awaits
its removal is installed. -/
structure LeavesCondemnedAlone (h : SweepHistory) (e : DispatcherEvent) : Prop where
  lease : ∀ now req node renewedNs, h.system.effect cfg calls e = .commit now req →
    req.renews = some (node, renewedNs) →
    ∀ judged, (node, judged) ∈ h.system.sweep.condemned cfg → renewedNs ≤ judged.renewedNs
  session : ∀ session, h.system.effect cfg calls e = .insert session →
    session.nodeId ∉ h.system.sweep.doomed cfg

/-! ## The invariant -/

/-- Every lease that awaits its expiry is no newer than the judged record, and no session that
awaits its removal is fresh. -/
structure Stale (h : SweepHistory) : Prop where
  lease : ∀ node judged, (node, judged) ∈ h.system.sweep.condemned cfg →
    ∀ current, h.lease node = some current → current.renewedNs ≤ judged.renewedNs
  session : ∀ node ∈ h.system.sweep.doomed cfg, node ∉ h.fresh

end SweepHistory

/-! ## One step -/

/-- A command takes the renewal time of a lease at most to the one it sets. -/
lemma renewedNs_le_onLease {req : Request} {node : NodeId} {bound : UInt64}
    {lease : Option WorkerLeaseRecord}
    (hold : ∀ current, lease = some current → current.renewedNs ≤ bound)
    (hreq : ∀ renewedNs, req.renews = some (node, renewedNs) → renewedNs ≤ bound) :
    ∀ current, req.onLease node lease = some current → current.renewedNs ≤ bound := by
  intro current hcurrent
  -- only a grant and a renewal set the time, and only for their own node
  cases req with
  | grantWorkerLease nodeId holder acquiredNs renewedNs ttlSecs =>
    simp only [Request.onLease] at hcurrent
    split at hcurrent
    next hnode =>
      cases hcurrent
      exact hreq renewedNs (by rw [Request.renews, hnode])
    next => exact hold current hcurrent
  | renewWorkerLease nodeId renewedNs ttlSecs =>
    simp only [Request.onLease] at hcurrent
    split at hcurrent
    next hnode =>
      rcases Option.map_eq_some_iff.mp hcurrent with ⟨old, hlookup, rfl⟩
      unfold ClusterState.renewLease
      split
      · exact hreq renewedNs (by rw [Request.renews, hnode])
      · exact hold old hlookup
    next => exact hold current hcurrent
  | expireWorkerLease | revokeWorkerLease =>
    simp only [Request.onLease] at hcurrent
    split at hcurrent
    · cases hcurrent
    · exact hold current hcurrent
  | _ => exact hold current hcurrent

namespace SweepPc

variable {cfg : DispatcherConfig} {r : Reading}
  {order : HashMap.IterOrder NodeId WorkerLeaseRecord} {d : WorkerDispatcherImpl} {pc : SweepPc}
  {node : NodeId}

/-- What awaits its expiry did so before, or has just been read from the replicated state. -/
lemma condemned_step {judged : WorkerLeaseRecord}
    (h : (node, judged) ∈ (pc.step cfg r order d).1.condemned cfg) :
    (node, judged) ∈ pc.condemned cfg ∨
      (∃ nowNs, pc = .ticked nowNs) ∧ d.cluster.workerLeases[node]? = some judged := by
  cases pc with
  | idle => cases h
  | ticked nowNs =>
    have hmem := mem_of_mem_filter h
    exact .inr ⟨⟨nowNs, rfl⟩, (order.mem_list _).mp hmem⟩
  | dropping target nowNs todo => exact .inl h
  | working nowNs todo =>
    cases todo with
    | nil => cases h
    | cons entry rest =>
      -- whatever is decided about the head, the rest of the snapshot is what remains
      have hrest : (node, judged) ∈
          rest.filter fun entry => entry.2.isExpired nowNs cfg.ttlCfg.graceSecs := by
        simp only [step] at h
        split at h
        · split at h <;> exact h
        · exact h
      exact .inl ((sublist_cons_self entry rest).filter _ |>.mem hrest)

/-- A session that may still be dropped could be dropped before, unless the snapshot is new. -/
lemma doomed_step (h : node ∈ (pc.step cfg r order d).1.doomed cfg) :
    node ∈ pc.doomed cfg ∨ ∃ nowNs, pc = .ticked nowNs := by
  cases pc with
  | idle => cases h
  | ticked nowNs => exact .inr ⟨nowNs, rfl⟩
  | dropping target nowNs todo => exact .inl (mem_cons_of_mem target h)
  | working nowNs todo =>
    cases todo with
    | nil => cases h
    | cons entry rest =>
      rcases entry with ⟨target, lease⟩
      refine .inl ?_
      -- an expired head is condemned before the step and its session doomed after it
      by_cases hexpired : lease.isExpired nowNs cfg.ttlCfg.graceSecs = true
      · have hdoomed : (working nowNs ((target, lease) :: rest)).doomed cfg =
            target :: (working nowNs rest).doomed cfg := by
          simp only [doomed, condemned, filter_cons, hexpired, if_true, map_cons]
        rw [hdoomed]
        simp only [step, hexpired, if_true] at h
        split at h
        · exact mem_cons_of_mem target h
        · exact h
      · have hdoomed : (working nowNs ((target, lease) :: rest)).doomed cfg =
            (working nowNs rest).doomed cfg := by
          simp only [doomed, condemned, filter_cons, hexpired, if_false,
            Bool.false_eq_true]
        rw [hdoomed]
        simp only [step, hexpired, if_false, Bool.false_eq_true] at h
        exact h

end SweepPc

namespace SweepHistory

variable {cfg : DispatcherConfig} {calls : ℕ → RegisterRequest} {h : SweepHistory}
  {e : DispatcherEvent} {node : NodeId}

lemma lease_next : (h.next cfg calls e).lease node =
      match h.system.effect cfg calls e with
      | .commit _ req => req.onLease node (h.lease node)
      | _ => h.lease node := by
  unfold lease next
  rw [DispatcherSystem.dispatcher_next]
  cases h.system.effect cfg calls e with
  | commit now req => exact lookup_workerLeases_apply now _ req node
  | _ => rfl

lemma mem_withFresh (hmem : node ∈ h.withFresh cfg calls e) :
    node ∈ h.fresh ∨ ∃ session, h.system.effect cfg calls e = .insert session ∧
      session.nodeId = node := by
  unfold withFresh at hmem
  split at hmem
  next session heffect =>
    rcases mem_cons.mp hmem with rfl | hold
    · exact .inr ⟨session, heffect, rfl⟩
    · exact .inl hold
  next => cases hmem
  next => exact .inl hmem

/-- What is condemned after a step was condemned before it, or is the lease the state has. -/
lemma condemned_next {judged : WorkerLeaseRecord}
    (hmem : (node, judged) ∈ (h.next cfg calls e).system.sweep.condemned cfg) :
    (node, judged) ∈ h.system.sweep.condemned cfg ∨
      (h.next cfg calls e).lease node = some judged := by
  cases e with
  | sweep r order =>
    rcases SweepPc.condemned_step hmem with hold | ⟨⟨nowNs, hpc⟩, hlease⟩
    · exact .inl hold
    · -- reading the leases changes nothing
      have hnone : h.system.effect cfg calls (.sweep r order) = .none := by
        simp only [DispatcherSystem.effect, hpc, SweepPc.step]
      rw [lease_next, hnone]
      exact .inr hlease
  | _ => exact .inl hmem

lemma doomed_next (hmem : node ∈ (h.next cfg calls e).system.sweep.doomed cfg) :
    node ∈ h.system.sweep.doomed cfg ∨ h.withFresh cfg calls e = [] := by
  cases e with
  | sweep r order =>
    rcases SweepPc.doomed_step hmem with hold | ⟨nowNs, hpc⟩
    · exact .inl hold
    · exact .inr (by simp only [withFresh, DispatcherSystem.effect, hpc, SweepPc.step])
  | _ => exact .inl hmem

lemma Stale.next (hs : h.Stale cfg) (hl : h.LeavesCondemnedAlone cfg calls e) :
    (h.next cfg calls e).Stale cfg where
  lease node judged hmem current hcurrent := by
    rcases condemned_next hmem with hold | hlease
    -- condemned before: the command, if there is one, does not renew it beyond `judged`
    · have hbefore := hs.lease node judged hold
      rw [lease_next] at hcurrent
      cases heffect : h.system.effect cfg calls e with
      | commit now req =>
        rw [heffect] at hcurrent
        exact renewedNs_le_onLease hbefore
          (fun renewedNs hrenews => hl.lease now req node renewedNs heffect hrenews judged hold)
          current hcurrent
      | _ =>
        rw [heffect] at hcurrent
        exact hbefore current hcurrent
    -- just read from the state: `judged` is the current lease
    · rw [hlease] at hcurrent
      cases hcurrent
      exact UInt64.le_refl _
  session node hmem hfresh := by
    rcases doomed_next hmem with hold | hnil
    -- doomed before: it was not fresh then, and the step does not install it
    · rcases mem_withFresh hfresh with hfresh | ⟨session, heffect, rfl⟩
      · exact hs.session node hold hfresh
      · exact hl.session session heffect hold
    · have hmem : node ∈ h.withFresh cfg calls e := hfresh
      rw [hnil] at hmem
      cases hmem

lemma sparesNewer_of_stale (hs : h.Stale cfg) : h.SparesNewer cfg calls e where
  lease r order he nowNs node judged rest hpc current hcurrent hnewer := by
    subst he
    by_cases hexpired : judged.isExpired nowNs cfg.ttlCfg.graceSecs = true
    -- the sweep would expire it, but then nothing newer is there
    · have hmem : (node, judged) ∈ h.system.sweep.condemned cfg := by
        rw [hpc]
        exact mem_filter.mpr ⟨mem_cons_self, hexpired⟩
      exact absurd hnewer (UInt64.not_lt.mpr (hs.lease node judged hmem current hcurrent))
    · have hnone : h.system.effect cfg calls (.sweep r order) = .none := by
        simp only [DispatcherSystem.effect, hpc, SweepPc.step, hexpired, if_false,
          Bool.false_eq_true]
      rw [lease_next, hnone]
      exact hcurrent
  session r order he node nowNs todo hpc hfresh := by
    have hmem : node ∈ h.system.sweep.doomed cfg := by
      rw [hpc]
      exact mem_cons_self
    exact absurd hfresh (hs.session node hmem)

/-! ## Runs -/

/-- In every run in which nothing that awaits its expiry is renewed or installed again, the sweep
spares every newer lease and every fresh session. -/
theorem sparesNewer_of_leavesCondemnedAlone (cfg : DispatcherConfig)
    (calls : ℕ → RegisterRequest) (cluster : ClusterState) (startingNodeId : NodeId)
    (events : List DispatcherEvent)
    (h : Machine.Along (SweepHistory.next cfg calls) (LeavesCondemnedAlone cfg calls)
      (start cluster startingNodeId) events) :
    Machine.Along (SweepHistory.next cfg calls) (SparesNewer cfg calls)
      (start cluster startingNodeId) events :=
  h.imp (I := Stale cfg) (fun _ _ hs hl => hs.next hl) (fun _ _ hs _ => sparesNewer_of_stale hs)
    ⟨nofun, nofun⟩

/-- The sweep itself renews and installs nothing. -/
lemma leavesCondemnedAlone_sweep (h : SweepHistory) (r : Reading)
    (order : HashMap.IterOrder NodeId WorkerLeaseRecord) :
    h.LeavesCondemnedAlone cfg calls (.sweep r order) where
  lease now req node renewedNs heffect hrenews := by
    rcases SweepPc.commit_step heffect with ⟨expired, rfl⟩
    cases hrenews
  session session heffect := by
    rcases SweepPc.keepsIds_step cfg r order h.system.dispatcher h.system.sweep with
      hkeeps | ⟨node, nowNs, todo, hpc, hdrop⟩
    · have hinsert : (h.system.sweep.step cfg r order h.system.dispatcher).2 = .insert session :=
        heffect
      rw [hinsert] at hkeeps
      cases hkeeps
    · have hinsert := hdrop.symm.trans heffect
      cases hinsert

/-- Between two sweeps nothing awaits its expiry. -/
lemma leavesCondemnedAlone_of_idle (h : SweepHistory) (hidle : h.system.sweep = .idle)
    (e : DispatcherEvent) : h.LeavesCondemnedAlone cfg calls e where
  lease now req node renewedNs heffect hrenews judged hmem := by
    rw [hidle] at hmem
    cases hmem
  session session heffect hmem := by
    rw [hidle] at hmem
    cases hmem

def leaseAt (grantedNs : UInt64) : WorkerLeaseRecord :=
  { nodeId := 5
    holder := workerName 5
    acquiredNs := grantedNs
    renewedNs := grantedNs
    ttlSecs := 10
    revision := 1 }

def staleGrant : DispatcherEvent :=
  .command 0 (.grantWorkerLease 5 (workerName 5) 0 0 10)

def lateSweep : DispatcherEvent :=
  .sweep (readingAt 1000000000000) .byKey

/-- The lease of node 6 is not stale, and it is renewed while the sweep is under way. -/
def renewedMeanwhile : List DispatcherEvent :=
  [staleGrant, .command 0 (.grantWorkerLease 6 (workerName 6) 995000000000 995000000000 10),
    lateSweep, lateSweep, .command 0 (.renewWorkerLease 6 1000000000000 10), lateSweep, lateSweep,
    lateSweep]

/-- The sweep removes the stale lease and keeps the one that is newer than its snapshot. -/
theorem sparesNewer_of_lateSweep :
    let final := renewedMeanwhile.foldl (SweepHistory.next plainConfig fun _ => plainRequest 5)
      (start .default 100)
    (final.lease 5 = none ∧ (final.lease 6).map (·.renewedNs) = some 1000000000000) ∧
      Machine.Along (SweepHistory.next plainConfig fun _ => plainRequest 5)
        (SparesNewer plainConfig fun _ => plainRequest 5) (start .default 100)
        renewedMeanwhile := by
  refine ⟨by decide +kernel, sparesNewer_of_leavesCondemnedAlone _ _ _ _ _ ?_⟩
  refine ⟨leavesCondemnedAlone_of_idle _ rfl _, leavesCondemnedAlone_of_idle _ rfl _,
    leavesCondemnedAlone_sweep _ _ _, leavesCondemnedAlone_sweep _ _ _, ⟨?_, nofun⟩,
    leavesCondemnedAlone_sweep _ _ _, leavesCondemnedAlone_sweep _ _ _,
    leavesCondemnedAlone_sweep _ _ _, trivial⟩
  -- of the snapshot only the lease of node 5 awaits its expiry
  rintro _ _ _ _ ⟨⟩ ⟨⟩ judged hmem
  have hnode := mem_map_of_mem (f := Prod.fst) hmem
  dsimp only at hnode
  exact absurd hnode (by decide +kernel)

def reregistration : List DispatcherEvent :=
  let register := DispatcherEvent.register 0 (readingAt 1000000000000)
  [staleGrant, register, register, register, lateSweep, lateSweep, register, register, lateSweep]

/-- The last step of this run removes the new lease, and the next one drops the new session. -/
theorem reregistered_worker_removed :
    ¬ Machine.Along (SweepHistory.next plainConfig fun _ => plainRequest 5)
        (SparesNewer plainConfig fun _ => plainRequest 5) (start .default 100) reregistration ∧
      ¬ (reregistration.foldl (SweepHistory.next plainConfig fun _ => plainRequest 5)
        (start .default 100)).SparesNewer plainConfig (fun _ => plainRequest 5) lateSweep := by
  refine ⟨fun halong => ?_, fun hspares => ?_⟩
  -- the ninth step expires the lease that the seventh has granted
  · have hspared := halong.2.2.2.2.2.2.2.2.1.lease _ _ rfl 1000000000000 5
      (leaseAt 0) [] (by decide +kernel) (leaseAt 1000000000000) (by decide +kernel) (by decide)
    revert hspared
    decide +kernel
  · have hspared := hspares.session _ _ rfl 5 1000000000000 [] (by decide +kernel)
      (by decide +kernel)
    revert hspared
    decide +kernel

end SweepHistory

end ZLayer.Scheduler
