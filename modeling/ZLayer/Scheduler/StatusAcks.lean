import ZLayer.Scheduler.WorkerDispatcher

/-!
# StatusAcks — what a status ack says about the lease

A report stream proposes `RenewWorkerLease` for each report and answers with an ack unless the
proposal fails.  The state machine answers a renewal without a lease with `Response::Error`, but
that is a successful proposal: a worker whose lease was expired or revoked keeps getting acks.

An ack stands for a live lease if, whenever a renewal is applied, the last grant, expiry or
revocation of that lease in the log is a grant.
-/

namespace ZLayer.Scheduler

open Lib List

/-! ## Leases and the log -/

/-- Whether a command puts a lease of the node in place or takes it away; a renewal does neither. -/
def Request.leaseOp (node : NodeId) : Request → Option Bool
  | .grantWorkerLease nodeId _ _ _ _ => if nodeId = node then some true else none
  | .expireWorkerLease nodeId => if nodeId = node then some false else none
  | .revokeWorkerLease nodeId => if nodeId = node then some false else none
  | _ => none

/-- The last grant, expiry or revocation of the node's lease in the log is a grant. -/
def GrantedLast (node : NodeId) (log : List Request) : Prop :=
  (log.filterMap (Request.leaseOp node)).getLast? = some true

lemma isSome_onLease (node : NodeId) (lease : Option WorkerLeaseRecord) (req : Request) :
    (req.onLease node lease).isSome = (req.leaseOp node).getD lease.isSome := by
  cases req with
  | grantWorkerLease nodeId | expireWorkerLease nodeId | revokeWorkerLease nodeId =>
    simp only [Request.onLease, Request.leaseOp]
    split <;> rfl
  | renewWorkerLease nodeId =>
    simp only [Request.onLease, Request.leaseOp]
    split
    · exact Option.isSome_map
    · rfl
  | _ => rfl

/-- The leases of a state are the ones its log has granted and not taken away. -/
def LeasesOf (log : List Request) (cluster : ClusterState) : Prop :=
  ∀ node : NodeId, cluster.workerLeases[node]?.isSome = true ↔ GrantedLast node log

lemma leasesOf_default : LeasesOf [] .default := by
  intro node
  simp [GrantedLast, ClusterState.default]

variable {cluster : ClusterState} {log : List Request}

lemma LeasesOf.apply (h : LeasesOf log cluster) (now : Nat) (req : Request) :
    LeasesOf (log ++ [req]) (cluster.apply now req).1 := by
  intro node
  rw [lookup_workerLeases_apply, isSome_onLease, GrantedLast, filterMap_append,
    getLast?_append]
  cases hop : req.leaseOp node with
  | none =>
    -- the log's last word on this lease is still the one before
    have hnil : [req].filterMap (Request.leaseOp node) = [] := by simp [hop]
    rw [hnil]
    exact h node
  | some placed =>
    have hlast : [req].filterMap (Request.leaseOp node) = [placed] := by simp [hop]
    rw [hlast]
    simp

lemma LeasesOf.run (h : LeasesOf log cluster) (clock : ℕ → Nat) (reqs : List Request) :
    LeasesOf (log ++ reqs) (cluster.run clock reqs).1 := by
  induction reqs generalizing clock log cluster with
  | nil =>
    rw [append_nil]
    exact h
  | cons req reqs ih =>
    have hrest := ih (h.apply (clock 0) req) fun k => clock (k + 1)
    rw [append_assoc] at hrest
    exact hrest

/-! ## Histories -/

/-- The tasks of a dispatcher, the commands applied so far, and for each report stream the lease of
the reported node right after its last renewal. -/
structure AckHistory where
  system : DispatcherSystem
  log : List Request
  renewed : ℕ → Option WorkerLeaseRecord

namespace AckHistory

def start (clock : ℕ → Nat) (log : List Request) (startingNodeId : NodeId) : AckHistory :=
  { system := .start (ClusterState.run clock .default log).1 startingNodeId
    log := log
    renewed := fun _ => none }

variable (cfg : DispatcherConfig) (calls : ℕ → RegisterRequest)

def withLog (h : AckHistory) : Effect → List Request
  | .commit _ req => h.log ++ [req]
  | _ => h.log

/-- The leases a stream has found, `after` being the state after the step. -/
def withRenewed (h : AckHistory) (after : ClusterState) :
    DispatcherEvent → ℕ → Option WorkerLeaseRecord
  | .report stream _ _ _ =>
    match h.system.reports stream with
    | .renewing report _ _ =>
      Function.update h.renewed stream after.workerLeases[report.nodeId]?
    | _ => h.renewed
  | _ => h.renewed

def next (h : AckHistory) (e : DispatcherEvent) : AckHistory :=
  let system := h.system.next cfg calls e
  { system := system
    log := h.withLog (h.system.effect cfg calls e)
    renewed := h.withRenewed system.dispatcher.cluster e }

/-- An ack that the step sends was preceded by a renewal that left a lease, renewed at the time of
the report or later. -/
def AcksLiveLease (h : AckHistory) : DispatcherEvent → Prop
  | .report stream r inbound clientGone => ∀ ack,
      ((h.system.reports stream).step cfg r inbound clientGone h.system.dispatcher).2.2 =
        some (.ok ack) →
      ∃ report nowNs ttl lease, h.system.reports stream = .acking report nowNs ttl ∧
        h.renewed stream = some lease ∧ nowNs ≤ lease.renewedNs
  | _ => True

/-- When the step applies the renewal of a report, the lease was granted after it was last taken
away. -/
def RenewsGranted (h : AckHistory) : DispatcherEvent → Prop
  | .report stream r _ _ => ∀ report nowNs ttl now,
      h.system.reports stream = .renewing report nowNs ttl → r.proposal = .committed now →
      GrantedLast report.nodeId h.log
  | _ => True

end AckHistory

/-! ## One step -/

namespace ReportPc

/-- The report and its time, once its renewal has been proposed. -/
def answering : ReportPc → Option (StatusReport × UInt64)
  | touching report nowNs _ => some (report, nowNs)
  | acking report nowNs _ => some (report, nowNs)
  | _ => none

variable {cfg : DispatcherConfig} {r : Reading} {inbound : Inbound} {clientGone : Bool}
  {d : WorkerDispatcherImpl} {pc : ReportPc}

/-- A report is being answered because it was before, or because its renewal has just been
applied. -/
lemma answering_step {report : StatusReport} {nowNs : UInt64}
    (h : (pc.step cfg r inbound clientGone d).1.answering = some (report, nowNs)) :
    pc.answering = some (report, nowNs) ∨
      ∃ ttl now, pc = .renewing report nowNs ttl ∧ r.proposal = .committed now := by
  cases pc with
  | waiting => cases inbound <;> cases h
  | received | acking =>
    simp only [step] at h
    split at h <;> cases h
  | renewing report' nowNs' ttl =>
    simp only [step] at h
    cases hproposal : r.proposal with
    | committed now =>
      rw [hproposal] at h
      cases h
      exact .inr ⟨ttl, now, rfl, rfl⟩
    -- a proposal that fails ends the stream, even where it was applied
    | lost now e =>
      rw [hproposal] at h
      cases h
    | refused e =>
      rw [hproposal] at h
      cases h
  | touching report' nowNs' ttl => exact .inl h
  | closed => cases h

/-- An ack is only sent for a report that is being answered. -/
lemma acking_of_ack {ack : StatusAck}
    (h : (pc.step cfg r inbound clientGone d).2.2 = some (.ok ack)) :
    ∃ report nowNs ttl, pc = .acking report nowNs ttl := by
  cases pc with
  | waiting => cases inbound <;> cases h
  | received | renewing =>
    simp only [step] at h
    split at h <;> cases h
  | touching | closed => cases h
  | acking report nowNs ttl => exact ⟨report, nowNs, ttl, rfl⟩

end ReportPc

lemma le_renewedNs_renewLease (renewedNs : UInt64) (ttlSecs : UInt32)
    (lease : WorkerLeaseRecord) :
    renewedNs ≤ (ClusterState.renewLease renewedNs ttlSecs lease).renewedNs := by
  unfold ClusterState.renewLease
  split
  · exact UInt64.le_refl _
  next hnot => exact UInt64.not_lt.mp hnot

namespace AckHistory

/-! ## The invariant -/

variable (cfg : DispatcherConfig) (calls : ℕ → RegisterRequest)

/-- The leases are those of the log, and every report that is being answered has renewed one. -/
structure Backed (h : AckHistory) : Prop where
  leases : LeasesOf h.log h.system.dispatcher.cluster
  renewed : ∀ stream report nowNs, (h.system.reports stream).answering = some (report, nowNs) →
    ∃ lease, h.renewed stream = some lease ∧ nowNs ≤ lease.renewedNs

variable {cfg calls} {h : AckHistory}

lemma leases_next (hb : h.Backed) (e : DispatcherEvent) :
    LeasesOf (h.next cfg calls e).log (h.next cfg calls e).system.dispatcher.cluster := by
  simp only [AckHistory.next, DispatcherSystem.dispatcher_next]
  cases h.system.effect cfg calls e with
  | commit now req => exact hb.leases.apply now req
  | _ => exact hb.leases

variable {inbound : Inbound} {clientGone : Bool} {r : Reading} {stream : ℕ}

/-- A committed renewal of a lease that is in place leaves it renewed at the time of the report. -/
lemma renewed_next {report : StatusReport} {nowNs : UInt64} {ttl : UInt32} {now : Nat}
    (hb : h.Backed) (hpc : h.system.reports stream = .renewing report nowNs ttl)
    (hproposal : r.proposal = .committed now) (hgranted : GrantedLast report.nodeId h.log) :
    ∃ lease, (h.next cfg calls (.report stream r inbound clientGone)).renewed stream = some lease ∧
      nowNs ≤ lease.renewedNs := by
  rcases Option.isSome_iff_exists.mp ((hb.leases report.nodeId).mpr hgranted) with ⟨old, hold⟩
  refine ⟨ClusterState.renewLease nowNs ttl old, ?_, le_renewedNs_renewLease _ _ _⟩
  have heffect : h.system.effect cfg calls (.report stream r inbound clientGone) =
      .commit now (ReportPc.renewRequest report nowNs ttl) := by
    simp only [DispatcherSystem.effect, hpc, ReportPc.step, hproposal]
    rfl
  calc (h.next cfg calls (.report stream r inbound clientGone)).renewed stream
    _ = ((h.system.effect cfg calls (.report stream r inbound clientGone)).apply
          h.system.dispatcher).cluster.workerLeases[report.nodeId]? := by
        simp only [AckHistory.next, withRenewed, hpc, DispatcherSystem.dispatcher_next,
          Function.update_self]
    _ = (ReportPc.renewRequest report nowNs ttl).onLease report.nodeId (some old) := by
        rw [heffect, ← hold]
        exact lookup_workerLeases_apply now _ _ _
    _ = some (ClusterState.renewLease nowNs ttl old) := by
        simp only [ReportPc.renewRequest, Request.onLease, if_true, Option.map_some]

/-- Only the step that proposes a renewal records a lease, and only for its own stream. -/
lemma renewed_next_of_answering {stream i : ℕ}
    (hpc : i = stream → ∃ answer, (h.system.reports stream).answering = some answer) :
    (h.next cfg calls (.report stream r inbound clientGone)).renewed i = h.renewed i := by
  cases hreports : h.system.reports stream with
  | renewing report nowNs ttl =>
    have hne : i ≠ stream := by
      intro hi
      rcases hpc hi with ⟨answer, hanswer⟩
      rw [hreports] at hanswer
      cases hanswer
    simp only [AckHistory.next, withRenewed, hreports]
    exact Function.update_of_ne hne _ _
  | _ => simp only [AckHistory.next, withRenewed, hreports]

lemma Backed.next (hb : h.Backed) (e : DispatcherEvent) (hr : h.RenewsGranted e) :
    (h.next cfg calls e).Backed where
  leases := leases_next hb e
  renewed i report nowNs hanswering := by
    cases e with
    | report stream r inbound clientGone =>
      by_cases hi : i = stream
      · subst hi
        have hstep : ((h.system.reports i).step cfg r inbound clientGone
            h.system.dispatcher).1.answering = some (report, nowNs) := by
          simpa only [AckHistory.next, DispatcherSystem.next, Function.update_self]
            using hanswering
        rcases ReportPc.answering_step hstep with hold | ⟨ttl, now, hpc, hproposal⟩
        -- from `touching` to `acking` the recorded lease stays
        · rw [renewed_next_of_answering fun _ => ⟨_, hold⟩]
          exact hb.renewed i report nowNs hold
        · exact renewed_next hb hpc hproposal (hr report nowNs ttl now hpc hproposal)
      -- another stream's step
      · have hsame : (h.next cfg calls (.report stream r inbound clientGone)).system.reports i =
            h.system.reports i := Function.update_of_ne hi _ _
        rw [hsame] at hanswering
        rw [renewed_next_of_answering fun heq => absurd heq hi]
        exact hb.renewed i report nowNs hanswering
    | _ => exact hb.renewed i report nowNs hanswering

lemma acksLiveLease_of_backed (hb : h.Backed) (e : DispatcherEvent) : h.AcksLiveLease cfg e := by
  cases e with
  | report stream r inbound clientGone =>
    intro ack hack
    rcases ReportPc.acking_of_ack hack with ⟨report, nowNs, ttl, hpc⟩
    have hanswering : (h.system.reports stream).answering = some (report, nowNs) := by
      rw [hpc]
      rfl
    rcases hb.renewed stream report nowNs hanswering with ⟨lease, hlease, hnow⟩
    exact ⟨report, nowNs, ttl, lease, hpc, hlease, hnow⟩
  | _ => trivial

/-! ## Runs -/

/-- In every run in which only leases that are in place are renewed, every ack stands for a live
lease. -/
theorem acksLiveLease_of_renewsGranted (cfg : DispatcherConfig) (calls : ℕ → RegisterRequest)
    (clock : ℕ → Nat) (log : List Request) (startingNodeId : NodeId)
    (events : List DispatcherEvent)
    (h : Machine.Along (AckHistory.next cfg calls) RenewsGranted
      (start clock log startingNodeId) events) :
    Machine.Along (AckHistory.next cfg calls) (AcksLiveLease cfg)
      (start clock log startingNodeId) events :=
  h.imp (I := Backed) (fun _ e hb hr => hb.next e hr) (fun _ e hb _ => acksLiveLease_of_backed hb e)
    ⟨leasesOf_default.run clock log, nofun⟩

def grantLog : List Request :=
  [.grantWorkerLease 5 (workerName 5) 0 0 10]

def reportStep : DispatcherEvent :=
  .report 0 (readingAt 7) (.item { nodeId := 5, containers := 2 }) false

lemma renewsGranted_of_reports (pc : ReportPc) (hpc : h.system.reports stream = pc)
    (hgranted : ∀ report nowNs ttl, pc = .renewing report nowNs ttl →
      GrantedLast report.nodeId h.log) :
    h.RenewsGranted (.report stream r inbound clientGone) :=
  fun report nowNs ttl _ hrenewing _ => hgranted report nowNs ttl (hpc.symm.trans hrenewing)

/-- The report is acknowledged, and its lease is renewed. -/
theorem acksLiveLease_of_granted : let events := replicate 5 reportStep
    (events.foldl (AckHistory.next plainConfig fun _ => plainRequest 0)
        (start (fun _ => 0) grantLog 100)).system.acks 0 =
          [.ok { nextTtlSecs := 10, acceptedRevision := 2 }] ∧
      Machine.Along (AckHistory.next plainConfig fun _ => plainRequest 0)
        (AcksLiveLease plainConfig) (start (fun _ => 0) grantLog 100) events := by
  refine ⟨by rfl, acksLiveLease_of_renewsGranted _ _ _ _ _ _ ⟨?_, ?_, ?_, ?_, ?_, trivial⟩⟩
  · exact renewsGranted_of_reports .waiting (by decide +kernel) (by rintro _ _ _ ⟨⟩)
  · exact renewsGranted_of_reports (.received ⟨5, 2⟩ 7) (by decide +kernel) (by rintro _ _ _ ⟨⟩)
  · refine renewsGranted_of_reports (.renewing ⟨5, 2⟩ 7 10) (by decide +kernel) ?_
    rintro _ _ _ ⟨⟩
    rfl
  · exact renewsGranted_of_reports (.touching ⟨5, 2⟩ 7 10) (by decide +kernel)
      (by rintro _ _ _ ⟨⟩)
  · exact renewsGranted_of_reports (.acking ⟨5, 2⟩ 7 10) (by decide +kernel) (by rintro _ _ _ ⟨⟩)

def expiredReport : List DispatcherEvent :=
  [reportStep, reportStep, .command 7 (.expireWorkerLease 5), reportStep, reportStep, reportStep]

theorem ack_without_lease : ¬ Machine.Along (AckHistory.next plainConfig fun _ => plainRequest 0)
      (AcksLiveLease plainConfig) (start (fun _ => 0) grantLog 100) expiredReport := by
  intro halong
  -- the sixth step sends the ack; the renewal before it found no lease
  rcases halong.2.2.2.2.2.1 { nextTtlSecs := 10, acceptedRevision := 2 } (by rfl) with
    ⟨report, nowNs, ttl, lease, hpc, hlease, hnow⟩
  have hnone : ((expiredReport.take 5).foldl (AckHistory.next plainConfig fun _ => plainRequest 0)
      (start (fun _ => 0) grantLog 100)).renewed 0 = none := by decide +kernel
  cases hnone.symm.trans hlease

end AckHistory

end ZLayer.Scheduler
