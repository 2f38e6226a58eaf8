import ZLayer.Scheduler.ClusterState

/-!
# ReplicaAgreement — when two replicas of the cluster state agree

Two replicas apply the same log, each with its own clock.  Four commands let the clock into the
replicated state: `RegisterNode` stamps the node record, `RevokeNode` and `WipeJoinSecret` stamp
the first revocation and the first wipe, and `RevokeToken` drops the entries that have expired by
the local clock.

`ClockFree` says, of the initial state and the log alone, that none of these stamps survives:
a stamped node is deregistered later, a stamped identity is registered again later, the wipe was
already recorded, and every token expiry involved lies before the epoch.  The two replicas agree
for all pairs of clocks exactly when the log is clock free.
-/

namespace ZLayer.Scheduler

open Lib Secrets HashMap List

namespace ClusterState

/-! ## Logs whose outcome no clock can change -/

def isUnrevoked (s : SecretsState) (n : String) : Bool :=
  match s.nodes[n]? with
  | some identity => identity.revokedAt.isNone
  | none => false

/-- How one command changes whether node `n` is registered and not revoked. -/
def unrevokedAfter (n : String) (before : Bool) : Request → Bool
  | .secrets (.registerNode identity) =>
    if identity.nodeId = n then identity.revokedAt.isNone else before
  | .secrets (.revokeNode m) => if m = n then false else before
  | _ => before

/-- Some command of `log` registers the secrets identity of node `n`. -/
def Reregistered (n : String) (log : List Request) : Prop :=
  ∃ identity : NodeIdentity, .secrets (.registerNode identity) ∈ log ∧ identity.nodeId = n

/-- No clock reading can reach the final state or a response. -/
structure ClockFree (s : ClusterState) (log : List Request) : Prop where
  registrations : ∀ before after node, log = before ++ .registerNode node :: after →
    .deregisterNode node.nodeId ∈ after
  revocations : ∀ before after n, log = before ++ .secrets (.revokeNode n) :: after →
    before.foldl (unrevokedAfter n) (isUnrevoked s.secrets n) = true → Reregistered n after
  tokens : ∀ tokenHash expiresAt, .secrets (.revokeToken tokenHash expiresAt) ∈ log →
    expiresAt ≤ 0 ∧ ∀ (k : String) (e : DateTime), s.secrets.revokedTokens[k]? = some e → e ≤ 0
  wipes : .secrets .wipeJoinSecret ∈ log → s.secrets.joinSecretWipedAt.isSome

/-! ## Two replicas along the same log -/

/-- The two records of node `n` are equal, unless the node is still to be deregistered. -/
def NodeAgree (rest : List Request) (n : NodeId) (v w : NodeInfo) : Prop :=
  v = w ∨ .deregisterNode n ∈ rest

/-- The two identities of node `n` are equal, unless it is still to be registered again; in any
case both or neither are revoked. -/
def IdentityAgree (rest : List Request) (n : String) (v w : NodeIdentity) : Prop :=
  v.revokedAt.isNone = w.revokedAt.isNone ∧ (v = w ∨ Reregistered n rest)

structure SecretsAgree (rest : List Request) (s₁ s₂ : SecretsState) : Prop where
  nodes : Related (IdentityAgree rest) s₁.nodes s₂.nodes
  wrappedDek : s₁.wrappedDek = s₂.wrappedDek
  secrets : s₁.secrets = s₂.secrets
  revokedTokens : s₁.revokedTokens = s₂.revokedTokens
  trustedBundles : s₁.trustedBundles = s₂.trustedBundles
  jwtAlgorithm : s₁.jwtAlgorithm = s₂.jwtAlgorithm
  joinSecretWipedAt : s₁.joinSecretWipedAt = s₂.joinSecretWipedAt

/-- The states of two replicas with `rest` still to be applied. -/
structure Agree (rest : List Request) (s₁ s₂ : ClusterState) : Prop where
  services : s₁.services = s₂.services
  nodes : Related (NodeAgree rest) s₁.nodes s₂.nodes
  scaleEvents : s₁.scaleEvents = s₂.scaleEvents
  secrets : SecretsAgree rest s₁.secrets s₂.secrets
  workerLeases : s₁.workerLeases = s₂.workerLeases
  serviceSubnets : s₁.serviceSubnets = s₂.serviceSubnets
  serviceOverlayEndpoints : s₁.serviceOverlayEndpoints = s₂.serviceOverlayEndpoints

lemma Agree.refl (rest : List Request) (s : ClusterState) : Agree rest s s :=
  { services := rfl
    nodes := Related.refl (fun _ _ => .inl rfl) s.nodes
    scaleEvents := rfl
    secrets :=
      { nodes := Related.refl (fun _ _ => ⟨rfl, .inl rfl⟩) s.secrets.nodes
        wrappedDek := rfl
        secrets := rfl
        revokedTokens := rfl
        trustedBundles := rfl
        jwtAlgorithm := rfl
        joinSecretWipedAt := rfl }
    workerLeases := rfl
    serviceSubnets := rfl
    serviceOverlayEndpoints := rfl }

variable {s₁ s₂ : ClusterState}

lemma Agree.eq_of_nil (h : Agree [] s₁ s₂) : s₁ = s₂ := by
  have hnodes : s₁.nodes = s₂.nodes := by
    refine Related.eq_of_related ?_ h.nodes
    intro n v w hvw
    simpa [NodeAgree] using hvw
  have hidentities : s₁.secrets.nodes = s₂.secrets.nodes := by
    refine Related.eq_of_related ?_ h.secrets.nodes
    intro n v w hvw
    simpa [Reregistered] using hvw.2
  have hsecrets : s₁.secrets = s₂.secrets := by
    obtain ⟨-, hdek, hrows, htokens, hbundles, hjwt, hwiped⟩ := h.secrets
    cases hs₁ : s₁.secrets
    cases hs₂ : s₂.secrets
    simp_all
  obtain ⟨hservices, -, hevents, -, hleases, hsubnets, hendpoints⟩ := h
  cases s₁
  cases s₂
  simp_all

variable {rest : List Request} {r : Request}

lemma NodeAgree.tail {n : NodeId} {v w : NodeInfo} (h : NodeAgree (r :: rest) n v w)
    (hr : r ≠ .deregisterNode n) : NodeAgree rest n v w := by
  rcases h with heq | hmem
  · exact .inl heq
  · rcases mem_cons.mp hmem with hhead | htail
    · exact absurd hhead.symm hr
    · exact .inr htail

variable {n : String}

lemma Reregistered.tail (h : Reregistered n (r :: rest))
    (hr : ∀ identity : NodeIdentity, identity.nodeId = n → r ≠ .secrets (.registerNode identity)) :
    Reregistered n rest := by
  obtain ⟨identity, hmem, hid⟩ := h
  rcases mem_cons.mp hmem with hhead | htail
  · exact absurd hhead.symm (hr identity hid)
  · exact ⟨identity, htail, hid⟩

lemma IdentityAgree.tail {v w : NodeIdentity} (h : IdentityAgree (r :: rest) n v w)
    (hr : ∀ identity : NodeIdentity, identity.nodeId = n → r ≠ .secrets (.registerNode identity)) :
    IdentityAgree rest n v w := by
  refine ⟨h.1, ?_⟩
  rcases h.2 with heq | hlater
  · exact .inl heq
  · exact .inr (hlater.tail hr)

/-- Commands outside the secrets state machine leave the secrets of both replicas in agreement. -/
lemma SecretsAgree.tail {s₁ s₂ : SecretsState} (h : SecretsAgree (r :: rest) s₁ s₂)
    (hr : ∀ identity : NodeIdentity, r ≠ .secrets (.registerNode identity)) :
    SecretsAgree rest s₁ s₂ :=
  { h with nodes := h.nodes.mono fun _ _ _ hvw => hvw.tail fun identity _ => hr identity }

/-! ## One secrets operation on two replicas -/

lemma SecretsAgree.apply_revokeToken {s₁ s₂ : SecretsState} (h : SecretsAgree rest s₁ s₂)
    (t₁ t₂ : Nat) (tokenHash : String) {expiresAt : DateTime} (hexpired : expiresAt ≤ 0)
    (htokens : ∀ (k : String) (e : DateTime), s₁.revokedTokens[k]? = some e → e ≤ 0) :
    SecretsAgree rest (s₁.apply t₁ (.revokeToken tokenHash expiresAt)).1
      (s₂.apply t₂ (.revokeToken tokenHash expiresAt)).1 := by
  -- every entry has expired by any clock, so both sweeps leave the table empty
  have hswept : ∀ (s : SecretsState) (t : Nat), s.revokedTokens = s₁.revokedTokens →
      (s.apply t (.revokeToken tokenHash expiresAt)).1.revokedTokens = ∅ := by
    intro s t hs
    have hnot : ¬ (t : Int) < expiresAt := not_lt_of_ge (hexpired.trans (Int.natCast_nonneg t))
    refine Std.ExtTreeMap.ext_getElem? fun k => ?_
    simp only [SecretsState.apply, if_neg hnot, hs, lookup_filter]
    cases hk : s₁.revokedTokens[k]? with
    | none => simp
    | some e =>
      have he : e ≤ 0 := htokens k e hk
      have hlate : e ≤ (t : Int) := he.trans (Int.natCast_nonneg t)
      simp [hlate]
  exact
    { h with
      nodes := h.nodes
      revokedTokens := by rw [hswept s₁ t₁ rfl, hswept s₂ t₂ h.revokedTokens.symm] }

/-- A first revocation may stamp the two replicas differently, if the identity is registered again
later; a repeated one leaves both unchanged. -/
lemma SecretsAgree.apply_revokeNode {s₁ s₂ : SecretsState}
    (h : SecretsAgree (.secrets (.revokeNode n) :: rest) s₁ s₂) (t₁ t₂ : Nat)
    (hlater : isUnrevoked s₁ n = true → Reregistered n rest) :
    SecretsAgree rest (s₁.apply t₁ (.revokeNode n)).1 (s₂.apply t₂ (.revokeNode n)).1 ∧
      (s₁.apply t₁ (.revokeNode n)).2 = (s₂.apply t₂ (.revokeNode n)).2 := by
  have htail : SecretsAgree rest s₁ s₂ := h.tail (by simp)
  have hmem : n ∈ s₁.nodes ↔ n ∈ s₂.nodes := h.nodes.mem_iff n
  by_cases hn : n ∈ s₁.nodes
  · have hn₂ : n ∈ s₂.nodes := hmem.mp hn
    refine ⟨?_, by simp [SecretsState.apply, hn, hn₂]⟩
    have hnodes : Related (IdentityAgree rest)
        (s₁.nodes.modify n fun e => { e with revokedAt := SecretsState.stampOnce t₁ e.revokedAt })
        (s₂.nodes.modify n fun e =>
          { e with revokedAt := SecretsState.stampOnce t₂ e.revokedAt }) := by
      intro k
      rw [lookup_modify, lookup_modify]
      by_cases hk : n = k
      · subst hk
        simp only [if_pos]
        have hrel := htail.nodes n
        have hunrevoked : isUnrevoked s₁ n = true → Reregistered n rest := hlater
        unfold isUnrevoked at hunrevoked
        revert hrel hunrevoked
        generalize s₁.nodes[n]? = o₁
        generalize s₂.nodes[n]? = o₂
        rintro (⟨hnone, heq⟩ | _) hunrevoked
        · rename_i v w
          refine .some ⟨rfl, ?_⟩
          cases hv : v.revokedAt with
          | none => exact .inr (hunrevoked (by simp [hv]))
          | some at₁ =>
            rcases heq with heq | hlater'
            · subst heq
              simp [hv, SecretsState.stampOnce]
            · exact .inr hlater'
        · exact .none
      · simp only [if_neg hk]
        exact htail.nodes k
    simp only [SecretsState.apply, if_pos hn, if_pos hn₂]
    exact { htail with nodes := hnodes }
  · have hn₂ : n ∉ s₂.nodes := fun hmem₂ => hn (hmem.mpr hmem₂)
    refine ⟨?_, by simp [SecretsState.apply, hn, hn₂]⟩
    simpa [SecretsState.apply, hn, hn₂] using htail

lemma SecretsAgree.apply_registerNode {s₁ s₂ : SecretsState} {identity : NodeIdentity}
    (h : SecretsAgree (.secrets (.registerNode identity) :: rest) s₁ s₂) (t₁ t₂ : Nat) :
    SecretsAgree rest (s₁.apply t₁ (.registerNode identity)).1
      (s₂.apply t₂ (.registerNode identity)).1 := by
  have hnodes : Related (IdentityAgree rest) (s₁.nodes.insert identity.nodeId identity)
      (s₂.nodes.insert identity.nodeId identity) := by
    refine h.nodes.insert identity.nodeId ?_ ⟨rfl, .inl rfl⟩
    intro n v w hne hvw
    refine hvw.tail ?_
    intro identity' hid hreq
    have hsame : identity' = identity := by simpa using hreq.symm
    exact hne (hsame ▸ hid)
  exact { h with nodes := hnodes }

/-- One secrets operation keeps two replicas in agreement and answers both alike. -/
lemma SecretsAgree.apply {s₁ s₂ : SecretsState} {op : SecretsRaftOp}
    (h : SecretsAgree (.secrets op :: rest) s₁ s₂) (t₁ t₂ : Nat)
    (hrevoke : ∀ n, op = .revokeNode n → isUnrevoked s₁ n = true → Reregistered n rest)
    (htokens : ∀ tokenHash expiresAt, op = .revokeToken tokenHash expiresAt → expiresAt ≤ 0 ∧
      ∀ (k : String) (e : DateTime), s₁.revokedTokens[k]? = some e → e ≤ 0)
    (hwipe : op = .wipeJoinSecret → s₁.joinSecretWipedAt.isSome) :
    SecretsAgree rest (s₁.apply t₁ op).1 (s₂.apply t₂ op).1 ∧
      (s₁.apply t₁ op).2 = (s₂.apply t₂ op).2 := by
  cases op with
  | registerNode identity => exact ⟨h.apply_registerNode t₁ t₂, rfl⟩
  | revokeNode n => exact h.apply_revokeNode t₁ t₂ (hrevoke n rfl)
  | rotateDek newWraps => exact ⟨{ h.tail (by simp) with wrappedDek := rfl }, rfl⟩
  | putSecret secret =>
    refine ⟨{ h.tail (by simp) with secrets := ?_ }, rfl⟩
    simp only [SecretsState.apply, h.secrets]
  | deleteSecret storageKey =>
    have htail := h.tail (by simp)
    by_cases hk : storageKey ∈ s₂.secrets
    · simp only [SecretsState.apply, h.secrets, if_pos hk]
      exact ⟨{ htail with secrets := rfl }, trivial⟩
    · simp only [SecretsState.apply, h.secrets, if_neg hk]
      exact ⟨htail, trivial⟩
  | revokeToken tokenHash expiresAt =>
    rcases htokens tokenHash expiresAt rfl with ⟨hexpired, hall⟩
    exact ⟨(h.tail (by simp)).apply_revokeToken t₁ t₂ tokenHash hexpired hall, rfl⟩
  | importTrustBundle | removeTrustBundle =>
    refine ⟨{ h.tail (by simp) with trustedBundles := ?_ }, rfl⟩
    simp only [SecretsState.apply, h.trustedBundles]
  | setJwtAlgorithm algorithm => exact ⟨{ h.tail (by simp) with jwtAlgorithm := rfl }, rfl⟩
  | wipeJoinSecret =>
    refine ⟨{ h.tail (by simp) with joinSecretWipedAt := ?_ }, rfl⟩
    obtain ⟨wipedAt, hwiped⟩ := Option.isSome_iff_exists.mp (hwipe rfl)
    have hwiped₂ : s₂.joinSecretWipedAt = some wipedAt := h.joinSecretWipedAt ▸ hwiped
    simp only [SecretsState.apply, SecretsState.stampOnce, hwiped, hwiped₂, Option.getD_some]

/-! ## One command on two replicas -/

/-- Agreement of the records of every node survives an update of one record. -/
lemma nodeAgree_modify {m₁ m₂ : HashMap NodeId NodeInfo}
    (h : Related (NodeAgree (r :: rest)) m₁ m₂) (hr : ∀ n, r ≠ .deregisterNode n)
    (n : NodeId) (f : NodeInfo → NodeInfo) :
    Related (NodeAgree rest) (m₁.modify n f) (m₂.modify n f) := by
  refine h.modify n (fun k v w _ hvw => hvw.tail (hr k)) ?_
  intro v w hvw
  rcases hvw.tail (hr n) with heq | hlater
  · exact .inl (by rw [heq])
  · exact .inr hlater

/-- What no command but a deregistration or a secrets operation settles is carried over. -/
lemma Agree.tail (h : Agree (r :: rest) s₁ s₂) (hop : ∀ op, r ≠ .secrets op)
    (hr : ∀ n, r ≠ .deregisterNode n) : Agree rest s₁ s₂ :=
  { h with
    nodes := h.nodes.mono fun n _ _ hvw => hvw.tail (hr n)
    secrets := h.secrets.tail fun _ => hop _ }

/-- Outside the secrets state machine a command reads, of the nodes, only which are registered; all
else it computes from replicated data. -/
lemma Agree.apply_of_ne_secrets (h : Agree (r :: rest) s₁ s₂) (t₁ t₂ : Nat)
    (hop : ∀ op, r ≠ .secrets op)
    (hregister : ∀ node, r = .registerNode node → .deregisterNode node.nodeId ∈ rest) :
    Agree rest (s₁.apply t₁ r).1 (s₂.apply t₂ r).1 ∧ (s₁.apply t₁ r).2 = (s₂.apply t₂ r).2 := by
  have htail := h.tail hop
  cases r with
  | secrets op => exact absurd rfl (hop op)
  | updateServiceState =>
    exact ⟨{ htail (by simp) with services := by simp only [apply, h.services] }, rfl⟩
  | recordScaleEvent =>
    refine ⟨{ htail (by simp) with services := ?_, scaleEvents := ?_ }, rfl⟩
    · simp only [apply, applyRecordScaleEvent, h.services]
    · simp only [apply, applyRecordScaleEvent, h.scaleEvents]
  | registerNode node =>
    refine ⟨{ htail (by simp) with nodes := ?_ }, rfl⟩
    exact h.nodes.insert node.nodeId (fun n v w _ hvw => hvw.tail (by simp))
      (.inr (hregister node rfl))
  | deregisterNode n =>
    refine ⟨{ h with services := ?_, nodes := ?_, secrets := h.secrets.tail fun _ => hop _ }, rfl⟩
    · simp only [apply, h.services]
    · exact h.nodes.erase n fun k v w hne hvw => hvw.tail (by simpa using hne)
  | updateNodeHeartbeat n | updateNodeStatus n =>
    exact ⟨{ htail (by simp) with nodes := nodeAgree_modify h.nodes (by simp) n _ }, rfl⟩
  | updateNodeMode n mode =>
    simp only [apply, h.nodes.mem_iff n]
    split
    · exact ⟨htail (by simp), rfl⟩
    · split
      · exact ⟨{ htail (by simp) with nodes := nodeAgree_modify h.nodes (by simp) n _ }, rfl⟩
      · exact ⟨htail (by simp), rfl⟩
  | setNodeLabels n set remove =>
    simp only [apply, h.nodes.mem_iff n]
    split
    · exact ⟨{ htail (by simp) with nodes := nodeAgree_modify h.nodes (by simp) n _ }, rfl⟩
    · exact ⟨htail (by simp), rfl⟩
  | updateServiceAssignment =>
    simp only [apply, h.services]
    split
    · exact ⟨{ htail (by simp) with services := rfl }, rfl⟩
    · exact ⟨htail (by simp), rfl⟩
  | renewWorkerLease =>
    simp only [apply, h.workerLeases]
    split
    · exact ⟨{ htail (by simp) with workerLeases := rfl }, rfl⟩
    · exact ⟨htail (by simp), rfl⟩
  | grantWorkerLease | expireWorkerLease | revokeWorkerLease =>
    exact ⟨{ htail (by simp) with workerLeases := by simp only [apply, h.workerLeases] }, rfl⟩
  | assignServiceSubnet =>
    simp only [apply, h.serviceSubnets]
    split <;> exact ⟨{ htail (by simp) with serviceSubnets := rfl }, rfl⟩
  | releaseServiceSubnet =>
    exact ⟨{ htail (by simp) with serviceSubnets := by simp only [apply, h.serviceSubnets] }, rfl⟩
  | setServiceOverlayEndpoint | removeServiceOverlayEndpoint =>
    refine ⟨{ htail (by simp) with serviceOverlayEndpoints := ?_ }, rfl⟩
    simp only [apply, h.serviceOverlayEndpoints]

/-- One command updates `isUnrevoked` as `unrevokedAfter` says, whatever the clock shows. -/
lemma isUnrevoked_apply (now : Nat) (s : ClusterState) (r : Request) (n : String) :
    isUnrevoked (s.apply now r).1.secrets n = unrevokedAfter n (isUnrevoked s.secrets n) r := by
  rw [apply_fst_secrets]
  cases r with
  | secrets op =>
    simp only [secretsAfter]
    cases op with
    | registerNode identity =>
      simp only [isUnrevoked, SecretsState.apply, unrevokedAfter, lookup_insert]
      by_cases hid : identity.nodeId = n <;> simp [hid]
    | revokeNode m =>
      simp only [SecretsState.apply, unrevokedAfter]
      by_cases hm : m ∈ s.secrets.nodes
      · simp only [if_pos hm, isUnrevoked, lookup_modify]
        by_cases hmn : m = n
        · subst hmn
          cases hnode : s.secrets.nodes[m]? <;> simp [SecretsState.stampOnce]
        · simp [hmn]
      · simp only [if_neg hm]
        by_cases hmn : m = n
        · subst hmn
          have hnone : s.secrets.nodes[m]? = none := by grind
          simp [isUnrevoked, hnone]
        · simp [hmn]
    | deleteSecret storageKey =>
      simp only [SecretsState.apply, unrevokedAfter]
      split <;> rfl
    | _ => rfl
  | _ => rfl

lemma isUnrevoked_run (clock : ℕ → Nat) (s : ClusterState) (log : List Request) (n : String) :
    isUnrevoked (Machine.run apply clock s log).1.secrets n =
      log.foldl (unrevokedAfter n) (isUnrevoked s.secrets n) := by
  induction log generalizing clock s with
  | nil => rfl
  | cons r rest ih =>
    rw [Machine.run_cons, ih, isUnrevoked_apply]
    rfl

variable {s : ClusterState}

/-- Once a `RevokeToken` is still to come in a clock-free log, no entry that matters to any clock
is ever in the table. -/
lemma tokens_expired_apply
    (htokens : ∀ (k : String) (e : DateTime), s.secrets.revokedTokens[k]? = some e → e ≤ 0)
    (hr : ∀ tokenHash expiresAt, r = .secrets (.revokeToken tokenHash expiresAt) → expiresAt ≤ 0)
    (now : Nat) (k : String) (e : DateTime)
    (hk : (s.apply now r).1.secrets.revokedTokens[k]? = some e) : e ≤ 0 := by
  rw [apply_fst_secrets] at hk
  cases r with
  | secrets op =>
    rcases op.revokeToken_or_keeps with ⟨tokenHash, expiresAt, rfl⟩ | hkeeps
    · rcases (SecretsState.lookup_apply_revokeToken ..).mp hk with ⟨-, ⟨-, -, he⟩ | ⟨-, hold⟩⟩
      · exact he ▸ hr tokenHash expiresAt rfl
      · exact htokens k e hold
    · rw [secretsAfter, hkeeps] at hk
      exact htokens k e hk
  | _ => exact htokens k e hk

lemma wiped_apply (h : s.secrets.joinSecretWipedAt.isSome) (now : Nat) (r : Request) :
    (s.apply now r).1.secrets.joinSecretWipedAt.isSome := by
  rw [apply_fst_secrets]
  cases r with
  | secrets op =>
    rcases op.wipeJoinSecret_or_keeps with rfl | hkeeps
    · rfl
    · rwa [secretsAfter, hkeeps]
  | _ => exact h

lemma ClockFree.tail (h : ClockFree s (r :: rest)) (now : Nat) :
    ClockFree (s.apply now r).1 rest := by
  refine
    { registrations := ?_
      revocations := ?_
      tokens := ?_
      wipes := ?_ }
  · intro before after node hsplit
    exact h.registrations (r :: before) after node (by rw [hsplit]; rfl)
  · intro before after n hsplit hunrevoked
    refine h.revocations (r :: before) after n (by rw [hsplit]; rfl) ?_
    simpa [isUnrevoked_apply] using hunrevoked
  · intro tokenHash expiresAt hmem
    rcases h.tokens tokenHash expiresAt (mem_cons_of_mem r hmem) with ⟨hexpired, htokens⟩
    refine ⟨hexpired, tokens_expired_apply htokens ?_ now⟩
    intro tokenHash' expiresAt' hr
    exact (h.tokens tokenHash' expiresAt' (by simp [hr])).1
  · intro hmem
    exact wiped_apply (h.wipes (mem_cons_of_mem r hmem)) now r

/-- One command of a clock-free log keeps two replicas in agreement and answers both alike. -/
lemma Agree.apply (h : Agree (r :: rest) s₁ s₂) (hfree : ClockFree s₁ (r :: rest)) (t₁ t₂ : Nat) :
    Agree rest (s₁.apply t₁ r).1 (s₂.apply t₂ r).1 ∧
      (s₁.apply t₁ r).2 = (s₂.apply t₂ r).2 := by
  by_cases hr : ∃ op, r = .secrets op
  · rcases hr with ⟨op, rfl⟩
    obtain ⟨hsecrets, hresponse⟩ := h.secrets.apply t₁ t₂
      (fun n hop => hfree.revocations [] rest n (by rw [hop]; rfl))
      (fun tokenHash expiresAt hop => hfree.tokens tokenHash expiresAt (by simp [hop]))
      (fun hop => hfree.wipes (by simp [hop]))
    have hnodes := h.nodes.mono fun _ _ _ hvw => hvw.tail (by simp)
    refine ⟨{ h with nodes := hnodes, secrets := hsecrets }, ?_⟩
    simp only [ClusterState.apply, applySecrets, hresponse]
  · exact h.apply_of_ne_secrets t₁ t₂ (fun op hop => hr ⟨op, hop⟩) fun node hnode =>
      hfree.registrations [] rest node (by rw [hnode]; rfl)

variable {log : List Request}

/-- Over a clock-free log all replicas reach the same state and give the same responses. -/
lemma run_eq_of_clockFree (hfree : ClockFree s log) (clock₁ clock₂ : ℕ → Nat) :
    s.run clock₁ log = s.run clock₂ log := by
  have hstep : ∀ (t₁ t₂ : Nat) (s₁ s₂ : ClusterState) (r : Request) (rest : List Request),
      Agree (r :: rest) s₁ s₂ ∧ ClockFree s₁ (r :: rest) →
        (Agree rest (s₁.apply t₁ r).1 (s₂.apply t₂ r).1 ∧ ClockFree (s₁.apply t₁ r).1 rest) ∧
          (s₁.apply t₁ r).2 = (s₂.apply t₂ r).2 := by
    intro t₁ t₂ s₁ s₂ r rest ⟨hagree, hfree₁⟩
    rcases hagree.apply hfree₁ t₁ t₂ with ⟨hnext, hresponse⟩
    exact ⟨⟨hnext, hfree₁.tail t₁⟩, hresponse⟩
  have hrel := Machine.run_related (R := fun rest s₁ s₂ => Agree rest s₁ s₂ ∧ ClockFree s₁ rest)
    hstep clock₁ clock₂ log s s ⟨Agree.refl log s, hfree⟩
  exact Prod.ext hrel.1.1.eq_of_nil hrel.2

/-! ## Stamps that survive -/

section ConstantClock

variable {s : ClusterState} {n : NodeId} {m : String} {t : Nat}

/-- Under a clock that always shows `t`: the final state of `before ++ r :: after`. -/
lemma run_split (s : ClusterState) (t : Nat) (before after : List Request) (r : Request) :
    (s.run (fun _ => t) (before ++ r :: after)).1 =
      (((s.run (fun _ => t) before).1.apply t r).1.run (fun _ => t) after).1 := by
  simp only [run, Machine.run_append_fst, Machine.run_cons]

/-- What every secrets operation of the log preserves of the secrets holds of them at its end. -/
lemma secrets_run_invariant {P : SecretsState → Prop} (log : List Request)
    (hstep : ∀ s op, .secrets op ∈ log → P s → P (s.apply t op).1) (h : P s.secrets) :
    P (s.run (fun _ => t) log).1.secrets := by
  refine Machine.run_invariant (P := fun s : ClusterState => P s.secrets) _ log _ ?_ h
  intro k s' r hr hs'
  rw [apply_fst_secrets]
  cases r with
  | secrets op => exact hstep _ op hr hs'
  | _ => exact hs'

def RegisteredAt (t : Nat) (n : NodeId) (s : ClusterState) : Prop :=
  ∃ node, s.nodes[n]? = some node ∧ node.registeredAt = nowMillis t

lemma RegisteredAt.apply (h : RegisteredAt t n s) {r : Request} (hr : r ≠ .deregisterNode n) :
    RegisteredAt t n (s.apply t r).1 := by
  rcases h with ⟨node, hnode, hat⟩
  rcases s.apply_nodes_cases t r with ⟨reg, rfl⟩ | ⟨k, rfl⟩ | ⟨k, f, hnodes, hf⟩
  · simp only [RegisteredAt, ClusterState.apply, applyRegisterNode, lookup_insert]
    split
    · exact ⟨registeredNode t reg, rfl, rfl⟩
    · exact ⟨node, hnode, hat⟩
  · have hk : k ≠ n := fun heq => hr (heq ▸ rfl)
    exact ⟨node, by simp only [ClusterState.apply, lookup_erase, if_neg hk, hnode], hat⟩
  · rw [RegisteredAt, hnodes, lookup_modify, hnode]
    split
    · exact ⟨f node, rfl, (hf node).2.1.trans hat⟩
    · exact ⟨node, rfl, hat⟩

/-- A registration with no later deregistration leaves its stamp in the final state. -/
lemma registeredAt_run (s : ClusterState) (t : Nat) (before : List Request)
    {after : List Request} {reg : NodeRegistration} (hafter : .deregisterNode reg.nodeId ∉ after) :
    RegisteredAt t reg.nodeId
      (s.run (fun _ => t) (before ++ .registerNode reg :: after)).1 := by
  rw [run_split]
  refine Machine.run_invariant _ after _ ?_ ?_
  · intro k s' r hr hs'
    exact hs'.apply fun heq => hafter (heq ▸ hr)
  · refine ⟨registeredNode t reg, ?_, rfl⟩
    simp only [ClusterState.apply, applyRegisterNode, lookup_insert, if_pos]

def RevokedAt (t : Nat) (m : String) (s : SecretsState) : Prop :=
  ∃ identity, s.nodes[m]? = some identity ∧ identity.revokedAt = some (t : Int)

lemma revokedAt_of_isUnrevoked {s : SecretsState} (h : isUnrevoked s m = true) (t : Nat) :
    RevokedAt t m (s.apply t (.revokeNode m)).1 := by
  unfold isUnrevoked at h
  cases hm : s.nodes[m]? with
  | none => simp [hm] at h
  | some identity =>
    have hnone : identity.revokedAt = none := by simpa [hm] using h
    have hmem : m ∈ s.nodes := by grind
    refine ⟨{ identity with revokedAt := some (t : Int) }, ?_, rfl⟩
    simp only [SecretsState.apply, if_pos hmem, lookup_modify, if_pos, hm,
      Option.map_some, SecretsState.stampOnce, hnone, Option.getD_none]

lemma RevokedAt.apply {s : SecretsState} (h : RevokedAt t m s) {op : SecretsRaftOp}
    (hop : ∀ identity : NodeIdentity, identity.nodeId = m → op ≠ .registerNode identity) :
    RevokedAt t m (s.apply t op).1 := by
  cases op with
  | registerNode identity =>
    rcases h with ⟨old, hold, hat⟩
    have hne : identity.nodeId ≠ m := fun heq => hop identity heq rfl
    exact ⟨old, by simp only [SecretsState.apply, lookup_insert, if_neg hne, hold], hat⟩
  | revokeNode k =>
    simp only [SecretsState.apply]
    split
    · rcases h with ⟨old, hold, hat⟩
      by_cases hk : k = m
      · refine ⟨{ old with revokedAt := SecretsState.stampOnce t old.revokedAt }, ?_, ?_⟩
        · simp only [lookup_modify, if_pos hk, hold, Option.map_some]
        · simp only [SecretsState.stampOnce, hat, Option.getD_some]
      · exact ⟨old, by simp only [lookup_modify, if_neg hk, hold], hat⟩
    · exact h
  | deleteSecret storageKey =>
    simp only [SecretsState.apply]
    split <;> exact h
  | _ => exact h

variable {before after : List Request}

/-- A first revocation with no later registration leaves its stamp in the final state. -/
lemma revokedAt_run (s : ClusterState) (t : Nat)
    (hunrevoked : before.foldl (unrevokedAfter m) (isUnrevoked s.secrets m) = true)
    (hafter : ¬ Reregistered m after) :
    RevokedAt t m
      (s.run (fun _ => t) (before ++ .secrets (.revokeNode m) :: after)).1.secrets := by
  rw [run_split]
  refine secrets_run_invariant (P := RevokedAt t m) after ?_ ?_
  · intro s' op hop hs'
    exact hs'.apply fun identity hid heq => hafter ⟨identity, heq ▸ hop, hid⟩
  · rw [apply_fst_secrets]
    refine revokedAt_of_isUnrevoked ?_ t
    rw [run, isUnrevoked_run, hunrevoked]

def Pending (s : SecretsState) : Prop :=
  ∃ (k : String) (e : DateTime), s.revokedTokens[k]? = some e ∧ 0 < e

/-- A clock stuck at the epoch never drops a token that expires after it. -/
lemma Pending.apply {s : SecretsState} (h : Pending s) (op : SecretsRaftOp) :
    Pending (s.apply 0 op).1 := by
  rcases op.revokeToken_or_keeps with ⟨tokenHash, expiresAt, rfl⟩ | hkeeps
  · rcases h with ⟨k, e, hk, he⟩
    by_cases hnew : k = tokenHash ∧ (0 : Int) < expiresAt
    · exact ⟨k, expiresAt, (SecretsState.lookup_apply_revokeToken ..).mpr
        ⟨hnew.2, .inl ⟨hnew.1, hnew.2, rfl⟩⟩, hnew.2⟩
    · exact ⟨k, e, (SecretsState.lookup_apply_revokeToken ..).mpr ⟨he, .inr ⟨hnew, hk⟩⟩, he⟩
  · rw [Pending, hkeeps]
    exact h

lemma pending_run {s : ClusterState} (h : Pending s.secrets) (log : List Request) :
    Pending (s.run (fun _ => 0) log).1.secrets :=
  secrets_run_invariant log (fun _ op _ hs' => hs'.apply op) h

def AllAfter (t : Nat) (s : SecretsState) : Prop :=
  ∀ (k : String) (e : DateTime), s.revokedTokens[k]? = some e → (t : Int) < e

lemma AllAfter.apply {s : SecretsState} (h : AllAfter t s) (op : SecretsRaftOp) :
    AllAfter t (s.apply t op).1 := by
  intro k e hk
  rcases op.revokeToken_or_keeps with ⟨tokenHash, expiresAt, rfl⟩ | hkeeps
  · exact ((SecretsState.lookup_apply_revokeToken ..).mp hk).1
  · rw [hkeeps] at hk
    exact h k e hk

/-- A clock stuck at `t` leaves only tokens that expire after `t`, once one is revoked. -/
lemma allAfter_run (s : ClusterState) (t : Nat) {tokenHash : String} {expiresAt : DateTime} :
    AllAfter t (s.run (fun _ => t)
      (before ++ .secrets (.revokeToken tokenHash expiresAt) :: after)).1.secrets := by
  rw [run_split]
  refine secrets_run_invariant (P := AllAfter t) after (fun _ op _ hs' => hs'.apply op) ?_
  rw [apply_fst_secrets]
  intro k e hk
  exact ((SecretsState.lookup_apply_revokeToken ..).mp hk).1

lemma wiped_run (s : ClusterState) (t : Nat) (hs : s.secrets.joinSecretWipedAt = none)
    (before after : List Request) :
    (s.run (fun _ => t) (before ++ .secrets .wipeJoinSecret :: after)).1.secrets.joinSecretWipedAt =
      some (t : Int) := by
  -- the join secret, if wiped at all, was wiped when the clock showed t
  have hbefore : (s.run (fun _ => t) before).1.secrets.joinSecretWipedAt.getD t = t := by
    refine secrets_run_invariant (P := (·.joinSecretWipedAt.getD t = t)) before ?_ (by simp [hs])
    intro s' op _ hs'
    rcases op.wipeJoinSecret_or_keeps with rfl | hkeeps
    · simpa [SecretsState.apply, SecretsState.stampOnce] using hs'
    · rw [hkeeps, hs']
  rw [run_split]
  refine secrets_run_invariant (P := (·.joinSecretWipedAt = some (t : Int))) after ?_ ?_
  · intro s' op _ hs'
    rcases op.wipeJoinSecret_or_keeps with rfl | hkeeps
    · simp [SecretsState.apply, SecretsState.stampOnce, hs']
    · rw [hkeeps, hs']
  · rw [apply_fst_secrets]
    simp [secretsAfter, SecretsState.apply, SecretsState.stampOnce, hbefore]

end ConstantClock

/-! ## The exact condition -/

lemma clockFree_of_forall_run_eq
    (h : ∀ clock₁ clock₂ : ℕ → Nat, s.run clock₁ log = s.run clock₂ log) : ClockFree s log := by
  -- clocks stuck at two different readings already tell the replicas apart
  have hsame : ∀ t₁ t₂ : Nat,
      (s.run (fun _ => t₁) log).1 = (s.run (fun _ => t₂) log).1 :=
    fun t₁ t₂ => by rw [h (fun _ => t₁) (fun _ => t₂)]
  refine
    { registrations := ?_
      revocations := ?_
      tokens := ?_
      wipes := ?_ }
  · intro before after reg hsplit
    by_contra hafter
    rcases registeredAt_run s 0 before hafter with ⟨node₁, hnode₁, hat₁⟩
    rcases registeredAt_run s 1000000 before hafter with ⟨node₂, hnode₂, hat₂⟩
    rw [← hsplit] at hnode₁ hnode₂
    rw [hsame 0 1000000, hnode₂] at hnode₁
    have hnode : node₂ = node₁ := by simpa using hnode₁
    rw [hnode, hat₁] at hat₂
    exact absurd hat₂ (by decide)
  · intro before after n hsplit hunrevoked
    by_contra hafter
    rcases revokedAt_run s 0 hunrevoked hafter with ⟨identity₁, hid₁, hat₁⟩
    rcases revokedAt_run s 1 hunrevoked hafter with ⟨identity₂, hid₂, hat₂⟩
    rw [← hsplit] at hid₁ hid₂
    rw [hsame 0 1, hid₂] at hid₁
    have hid : identity₂ = identity₁ := by simpa using hid₁
    rw [hid, hat₁] at hat₂
    exact absurd hat₂ (by decide)
  · intro tokenHash expiresAt hmem
    rcases mem_iff_append.mp hmem with ⟨before, after, hsplit⟩
    -- a token that outlives the epoch is kept by the clock at the epoch, dropped by a later one
    have hnone : ¬ Pending (s.run (fun _ => 0) log).1.secrets := by
      rintro ⟨k, e, hk, he⟩
      rw [hsame 0 e.toNat, hsplit] at hk
      have hlt := allAfter_run s e.toNat k e hk
      rw [Int.toNat_of_nonneg he.le] at hlt
      exact lt_irrefl _ hlt
    refine ⟨?_, ?_⟩
    · by_contra hlate
      refine hnone ?_
      rw [hsplit, run_split]
      refine pending_run ?_ after
      rw [apply_fst_secrets]
      exact ⟨tokenHash, expiresAt, (SecretsState.lookup_apply_revokeToken ..).mpr
        ⟨not_le.mp hlate, .inl ⟨rfl, not_le.mp hlate, rfl⟩⟩, not_le.mp hlate⟩
    · intro k e hk
      by_contra hlate
      exact hnone (pending_run ⟨k, e, hk, not_le.mp hlate⟩ log)
  · intro hmem
    rcases mem_iff_append.mp hmem with ⟨before, after, hsplit⟩
    by_contra hunwiped
    have hs : s.secrets.joinSecretWipedAt = none := by simpa using hunwiped
    have hwiped₁ := wiped_run s 0 hs before after
    have hwiped₂ := wiped_run s 1 hs before after
    rw [← hsplit] at hwiped₁ hwiped₂
    rw [hsame 0 1, hwiped₂] at hwiped₁
    exact absurd hwiped₁ (by decide)

/-- Two replicas that start equal and apply the same log end equal and answer alike, whatever
their clocks show, exactly when the log is clock free. -/
theorem replicas_agree_iff_clockFree (s : ClusterState) (log : List Request) :
    (∀ clock₁ clock₂ : ℕ → Nat, s.run clock₁ log = s.run clock₂ log) ↔ ClockFree s log :=
  ⟨clockFree_of_forall_run_eq, fun hfree => run_eq_of_clockFree hfree⟩

/-- One revoked token: the replica whose clock is behind keeps the entry, the other drops it. -/
theorem replicas_disagree_on_revokeToken :
    ¬ ∀ (s : ClusterState) (log : List Request) (clock₁ clock₂ : ℕ → Nat),
      s.run clock₁ log = s.run clock₂ log := by
  intro h
  have hrun := h .default [.secrets (.revokeToken "deadbeef" 1000)] (fun _ => 0) (fun _ => 2000)
  have hkept : (run (fun _ => 0) .default
      [.secrets (.revokeToken "deadbeef" 1000)]).1.secrets.revokedTokens["deadbeef"]? =
        some 1000 :=
    (SecretsState.lookup_apply_revokeToken ..).mpr ⟨by decide, .inl ⟨rfl, by decide, rfl⟩⟩
  rw [hrun] at hkept
  have hlate := ((SecretsState.lookup_apply_revokeToken ..).mp hkept).1
  exact absurd hlate (by decide)

end ClusterState

end ZLayer.Scheduler
