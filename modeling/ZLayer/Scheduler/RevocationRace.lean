import ZLayer.Lib.Pool
import ZLayer.Scheduler.DekRotation

/-!
# RevocationRace — revoking a node while other nodes join

One thread proposes `RevokeNode` for a node and then runs `propose_rotate_dek` with that node as
the reason; any number of other threads run `propose_register_node_and_rotate` for other nodes.
Every orchestration computes its envelope from a snapshot, and `RotateDek` replaces the envelope
whatever is there.  A join that took its snapshot before the rotation's `RotateDek` and commits its
own `RotateDek` after it puts the old DEK back, wrapped for the nodes that were active then.

When no join does that, the revoked node never regains the DEK: until the rotation's `RotateDek`
the joins cannot move the generation below that of the rows, and from then on every envelope wraps
the fresh DEK for nodes other than the revoked one.
-/

namespace ZLayer.Scheduler

open Lib Secrets RaftCoordinator List HashMap

/-! ## The threads -/

/-- A call of `propose_register_node_and_rotate`. -/
structure JoinCall where
  node : RaftCoordinator
  identity : NodeIdentity
  rnd : JoinRandomness
  now : Nat

namespace JoinCall

def prog (c : Crypto) (join : JoinCall) :
    Prog SecretsState (Except SecretsError (Bytes × UInt64)) :=
  proposeRegisterNodeAndRotate c join.node join.identity join.rnd join.now

/-- A join fails at once, or follows the script of its snapshot. -/
lemma prog_cases (c : Crypto) (join : JoinCall) : (∃ e, join.prog c = .ret (.error e)) ∨
      ∃ priv uuid, join.prog c = .get fun current =>
        Prog.script (commitOp join.now) (joinScript c priv uuid join.identity join.rnd current).1
          (joinScript c priv uuid join.identity join.rnd current).2 := by
  rcases capable_or_inert join.node with ⟨hleader, priv, uuid, hpriv, huuid⟩ | ⟨hinert, -⟩
  · exact .inr ⟨priv, uuid, proposeRegisterNodeAndRotate_eq c hleader hpriv huuid join.identity
      join.rnd join.now⟩
  · exact .inl (hinert c join.identity join.rnd join.now)

end JoinCall

/-- The threads: the one that revokes, and the joins. -/
inductive Party (ι : Type)
  | revocation
  | join (i : ι)
  deriving DecidableEq

abbrev Outcome {ι : Type} : Party ι → Type
  | .revocation => Except SecretsError UInt64
  | .join _ => Except SecretsError (Bytes × UInt64)

/-- A revocation of a node with joins of other nodes around it. -/
structure RevocationRace (c : Crypto) (ι : Type) where
  state : SecretsState
  revoked : String
  call : RotationCall
  revokeNow : Nat
  joins : ι → JoinCall
  keyed : KeyedRows state
  reason : call.reason = .nodeRevoked revoked
  othersJoin : ∀ i, (joins i).identity.nodeId ≠ revoked

def generation (s : SecretsState) : UInt64 :=
  match s.wrappedDek with
  | some envelope => envelope.dekGeneration
  | none => 0

/-- The node is unknown or marked as revoked. -/
def Inactive (n : String) (s : SecretsState) : Prop :=
  ∀ identity, s.nodes[n]? = some identity → identity.revokedAt ≠ none

namespace RevocationRace

variable {c : Crypto} {ι : Type} (r : RevocationRace c ι)

def revocation : Prog SecretsState (Except SecretsError UInt64) :=
  Prog.bind (r.call.node.proposeSecretsOp r.revokeNow (.revokeNode r.revoked)) fun _ =>
    r.call.prog c

def pool : Pool (Party ι) SecretsState Outcome :=
  { threads := fun
      | .revocation => r.revocation
      | .join i => (r.joins i).prog c
    shared := r.state }

/-- The envelope has no wrap for the revoked node, and the DEK it wraps decrypts every row of its
generation. -/
def Locked (s : SecretsState) : Prop :=
  ∃ envelope dek, s.wrappedDek = some envelope ∧ envelope.wraps[r.revoked]? = none ∧
    RaftSecretsStore.WrapsOf c dek envelope ∧
    ∀ (k : String) (row : ReplicatedSecret), s.secrets[k]? = some row →
      row.dekGeneration = envelope.dekGeneration →
        ∃ plaintext, ClusterDek.decrypt c dek row.ciphertext = .ok plaintext

/-- Rows are not ahead of the envelope, and none is on the last generation. -/
def RowsBehind : Prop :=
  ∀ (k : String) (row : ReplicatedSecret), r.state.secrets[k]? = some row →
    row.dekGeneration ≤ generation r.state ∧ row.dekGeneration ≠ u64Max

/-- When the rotation commits its `RotateDek`, its third step, no join is between its snapshot and
its own `RotateDek`, or that join never gets to its `RotateDek`, its third step. -/
def NoStaleJoin [DecidableEq ι] (schedule : List (Party ι)) : Prop :=
  ∀ before after, schedule = before ++ .revocation :: after → before.count .revocation = 2 →
    ∀ i : ι, before.count (.join i) = 0 ∨ 3 ≤ before.count (.join i) ∨ schedule.count (.join i) < 3

/-! ## What a join commits -/

/-- A join proposes to register its node, then an envelope of the next generation for the active
nodes of its snapshot and its own. -/
lemma joinScript_shape (hc : c.Lawful) (priv : Bytes32) (uuid : String) (s : SecretsState)
    (join : JoinCall) :
    (joinScript c priv uuid join.identity join.rnd s).1 = [] ∨
      ∃ dek envelope, (joinScript c priv uuid join.identity join.rnd s).1 =
          [.registerNode join.identity, .rotateDek envelope] ∧
        envelope.dekGeneration = saturatingSucc (generation s) ∧
        WrapsFor c dek (joinRecipients s join.identity) envelope ∧
        ∀ current dek', s.wrappedDek = some current → RaftSecretsStore.WrapsOf c dek' current →
          dek = dek' := by
  rcases joinScript_cases hc priv uuid s join.identity join.rnd with
    ⟨e, -, hscript⟩ | ⟨dek, base, envelope, wrapped, heffective, hgeneration, hwraps, hscript⟩
  · exact .inl (by rw [hscript])
  · refine .inr ⟨dek, envelope, by rw [hscript], ?_, hwraps, ?_⟩
    · rw [hgeneration]
      cases hdek : s.wrappedDek with
      | none =>
        simp only [effectiveDek, hdek] at heffective
        cases heffective
        simp only [generation, hdek]
      | some current => simp only [generation, hdek, (effectiveDek_of_some hdek heffective).1]
    · intro current dek' hcurrent hcurrentwraps
      exact leaderDek_eq_of_wrapsOf hc hcurrentwraps (effectiveDek_of_some hcurrent heffective).2

lemma inactive_registerNode {n : String} {s : SecretsState} (h : Inactive n s)
    {identity : NodeIdentity} (hne : identity.nodeId ≠ n) (now : Nat) :
    Inactive n (commitOp now (.registerNode identity) s) := by
  intro entry hentry
  change (s.nodes.insert identity.nodeId identity)[n]? = some entry at hentry
  rw [lookup_insert_of_ne _ _ hne] at hentry
  exact h entry hentry

lemma inactive_revokeNode (n : String) (s : SecretsState) (now : Nat) :
    Inactive n (commitOp now (.revokeNode n) s) := by
  intro entry hentry
  simp only [commitOp, SecretsState.apply] at hentry
  by_cases hmem : n ∈ s.nodes
  · simp only [if_pos hmem, lookup_modify] at hentry
    rcases Option.map_eq_some_iff.mp hentry with ⟨old, -, hold⟩
    rw [← hold]
    simp [SecretsState.stampOnce]
  · -- an unknown node: the operation fails and changes nothing
    simp only [if_neg hmem] at hentry
    rw [Std.ExtTreeMap.getElem?_eq_none hmem] at hentry
    cases hentry

lemma lookup_joinRecipients_none {n : String} {s : SecretsState} (h : Inactive n s)
    {identity : NodeIdentity} (hne : identity.nodeId ≠ n) :
    (joinRecipients s identity)[n]? = none := by
  rw [joinRecipients, lookup_insert_of_ne _ _ hne]
  cases hn : (activeRecipients s.nodes none)[n]? with
  | none => rfl
  | some pubkey =>
    rcases (lookup_activeRecipients s.nodes none n pubkey).mp hn with
      ⟨entry, hentry, hactive, -⟩
    exact absurd hactive (h entry hentry)

/-! ## Until the rotation's `RotateDek` -/

/-- The rows are the initial ones, and the generation has not gone down. -/
def Before (s : SecretsState) : Prop :=
  s.secrets = r.state.secrets ∧ generation r.state ≤ generation s

/-- What the joins grant the revocation: an inactive node stays so. -/
def StaysInactive (s s' : SecretsState) : Prop :=
  Inactive r.revoked s → Inactive r.revoked s'

/-- The revocation with two, one and no steps left before its `RotateDek`. -/
def Revoking : Nat → Prog SecretsState (Except SecretsError UInt64) → SecretsState → Prop
  | 2, p, _ => p = r.revocation
  | 1, p, s => p = r.call.prog c ∧ Inactive r.revoked s
  | 0, p, s => Inactive r.revoked s ∧ ∃ snapshot, r.Before snapshot ∧
      p = Prog.script (commitOp r.call.now) (r.call.script c snapshot).1
        (r.call.script c snapshot).2
  | _, _, _ => False

lemma revocation_eq :
    r.revocation = .commit (commitOp r.revokeNow (.revokeNode r.revoked)) fun _ =>
      r.call.prog c := by
  simp only [revocation, proposeSecretsOp, r.call.isLeader, if_true, Prog.bind]
  rfl

lemma revoking_step (n : Nat) (p : Prog SecretsState (Except SecretsError UInt64))
    (s : SecretsState) (h : r.Revoking (n + 1) p s) (hbefore : r.Before s) :
    r.Before (p.step s).2 ∧ r.Revoking n (p.step s).1 (p.step s).2 := by
  match n, h with
  | 1, h =>
    have hp : p = r.revocation := h
    rw [hp, revocation_eq]
    refine ⟨?_, rfl, inactive_revokeNode r.revoked s r.revokeNow⟩
    change r.Before (commitOp r.revokeNow (.revokeNode r.revoked) s)
    simp only [commitOp, SecretsState.apply]
    split
    · exact hbefore
    · exact hbefore
  | 0, h =>
    rw [h.1, RotationCall.prog_eq]
    exact ⟨hbefore, h.2, s, hbefore, rfl⟩

/-- Until then a join keeps the rows and does not take the generation down. -/
lemma join_keeps_before (hc : c.Lawful) (i : ι) (n : Nat) :
    Prog.Keeps r.Before r.StaysInactive n ((r.joins i).prog c) := by
  cases n with
  | zero => exact Prog.keeps_zero _
  | succ n =>
    rcases (r.joins i).prog_cases c with ⟨e, hret⟩ | ⟨priv, uuid, hget⟩
    · rw [hret]
      trivial
    · rw [hget]
      intro s hs
      refine Prog.keeps_script _ _ _ _ fun op hop s' hs' => ?_
      have hmem := mem_of_mem_take hop
      rcases joinScript_shape hc priv uuid s (r.joins i) with
        hnil | ⟨dek, envelope, hops, hgeneration, -⟩
      · rw [hnil] at hmem
        cases hmem
      · rw [hops] at hmem
        simp only [mem_cons, not_mem_nil, or_false] at hmem
        rcases hmem with rfl | rfl
        · exact ⟨hs', fun h => inactive_registerNode h (r.othersJoin i) _⟩
        · refine ⟨⟨hs'.1, ?_⟩, fun h => h⟩
          change generation r.state ≤ envelope.dekGeneration
          rw [hgeneration]
          exact UInt64.le_trans hs.2 (le_saturatingSucc _)

/-! ## From the rotation's `RotateDek` on -/

/-- The envelope wraps the fresh DEK, not for the revoked node, which is inactive. -/
def Since (s : SecretsState) : Prop :=
  Inactive r.revoked s ∧ ∃ envelope, s.wrappedDek = some envelope ∧
    RaftSecretsStore.WrapsOf c r.call.rnd.freshDek envelope ∧ envelope.wraps[r.revoked]? = none

/-- What the joins grant the rotation: they do not touch the rows. -/
def SameRows (s s' : SecretsState) : Prop :=
  s'.secrets = s.secrets

/-- The rotation has the rows `rest` left to put, and every row not among them is under the fresh
DEK. -/
def Reencrypting (result : Except SecretsError UInt64) (_ : Nat)
    (p : Prog SecretsState (Except SecretsError UInt64)) (s : SecretsState) : Prop :=
  ∃ rest : List ReplicatedSecret,
    p = Prog.script (commitOp r.call.now) (rest.map .putSecret) result ∧
    (∀ row ∈ rest, ∃ plaintext,
      ClusterDek.IsCiphertext c r.call.rnd.freshDek plaintext row.ciphertext) ∧
    ∀ (k : String) (row : ReplicatedSecret), s.secrets[k]? = some row →
      (∃ plaintext, ClusterDek.IsCiphertext c r.call.rnd.freshDek plaintext row.ciphertext) ∨
        ∃ row' ∈ rest, row'.storageKey = k

lemma reencrypting_step (result : Except SecretsError UInt64) (n : Nat)
    (p : Prog SecretsState (Except SecretsError UInt64)) (s : SecretsState)
    (h : r.Reencrypting result (n + 1) p s) (hsince : r.Since s) :
    r.Since (p.step s).2 ∧ r.Reencrypting result n (p.step s).1 (p.step s).2 := by
  rcases h with ⟨rest, rfl, hrest, hrows⟩
  cases rest with
  | nil => exact ⟨hsince, [], rfl, hrest, hrows⟩
  | cons first rest =>
    refine ⟨hsince, rest, rfl, fun row hrow => hrest row (by simp [hrow]), ?_⟩
    intro k row hrow
    rcases of_lookup_insert hrow with ⟨-, rfl⟩ | ⟨hk, hold⟩
    · exact .inl (hrest _ (by simp))
    · rcases hrows k row hold with hdone | ⟨row', hmem, hkey⟩
      · exact .inl hdone
      · rcases mem_cons.mp hmem with rfl | htail
        · exact absurd hkey hk
        · exact .inr ⟨row', htail, hkey⟩

lemma since_registerNode {s : SecretsState} (h : r.Since s) (i : ι) (now : Nat) :
    r.Since (commitOp now (.registerNode (r.joins i).identity) s) ∧
      SameRows s (commitOp now (.registerNode (r.joins i).identity) s) :=
  ⟨⟨inactive_registerNode h.1 (r.othersJoin i) now, h.2⟩, rfl⟩

/-- A join that takes its snapshot from then on re-wraps the fresh DEK. -/
lemma join_keeps_since (hc : c.Lawful) (i : ι) (n : Nat) :
    Prog.Keeps r.Since SameRows n ((r.joins i).prog c) := by
  cases n with
  | zero => exact Prog.keeps_zero _
  | succ n =>
    rcases (r.joins i).prog_cases c with ⟨e, hret⟩ | ⟨priv, uuid, hget⟩
    · rw [hret]
      trivial
    · rw [hget]
      intro s hs
      refine Prog.keeps_script _ _ _ _ fun op hop s' hs' => ?_
      have hmem := mem_of_mem_take hop
      rcases joinScript_shape hc priv uuid s (r.joins i) with
        hnil | ⟨dek, envelope, hops, -, hwraps, hdek⟩
      · rw [hnil] at hmem
        cases hmem
      · rw [hops] at hmem
        simp only [mem_cons, not_mem_nil, or_false] at hmem
        rcases hmem with rfl | rfl
        · exact r.since_registerNode hs' i _
        · rcases hs.2 with ⟨current, hcurrent, hcurrentwraps, -⟩
          have hfresh : dek = r.call.rnd.freshDek := hdek current _ hcurrent hcurrentwraps
          subst hfresh
          exact ⟨⟨hs'.1, envelope, rfl, wrapsOf_of_wrapsFor hwraps,
            lookup_none_of_wrapsFor hwraps
              (lookup_joinRecipients_none hs.1 (r.othersJoin i))⟩, rfl⟩

/-- A join that has taken `m` steps by then and will take `n` more keeps to this, unless its
snapshot is old and its `RotateDek` still comes. -/
lemma stale_join_keeps_since (hc : c.Lawful) (i : ι) {m n : Nat}
    {q : Prog SecretsState (Except SecretsError (Bytes × UInt64))}
    (hafter : Prog.After r.Before m ((r.joins i).prog c) q)
    (hsteps : m = 0 ∨ 3 ≤ m ∨ m + n < 3) : Prog.Keeps r.Since SameRows n q := by
  cases m with
  | zero =>
    have hq : q = (r.joins i).prog c := hafter
    rw [hq]
    exact r.join_keeps_since hc i n
  | succ m =>
    rcases (r.joins i).prog_cases c with ⟨e, hret⟩ | ⟨priv, uuid, hget⟩
    · rw [hret] at hafter
      have hq := Prog.after_script (commitOp 0) [] _ hafter
      rw [hq, drop_nil]
      exact Prog.keeps_script _ _ _ _ fun op hop => by simp at hop
    · rw [hget] at hafter
      rcases Prog.after_get_script _ _ _ hafter with ⟨snapshot, -, rfl⟩
      refine Prog.keeps_script _ _ _ _ fun op hop s hs => ?_
      rcases joinScript_shape hc priv uuid snapshot (r.joins i) with
        hnil | ⟨dek, envelope, hops, -⟩
      · rw [hnil] at hop
        simp at hop
      · -- of the two proposals only the first is still to come
        have hregister : op = .registerNode (r.joins i).identity := by
          rw [hops] at hop
          rcases hsteps with hzero | hdone | hleft
          · cases hzero
          · rw [drop_eq_nil_of_le (by simp; omega)] at hop
            simp at hop
          · have hshort : m + n ≤ 1 := by omega
            rw [take_drop] at hop
            have htake := mem_of_mem_drop hop
            have hone := (take_subset_take_left _ hshort) htake
            simpa using hone
        rw [hregister]
        exact r.since_registerNode hs i _

/-! ## Runs -/

/-- No row of the snapshot is on the generation the rotation moves to. -/
lemma ne_newGeneration (hrows : r.RowsBehind) {s : SecretsState} (hbefore : r.Before s)
    {envelope : WrappedDek} (henvelope : s.wrappedDek = some envelope) {k : String}
    {row : ReplicatedSecret} (hrow : s.secrets[k]? = some row) :
    row.dekGeneration ≠ saturatingSucc envelope.dekGeneration := by
  rw [hbefore.1] at hrow
  rcases hrows k row hrow with ⟨hle, hmax⟩
  have hgeneration : generation s = envelope.dekGeneration := by
    simp only [generation, henvelope]
  have hle' : row.dekGeneration ≤ envelope.dekGeneration :=
    UInt64.le_trans hle (hgeneration ▸ hbefore.2)
  by_cases hlast : envelope.dekGeneration = u64Max
  · rw [hlast, saturatingSucc_max]
    exact hmax
  · exact UInt64.ne_of_lt (UInt64.lt_of_le_of_lt hle' (lt_saturatingSucc hlast))

variable [DecidableEq ι]

/-- At the rotation's `RotateDek` the revocation is the script of a snapshot, and every thread got
there from states with the initial rows. -/
lemma exec_before (hc : c.Lawful) {before : List (Party ι)}
    (hcount : before.count .revocation = 2) :
    Pool.Guarded r.Before r.StaysInactive .revocation r.Revoking [] (r.pool.exec before) ∧
      ∀ i, Prog.After r.Before (before.count (.join i)) ((r.joins i).prog c)
        ((r.pool.exec before).threads (.join i)) := by
  have hstart : Pool.Guarded r.Before r.StaysInactive .revocation r.Revoking before r.pool := by
    refine ⟨⟨rfl, UInt64.le_refl _⟩, ?_, ?_⟩
    · rw [hcount]
      rfl
    · intro i hi
      cases i with
      | revocation => exact absurd rfl hi
      | join i => exact r.join_keeps_before hc i _
  have hrun : ∀ first rest, before = first ++ rest →
      Pool.Guarded r.Before r.StaysInactive .revocation r.Revoking rest (r.pool.exec first) := by
    intro first rest hsplit
    refine Pool.exec_keeps (fun s h => h) ?_ r.revoking_step first rest (hsplit ▸ hstart)
    intro n p s s' h _ _ hguarantee
    match n, h with
    | 2, h => exact h
    | 1, h => exact ⟨h.1, hguarantee h.2⟩
    | 0, h => exact ⟨hguarantee h.1, h.2⟩
  refine ⟨hrun before [] (append_nil before).symm, fun i => ?_⟩
  exact Pool.exec_after r.pool before (fun first rest hsplit => (hrun first rest hsplit).shared)
    (.join i)

/-- A thread that follows a script returns the script's result. -/
lemma result_of_exec_script {pool : Pool (Party ι) SecretsState Outcome} {now : Nat}
    {ops : List SecretsRaftOp} {result : Except SecretsError UInt64} {schedule : List (Party ι)}
    (hthread : pool.threads .revocation = Prog.script (commitOp now) ops result)
    {g : UInt64} (h : Prog.result ((pool.exec schedule).threads .revocation) = some (.ok g)) :
    result = .ok g := by
  have hafter := Pool.exec_after (I := fun _ => True) pool schedule (fun _ _ _ => trivial)
    .revocation
  rw [hthread] at hafter
  rw [Prog.after_script _ _ _ hafter] at h
  cases hrest : ops.drop (schedule.count .revocation) with
  | nil =>
    rw [hrest] at h
    exact Option.some.inj h
  | cons op ops' =>
    rw [hrest] at h
    cases h

/-- The revocation returns only after its `RotateDek`. -/
lemma three_le_count_of_returned (hc : c.Lawful) {schedule : List (Party ι)} {g : UInt64}
    (h : Prog.result ((r.pool.exec schedule).threads .revocation) = some (.ok g)) :
    3 ≤ schedule.count .revocation := by
  have hafter := Pool.exec_after (I := fun _ => True) r.pool schedule (fun _ _ _ => trivial)
    .revocation
  by_contra hfew
  have hsteps : schedule.count .revocation = 0 ∨ schedule.count .revocation = 1 ∨
      schedule.count .revocation = 2 := by omega
  have hthread : r.pool.threads .revocation = r.revocation := rfl
  rw [hthread, revocation_eq] at hafter
  rcases hsteps with hcount | hcount | hcount
  · rw [hcount] at hafter
    rw [show _ = _ from hafter] at h
    cases h
  · rw [hcount] at hafter
    rcases hafter with ⟨p, s, rfl, -, hq⟩
    rw [hq, RotationCall.prog_eq] at h
    cases h
  · rw [hcount] at hafter
    rcases hafter with ⟨p', s', ⟨p, s, rfl, -, rfl⟩, -, hq⟩
    have hscript : (r.pool.exec schedule).threads .revocation =
        Prog.script (commitOp r.call.now) (r.call.script c s').1 (r.call.script c s').2 := by
      rw [hq, RotationCall.prog_eq]
      rfl
    rw [hscript] at h
    rcases r.call.script_cases c s' with ⟨e, he⟩ | ⟨envelope, dek, henvelope, hopens⟩
    · rw [he] at h
      cases h
    · rcases r.call.script_of_opens hc henvelope hopens with ⟨plan, -, -, -, -, -, hplan⟩
      rw [hplan] at h
      cases h

/-- The pool right after the rotation's `RotateDek`: the fresh DEK is in force, and the rows still
under another one are those the rotation has left to put. -/
lemma guarded_since (hc : c.Lawful) (hrows : r.RowsBehind) {before after : List (Party ι)}
    (hcount : before.count .revocation = 2)
    (hstale : NoStaleJoin (before ++ .revocation :: after)) {g : UInt64}
    (hreturned : Prog.result ((r.pool.exec (before ++ .revocation :: after)).threads .revocation) =
      some (.ok g)) :
    Pool.Guarded r.Since SameRows .revocation (r.Reencrypting (.ok g)) after
      ((r.pool.exec before).step .revocation) := by
  rcases r.exec_before hc hcount with ⟨hguarded, hjoins⟩
  rcases hguarded.main with ⟨hinactive, snapshot, hsnapshot, hthread⟩
  rw [Pool.exec_append] at hreturned
  have hok := result_of_exec_script hthread hreturned
  rcases r.call.script_cases c snapshot with ⟨e, he⟩ | ⟨envelope, dek, henvelope, hopens⟩
  · rw [he] at hok
    cases hok
  rcases r.call.script_of_opens hc henvelope hopens with
    ⟨plan, -, hnewdek, hnew, -, hwraps, hscript⟩
  rw [hscript] at hthread hok
  have hupdates : List.Forall₂ (Reencrypted c plan)
      (pendingRows plan (r.call.rows snapshot))
      (reencryptScript c plan r.call.rnd.nonces (r.call.rows snapshot)).1 := by
    rcases reencryptScript_spec hc plan r.call.rnd.nonces (r.call.rows snapshot) with
      ⟨-, hall⟩ | ⟨⟨e, he⟩, -⟩
    · exact hall
    · rw [he] at hok
      cases hok
  have hkeyed : KeyedRows snapshot := by
    intro k row hrow
    rw [hsnapshot.1] at hrow
    exact r.keyed k row hrow
  refine ⟨?_, ?_, ?_⟩
  · change r.Since (Prog.step ((r.pool.exec before).threads .revocation) _).2
    rw [hthread]
    refine ⟨hinactive, plan.envelope, rfl, hnewdek ▸ wrapsOf_of_wrapsFor hwraps, ?_⟩
    refine lookup_none_of_wrapsFor hwraps ?_
    cases hn : (activeRecipients snapshot.nodes r.call.reason.revokedId)[r.revoked]? with
    | none => rfl
    | some pubkey =>
      rcases (lookup_activeRecipients _ _ _ _).mp hn with ⟨identity, -, -, hexcluded, -⟩
      rw [r.reason] at hexcluded
      exact absurd rfl hexcluded
  · rw [Pool.step_threads_self, hthread]
    refine ⟨_, congrArg (Prog.script _ _) hok, ?_, ?_⟩
    · intro updated hmem
      exact hnewdek ▸ isCiphertext_of_mem_updates hupdates hmem
    · intro k row hrow
      -- the rows are still those of the snapshot, and the rotation skips none of them
      change (Prog.step ((r.pool.exec before).threads .revocation) _).2.secrets[k]? = _ at hrow
      rw [hthread] at hrow
      change (r.pool.exec before).shared.secrets[k]? = some row at hrow
      rw [hguarded.shared.1, ← hsnapshot.1] at hrow
      have hpending : row ∈ pendingRows plan (r.call.rows snapshot) := by
        refine RotationCall.mem_pendingRows.mpr
          ⟨RotationCall.mem_rows_of_lookup hkeyed hrow, ?_⟩
        rw [hnew]
        exact r.ne_newGeneration hrows hsnapshot henvelope hrow
      rcases exists_updated_of_mem hupdates hpending with ⟨updated, hmem, hreencrypted⟩
      refine .inr ⟨updated, hmem, ?_⟩
      rw [hreencrypted.storageKey_eq]
      exact hkeyed k row hrow
  · intro i hi
    cases i with
    | revocation => exact absurd rfl hi
    | join i =>
      rw [Pool.step_threads_of_ne _ hi]
      refine r.stale_join_keeps_since hc i (hjoins i) ?_
      have hcounts := hstale before after rfl hcount i
      rw [count_append, count_cons_of_ne (Ne.symm hi)] at hcounts
      exact hcounts

/-- If no join with an old snapshot commits its `RotateDek` after the rotation's, then once the
rotation has returned the revoked node has no wrap and the DEK in force decrypts the rows. -/
theorem locked_of_noStaleJoin (hc : c.Lawful) (r : RevocationRace c ι) (hrows : r.RowsBehind)
    {schedule : List (Party ι)} (hstale : NoStaleJoin schedule) {g : UInt64}
    (hreturned : Prog.result ((r.pool.exec schedule).threads .revocation) = some (.ok g)) :
    r.Locked (r.pool.exec schedule).shared := by
  rcases Pool.exists_split_of_lt_count (r.three_le_count_of_returned hc hreturned) with
    ⟨before, after, rfl, hcount⟩
  have hguarded := r.guarded_since hc hrows hcount hstale hreturned
  rw [← append_nil after] at hguarded
  have hend := Pool.exec_keeps (G := SameRows) (fun _ => rfl)
    (fun n p s s' h _ _ hsame => by
      rcases h with ⟨rest, hp, hrest, hrows⟩
      exact ⟨rest, hp, hrest, fun k row hrow => hrows k row (hsame ▸ hrow)⟩)
    (r.reencrypting_step (.ok g)) after [] hguarded
  have hexec : r.pool.exec (before ++ .revocation :: after) =
      ((r.pool.exec before).step .revocation).exec after := by
    rw [Pool.exec_append]
    rfl
  rw [hexec] at hreturned ⊢
  rcases hend.main with ⟨rest, hp, -, hall⟩
  -- the rotation has returned, so no row is left to put
  have hdone : rest = [] := by
    cases rest with
    | nil => rfl
    | cons first rest =>
      rw [hp] at hreturned
      cases hreturned
  rcases hend.shared with ⟨-, envelope, henvelope, hwraps, hnone⟩
  refine ⟨envelope, r.call.rnd.freshDek, henvelope, hnone, hwraps, ?_⟩
  intro k row hrow _
  rcases hall k row hrow with ⟨plaintext, hct⟩ | ⟨row', hmem, -⟩
  · exact ⟨plaintext, ClusterDek.decrypt_of_isCiphertext hc hct⟩
  · rw [hdone] at hmem
    cases hmem

/-! ## One join and one revocation -/

namespace Sample

open RaftCoordinator.Sample

def state : SecretsState :=
  { RaftCoordinator.Sample.state with
    nodes := RaftCoordinator.Sample.state.nodes.insert "c" (identity "c" 3)
    wrappedDek := some
      { dekGeneration := 1
        wraps := envelope.wraps.insert "c" ((key 3).toList ++ (key 7).toList) } }

def race : RevocationRace Crypto.transparent Unit :=
  { state := state
    revoked := "c"
    call := { RaftCoordinator.Sample.call 8 with reason := .nodeRevoked "c" }
    revokeNow := 0
    joins := fun _ =>
      { node := leader
        identity := identity "b" 2
        rnd := { freshDek := key 6, seeds := fun _ => key 0 }
        now := 0 }
    keyed := keyedRows_state
    reason := rfl
    othersJoin := fun _ => by decide }

def joinAfter : List (Party Unit) :=
  [.revocation, .revocation, .revocation, .revocation, .join (), .join (), .join ()]

def joinAround : List (Party Unit) :=
  [.join (), .revocation, .revocation, .revocation, .revocation, .join (), .join ()]

lemma rowsBehind : race.RowsBehind := by
  intro k other hother
  have hrow : RaftCoordinator.Sample.row = other :=
    (lookup_state (k := k) (show RaftCoordinator.Sample.state.secrets[k]? = _ from hother)).2
  rw [← hrow]
  decide

lemma noStaleJoin_joinAfter : NoStaleJoin joinAfter := by
  intro before after hsplit hcount i
  have htake : before = joinAfter.take before.length := by
    rw [hsplit, take_left]
  have hlength : before.length < 7 := by
    have hlen := congrArg List.length hsplit
    simp [joinAfter] at hlen
    omega
  have hall : ∀ n < 7, (joinAfter.take n).count .revocation = 2 →
      (joinAfter.take n).count (.join ()) = 0 := by decide
  rw [htake] at hcount ⊢
  exact .inl (hall before.length hlength hcount)

end Sample

set_option maxRecDepth 10000 in
theorem locked_after_joinAfter :
    Sample.race.Locked (Sample.race.pool.exec Sample.joinAfter).shared :=
  locked_of_noStaleJoin Crypto.transparent_lawful Sample.race Sample.rowsBehind
    Sample.noStaleJoin_joinAfter (g := 2) (by decide)

set_option maxRecDepth 10000 in
/-- A join that took its snapshot before the revocation gives the revoked node a wrap again. -/
theorem regained_after_joinAround :
    ¬ ∀ (c : Crypto) (r : RevocationRace c Unit) (schedule : List (Party Unit)) (g : UInt64),
      c.Lawful → r.RowsBehind →
      Prog.result ((r.pool.exec schedule).threads .revocation) = some (.ok g) →
        r.Locked (r.pool.exec schedule).shared := by
  intro h
  rcases h Crypto.transparent Sample.race Sample.joinAround 2 Crypto.transparent_lawful
    Sample.rowsBehind (by decide) with ⟨envelope, dek, henvelope, hnone, -⟩
  have hwrap : (((Sample.race.pool.exec Sample.joinAround).shared.wrappedDek.bind
      fun envelope => envelope.wraps["c"]?).isSome) = true := by decide
  rw [henvelope] at hwrap
  have hc : envelope.wraps["c"]? = none := hnone
  rw [Option.bind_some, hc] at hwrap
  cases hwrap

end RevocationRace

end ZLayer.Scheduler
