import ZLayer.Scheduler.SecretsReadable

/-!
# RotationInterleaving — a rotation among client writes

`propose_rotate_dek` takes one snapshot and later proposes one `PutSecret` per row of it, while
clients keep committing puts and deletes to the same log.  The put of a row is computed from the
snapshot: a client operation on its key that commits in between is overwritten by it.

A key keeps its last client operation exactly when its row is not re-encrypted, or a client
operation on it commits after the re-encrypted row, or the overwritten operation was a put of the
plaintext the row already had.
-/

namespace ZLayer.Scheduler

open Lib Secrets RaftCoordinator List

/-! ## Client operations -/

/-- A proposed row, with the plaintext and the DEK the client encrypted. -/
structure ClientPut (c : Crypto) where
  row : ReplicatedSecret
  plaintext : Bytes
  dek : Bytes32
  encrypted : ClusterDek.IsCiphertext c dek plaintext row.ciphertext

inductive ClientOp (c : Crypto)
  | put (p : ClientPut c)
  | delete (storageKey : String)

namespace ClientOp

variable {c : Crypto}

def key : ClientOp c → String
  | put p => p.row.storageKey
  | delete storageKey => storageKey

def op : ClientOp c → SecretsRaftOp
  | put p => .putSecret p.row
  | delete storageKey => .deleteSecret storageKey

/-- What the operation leaves under its key. -/
def effect : ClientOp c → Option ReplicatedSecret
  | put p => some p.row
  | delete _ => none

def act (now : Nat) (o : ClientOp c) (s : SecretsState) : SecretsState :=
  commitOp now o.op s

def lastOn (k : String) (ops : List (ClientOp c)) : Option (ClientOp c) :=
  (ops.filter fun o => o.key = k).getLast?

lemma lastOn_append (k : String) (ops ops' : List (ClientOp c)) :
    lastOn k (ops ++ ops') = (lastOn k ops').or (lastOn k ops) := by
  rw [lastOn, filter_append, List.getLast?_append]
  rfl

lemma lastOn_cons (k : String) (o : ClientOp c) (ops : List (ClientOp c)) :
    lastOn k (o :: ops) = (lastOn k ops).or (if o.key = k then some o else none) := by
  rw [← singleton_append, lastOn_append]
  by_cases h : o.key = k <;> simp [lastOn, h]

variable {ops : List (ClientOp c)}

lemma lookup_act (now : Nat) (o : ClientOp c) (s : SecretsState) (k : String) :
    (o.act now s).secrets[k]? = if o.key = k then o.effect else s.secrets[k]? := by
  cases o with
  | put p => exact HashMap.lookup_insert s.secrets p.row.storageKey k p.row
  | delete storageKey =>
    change (commitOp now (.deleteSecret storageKey) s).secrets[k]? =
      if storageKey = k then none else s.secrets[k]?
    simp only [commitOp, SecretsState.apply]
    by_cases hmem : storageKey ∈ s.secrets
    · rw [if_pos hmem]
      exact HashMap.lookup_erase s.secrets storageKey k
    · -- the delete of an absent key fails and changes nothing
      rw [if_neg hmem]
      by_cases hk : storageKey = k
      · rw [if_pos hk, ← hk]
        exact Std.ExtTreeMap.getElem?_eq_none hmem
      · rw [if_neg hk]

lemma wrappedDek_act (now : Nat) (o : ClientOp c) (s : SecretsState) :
    (o.act now s).wrappedDek = s.wrappedDek := by
  cases o with
  | put p => rfl
  | delete storageKey =>
    simp only [act, op, commitOp, SecretsState.apply]
    split <;> rfl

lemma keyedRows_act (now : Nat) (o : ClientOp c) {s : SecretsState} (h : KeyedRows s) :
    KeyedRows (o.act now s) := by
  intro k row hrow
  rw [lookup_act] at hrow
  by_cases hk : o.key = k
  · rw [if_pos hk] at hrow
    cases o with
    | put p => rw [← Option.some.inj hrow]; exact hk
    | delete storageKey => cases hrow
  · rw [if_neg hk] at hrow
    exact h k row hrow

/-- What client operations alone do to a state. -/
structure Committed (ops : List (ClientOp c)) (before after : SecretsState) : Prop where
  wrappedDek : after.wrappedDek = before.wrappedDek
  keyed : KeyedRows before → KeyedRows after
  lookup : ∀ k : String, after.secrets[k]? =
    match lastOn k ops with
    | some o => o.effect
    | none => before.secrets[k]?

lemma committed_foldl (now : Nat) (ops : List (ClientOp c)) (s : SecretsState) :
    Committed ops s (ops.foldl (fun s o => o.act now s) s) := by
  induction ops generalizing s with
  | nil => exact ⟨rfl, fun h => h, fun _ => rfl⟩
  | cons o ops ih =>
    have hrest := ih (o.act now s)
    refine ⟨hrest.wrappedDek.trans (wrappedDek_act now o s),
      fun h => hrest.keyed (keyedRows_act now o h), fun k => ?_⟩
    rw [foldl_cons, hrest.lookup k, lastOn_cons, lookup_act]
    cases lastOn k ops with
    | some o' => rfl
    | none => by_cases hk : o.key = k <;> simp [hk]

end ClientOp

/-! ## A script among client operations -/

/-- A rotation that returns, interleaved with client operations: some commit before its snapshot,
the others between its steps and after them. -/
structure InterleavedRotation (c : Crypto) where
  state : SecretsState
  before : List (ClientOp c)
  call : RotationCall
  during : List (Prog.Event (ClientOp c))
  envelope : WrappedDek
  dek : Bytes32
  generation : UInt64
  keyed : KeyedRows state
  hasEnvelope : state.wrappedDek = some envelope
  opens : call.Opens c state dek
  returned : (Prog.exec (ClientOp.act call.now) (before.map .other ++ .own :: during)
    (call.prog c, state)).1.result = some (.ok generation)

namespace InterleavedRotation

open Prog.Event

variable {c : Crypto} (r : InterleavedRotation c)

def snapshot : SecretsState :=
  r.before.foldl (fun s o => o.act r.call.now s) r.state

def finish : SecretsState :=
  (Prog.exec (ClientOp.act r.call.now) (r.before.map .other ++ .own :: r.during)
    (r.call.prog c, r.state)).2

/-- The rows of the snapshot that the rotation re-encrypts, in the order it meets them. -/
def pending : List ReplicatedSecret :=
  (r.call.rows r.snapshot).filter fun row =>
    row.dekGeneration ≠ saturatingSucc r.envelope.dekGeneration

/-- The operation is what the final state has under its key: nothing after a delete; after a put a
row with its plaintext, under the client's DEK or re-encrypted under the fresh one. -/
def Reflects : ClientOp c → Prop
  | .put p => ∃ row, r.finish.secrets[p.row.storageKey]? = some row ∧
      (ClusterDek.IsCiphertext c p.dek p.plaintext row.ciphertext ∨
        ClusterDek.IsCiphertext c r.call.rnd.freshDek p.plaintext row.ciphertext)
  | .delete storageKey => r.finish.secrets[storageKey]? = none

def NothingLost : Prop :=
  ∀ (k : String) (o : ClientOp c),
    ClientOp.lastOn k (r.before ++ others r.during) = some o → r.Reflects o

/-- The `j`-th pending row does not overwrite a client operation for good.  The rotation's first
step after the snapshot commits the `RotateDek`, so that row is put by step `j + 2`. -/
def Harmless (j : Nat) (row : ReplicatedSecret) : Prop :=
  (∃ o ∈ others (afterOwn (j + 2) r.during), o.key = row.storageKey) ∨
    ∀ o, ClientOp.lastOn row.storageKey (others (untilOwn (j + 2) r.during)) = some o →
      ∃ p, o = .put p ∧ ClusterDek.decrypt c r.dek row.ciphertext = .ok p.plaintext

lemma committed_snapshot : ClientOp.Committed r.before r.state r.snapshot :=
  ClientOp.committed_foldl r.call.now r.before r.state

lemma keyed_snapshot : KeyedRows r.snapshot :=
  r.committed_snapshot.keyed r.keyed

/-- What the rotation commits: an envelope and the re-encrypted pending rows. -/
structure Commits (plan : RotationPlan) (updates : List ReplicatedSecret) : Prop where
  newDek : plan.newDek = r.call.rnd.freshDek
  previousDek : plan.previousDek = r.dek
  reencrypted : List.Forall₂ (Reencrypted c plan) r.pending updates
  steps : updates.length + 1 ≤ owns r.during
  finish : r.finish = (Prog.exec (ClientOp.act r.call.now) r.during
    (Prog.script (commitOp r.call.now) (.rotateDek plan.envelope :: updates.map .putSecret)
      (.ok r.generation : Except SecretsError UInt64), r.snapshot)).2

variable {r} {plan : RotationPlan} {updates : List ReplicatedSecret}

variable {row : ReplicatedSecret}

lemma Commits.keys_nodup (h : r.Commits plan updates) : (updates.map (·.storageKey)).Nodup := by
  rw [storageKeys_eq_of_reencrypted h.reencrypted]
  exact (rows_keys_nodup r.call.rnd.order r.keyed_snapshot).sublist (filter_sublist.map _)

variable {o : ClientOp c}

def sample (during : List (Prog.Event (ClientOp Crypto.transparent)))
    (h : (Prog.exec (ClientOp.act 0) (.own :: during)
      ((Sample.call 8).prog Crypto.transparent, Sample.state)).1.result = some (.ok 2)) :
    InterleavedRotation Crypto.transparent :=
  { state := Sample.state
    before := []
    call := Sample.call 8
    during := during
    envelope := Sample.envelope
    dek := Sample.key 7
    generation := 2
    keyed := Sample.keyedRows_state
    hasEnvelope := Sample.hasEnvelope_state
    opens := Sample.call_opens_state 8
    returned := h }

end InterleavedRotation

end ZLayer.Scheduler
