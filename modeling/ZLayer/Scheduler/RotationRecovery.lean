import ZLayer.Scheduler.SecretsReadable

/-!
# RotationRecovery — a rotation after an interrupted rotation

A leader stops after some number of proposals of a rotation, and a node that holds a wrap then runs
a complete one.  The second run decrypts every row it meets with the one DEK it can unwrap.  Once
the first `RotateDek` is committed, that is the fresh DEK of the interrupted run, and the rows that
run left behind are still under the DEK before it.

So the second rotation recovers every secret exactly when the first stopped before its first
proposal or completed, and no row counts as already rotated without being so.
-/

namespace ZLayer.Scheduler

open Lib Secrets RaftCoordinator ClusterDek RotationCall List

namespace RaftCoordinator

/-! ## One complete rotation -/

/-- Every row is stored under its own key, and is an encryption of the plaintext of that key in
`plain` under one of `deks`. -/
structure RowsUnder (c : Crypto) (deks : List Bytes32) (plain : String → Bytes)
    (s : SecretsState) : Prop where
  keyed : KeyedRows s
  rows : ∀ (k : String) (row : ReplicatedSecret), s.secrets[k]? = some row →
    ∃ dek ∈ deks, IsCiphertext c dek (plain k) row.ciphertext

/-- The rotation returns, and every secret of `s` is then decryptable under its fresh DEK to the
plaintext in `plain`. -/
def RotationCall.Recovers (c : Crypto) (call : RotationCall) (plain : String → Bytes)
    (s : SecretsState) : Prop :=
  (∃ generation, ((call.prog c).run s).2 = .ok generation) ∧
    ∀ (k : String) (row : ReplicatedSecret), s.secrets[k]? = some row →
      ∃ row', ((call.prog c).run s).1.secrets[k]? = some row' ∧
        decrypt c call.rnd.freshDek row'.ciphertext = .ok (plain k)

namespace RotationCall

variable {c : Crypto} {call : RotationCall} {plain : String → Bytes} {s : SecretsState}
  {envelope : WrappedDek} {dek : Bytes32} {deks : List Bytes32}

/-- A complete rotation recovers the secrets exactly when it skips none of the rows and each of
them is under the DEK it unwraps. -/
lemma recovers_iff (hc : c.Lawful) (hrows : RowsUnder c deks plain s)
    (henvelope : s.wrappedDek = some envelope) (hopens : call.Opens c s dek)
    (hfresh : call.rnd.freshDek ∉ deks) :
    call.Recovers c plain s ↔
      ∀ (k : String) (row : ReplicatedSecret), s.secrets[k]? = some row →
        row.dekGeneration ≠ saturatingSucc envelope.dekGeneration ∧
          IsCiphertext c dek (plain k) row.ciphertext := by
  rcases call.script_of_opens hc henvelope hopens with
    ⟨plan, hprevious, hnewdek, hnew, -, -, hscript⟩
  have hkeyed := hrows.keyed
  have hnodup := pending_keys_nodup call plan hkeyed
  have hspec := reencryptScript_spec hc plan call.rnd.nonces (call.rows s)
  unfold Recovers
  rw [run_prog c call hscript, ← hnew, ← hnewdek]
  rw [← hnewdek] at hfresh
  constructor
  · rintro ⟨⟨generation, hok⟩, hplain⟩ k row hrow
    rcases hrows.rows k row hrow with ⟨key, hkey, hct⟩
    rcases hspec with ⟨-, hupdates⟩ | ⟨⟨e, he⟩, -⟩
    · rcases lookup_commitAll_reencrypted call.now hupdates hnodup
        { s with wrappedDek := some plan.envelope } with ⟨hdone, hothers⟩
      have hgeneration : row.dekGeneration ≠ plan.newGeneration := by
        -- a skipped row is still under its old key
        intro hskip
        rcases hplain k row hrow with ⟨row', hrow', hdecrypt⟩
        rw [hothers k ?_] at hrow'
        · have hsame : row = row' := Option.some.inj (hrow.symm.trans hrow')
          subst hsame
          exact hfresh (dek_eq_of_decrypt_ok hc hct hdecrypt ▸ hkey)
        · intro other hother heq
          have hlookup := lookup_of_mem_rows hkeyed (mem_pendingRows.mp hother).1
          rw [heq, hrow] at hlookup
          have hsame : row = other := Option.some.inj hlookup
          exact (mem_pendingRows.mp hother).2 (hsame ▸ hskip)
      refine ⟨hgeneration, ?_⟩
      rcases hdone row (mem_pendingRows.mpr ⟨mem_rows_of_lookup hkeyed hrow, hgeneration⟩) with
        ⟨updated, ⟨plaintext, ciphertext, hdecrypt, -, -⟩, -⟩
      have hdek : plan.previousDek = key := dek_eq_of_decrypt_ok hc hct hdecrypt
      rw [← hprevious, hdek]
      exact hct
    · rw [he] at hok
      cases hok
  · intro hall
    have hdecrypts : ∀ row ∈ call.rows s,
        decrypt c plan.previousDek row.ciphertext = .ok (plain row.storageKey) := by
      intro row hrow
      rw [hprevious]
      exact decrypt_of_isCiphertext hc
        (hall _ row (lookup_of_mem_rows hkeyed hrow)).2
    rcases hspec with ⟨hok, hupdates⟩ | ⟨-, done, row, rest, hsplit, -, e, hstuck⟩
    · refine ⟨⟨plan.newGeneration, hok⟩, ?_⟩
      intro k row hrow
      have hmem : row ∈ call.rows s := mem_rows_of_lookup hkeyed hrow
      rcases lookup_commitAll_reencrypted call.now hupdates hnodup
        { s with wrappedDek := some plan.envelope } with ⟨hdone, -⟩
      rcases hdone row (mem_pendingRows.mpr ⟨hmem, (hall k row hrow).1⟩) with
        ⟨updated, ⟨plaintext, ciphertext, hdecrypt, hct, rfl⟩, hlookup⟩
      rw [hkeyed k row hrow] at hlookup
      refine ⟨_, hlookup, ?_⟩
      rw [hdecrypts row hmem, hkeyed k row hrow] at hdecrypt
      have hplain : plain k = plaintext := Except.ok.inj hdecrypt
      rw [hplain]
      exact decrypt_of_isCiphertext hc hct
    · have hmem : row ∈ pendingRows plan (call.rows s) := by
        rw [hsplit]
        simp
      rw [hdecrypts row (mem_pendingRows.mp hmem).1] at hstuck
      cases hstuck

/-! ## The state a cut-off rotation leaves -/

lemma Opens.dek_eq (hc : c.Lawful) {dek' : Bytes32} (hopens : call.Opens c s dek')
    (henvelope : s.wrappedDek = some envelope) (hwraps : RaftSecretsStore.WrapsOf c dek envelope) :
    dek' = dek := by
  rcases hopens with ⟨envelope', wrapped, henvelope', hwrapped, hunwrap⟩
  have hsame : envelope = envelope' := Option.some.inj (henvelope.symm.trans henvelope')
  subst hsame
  rcases hwraps call.uuid wrapped hwrapped with ⟨recipient, his⟩
  exact (eq_of_unwrap_ok hc his hunwrap).1

lemma length_rows (call : RotationCall) (s : SecretsState) :
    (call.rows s).length = s.secrets.size := by
  rw [rows, length_map, (call.rnd.order.perm s.secrets).length_eq]
  exact Std.ExtTreeMap.length_toList

/-- When all rows decrypt, the loop of a rotation gets through. -/
lemma updates_of_rowsUnder (hc : c.Lawful) (call : RotationCall) (hrows : RowsUnder c [dek] plain s)
    {plan : RotationPlan} (hprevious : plan.previousDek = dek) :
    Forall₂ (Reencrypted c plan) (pendingRows plan (call.rows s))
      (reencryptScript c plan call.rnd.nonces (call.rows s)).1 := by
  rcases reencryptScript_spec hc plan call.rnd.nonces (call.rows s) with
    ⟨-, hupdates⟩ | ⟨-, done, row, rest, hsplit, -, e, hstuck⟩
  · exact hupdates
  · have hmem : row ∈ pendingRows plan (call.rows s) := by
      rw [hsplit]
      simp
    rcases hrows.rows _ row (lookup_of_mem_rows hrows.keyed (mem_pendingRows.mp hmem).1) with
      ⟨key, hkey, hct⟩
    have hdek : key = dek := by simpa using hkey
    rw [hprevious, ← hdek, decrypt_of_isCiphertext hc hct] at hstuck
    cases hstuck

/-- What a cut-off rotation did to the rows: those in `done` are re-encrypted, and no other row has
changed. -/
structure CutRows (c : Crypto) (plan : RotationPlan) (plain : String → Bytes)
    (done : List ReplicatedSecret) (before after : SecretsState) : Prop where
  envelope : after.wrappedDek = some plan.envelope
  moved : ∀ row ∈ done, ∃ ciphertext,
    IsCiphertext c plan.newDek (plain row.storageKey) ciphertext ∧
      after.secrets[row.storageKey]? =
        some { row with ciphertext := ciphertext, dekGeneration := plan.newGeneration }
  left : ∀ k : String, (∀ row ∈ done, row.storageKey ≠ k) →
    after.secrets[k]? = before.secrets[k]?

lemma cutRows_interrupt (hc : c.Lawful) (hrows : RowsUnder c [dek] plain s)
    {plan : RotationPlan} (hprevious : plan.previousDek = dek)
    (hscript : call.script c s =
      (.rotateDek plan.envelope ::
          (reencryptScript c plan call.rnd.nonces (call.rows s)).1.map .putSecret,
        (reencryptScript c plan call.rnd.nonces (call.rows s)).2)) (j : Nat) :
    CutRows c plan plain ((pendingRows plan (call.rows s)).take j) s
      ((call.prog c).interrupt (j + 1) s) := by
  rw [interrupt_prog_succ c call hscript]
  have hupdates := forall₂_take j (updates_of_rowsUnder hc call hrows hprevious)
  have hnodup : (((pendingRows plan (call.rows s)).take j).map (·.storageKey)).Nodup :=
    (pending_keys_nodup call plan hrows.keyed).sublist ((take_sublist j _).map _)
  rcases lookup_commitAll_reencrypted call.now hupdates hnodup
    { s with wrappedDek := some plan.envelope } with ⟨hdone, hothers⟩
  refine ⟨commitAll_puts_wrappedDek _ _ _, ?_, hothers⟩
  intro row hrow
  have hpending := mem_pendingRows.mp (mem_of_mem_take hrow)
  rcases hrows.rows _ row (lookup_of_mem_rows hrows.keyed hpending.1) with ⟨key, hkey, hold⟩
  have hdek : key = dek := by simpa using hkey
  rcases hdone row hrow with ⟨updated, ⟨plaintext, ciphertext, hdecrypt, hct, rfl⟩, hlookup⟩
  refine ⟨ciphertext, ?_, hlookup⟩
  rw [hprevious, ← hdek, decrypt_of_isCiphertext hc hold] at hdecrypt
  exact Except.ok.inj hdecrypt ▸ hct

/-- A row of the state before is re-encrypted or where it was; a key without a row has none. -/
lemma CutRows.lookup_cases {plan : RotationPlan} {done : List ReplicatedSecret}
    {after : SecretsState} (h : CutRows c plan plain done s after) (hkeyed : KeyedRows s)
    (hdone : ∀ row ∈ done, row ∈ call.rows s) (k : String) :
    (∃ row ∈ done, s.secrets[k]? = some row ∧ ∃ ciphertext,
        IsCiphertext c plan.newDek (plain k) ciphertext ∧
        after.secrets[k]? =
          some { row with ciphertext := ciphertext, dekGeneration := plan.newGeneration }) ∨
      (∀ row ∈ done, s.secrets[k]? ≠ some row) ∧ after.secrets[k]? = s.secrets[k]? := by
  by_cases hmem : ∃ row ∈ done, row.storageKey = k
  · rcases hmem with ⟨row, hrow, rfl⟩
    exact .inl ⟨row, hrow, lookup_of_mem_rows hkeyed (hdone row hrow), h.moved row hrow⟩
  · refine .inr ⟨?_, h.left k fun row hrow heq => hmem ⟨row, hrow, heq⟩⟩
    intro row hrow hlookup
    exact hmem ⟨row, hrow, hkeyed k row hlookup⟩

end RotationCall

/-! ## The interrupted rotation and the one after it -/

/-- A rotation that stops after `cut` proposals on a state whose rows are all under the current
DEK, and a complete rotation by a node that then holds a wrap.  Fresh DEKs are new. -/
structure CutRotation (c : Crypto) where
  state : SecretsState
  envelope : WrappedDek
  dek : Bytes32
  plain : String → Bytes
  first : RotationCall
  cut : Nat
  second : RotationCall
  hasEnvelope : state.wrappedDek = some envelope
  wraps : RaftSecretsStore.WrapsOf c dek envelope
  rows : RowsUnder c [dek] plain state
  firstHoldsWrap : ∃ dek', first.Opens c state dek'
  secondHoldsWrap : ∃ dek', second.Opens c ((first.prog c).interrupt cut state) dek'
  freshDeks : [dek, first.rnd.freshDek, second.rnd.freshDek].Nodup

namespace CutRotation

variable {c : Crypto}

def cutState (r : CutRotation c) : SecretsState :=
  (r.first.prog c).interrupt r.cut r.state

/-- The second rotation returns, and every secret is decryptable under its DEK to the original
plaintext. -/
def Recovered (r : CutRotation c) : Prop :=
  (∃ generation, ((r.second.prog c).run r.cutState).2 = .ok generation) ∧
    ∀ (k : String) (row : ReplicatedSecret), r.state.secrets[k]? = some row →
      ∃ row', ((r.second.prog c).run r.cutState).1.secrets[k]? = some row' ∧
        decrypt c r.second.rnd.freshDek row'.ciphertext = .ok (r.plain k)

/-- No row is on the generation the first rotation moves to. -/
def NoneAhead (r : CutRotation c) : Prop :=
  ∀ (k : String) (row : ReplicatedSecret), r.state.secrets[k]? = some row →
    row.dekGeneration ≠ saturatingSucc r.envelope.dekGeneration

variable (r : CutRotation c)

lemma recovered_of_cut_zero (hc : c.Lawful) (hcut : r.cut = 0) : r.Recovered ↔ r.NoneAhead := by
  have hstate : r.cutState = r.state := by
    rw [cutState, hcut, interrupt_prog_zero]
  rcases r.secondHoldsWrap with ⟨dek', hopens⟩
  change r.second.Opens c r.cutState dek' at hopens
  rw [hstate] at hopens
  have hdek : dek' = r.dek := hopens.dek_eq hc r.hasEnvelope r.wraps
  subst hdek
  have hfresh : r.second.rnd.freshDek ∉ [r.dek] := by
    have hnodup := r.freshDeks
    simp only [nodup_cons, mem_cons, not_or] at hnodup
    simpa using fun heq => hnodup.1.2.1 heq.symm
  have hiff := recovers_iff hc r.rows r.hasEnvelope hopens hfresh
  unfold Recovered
  rw [hstate]
  refine hiff.trans ⟨fun h k row hrow => (h k row hrow).1, fun h k row hrow => ?_⟩
  rcases r.rows.rows k row hrow with ⟨key, hkey, hct⟩
  have hkey' : key = r.dek := by simpa using hkey
  exact ⟨h k row hrow, hkey' ▸ hct⟩

/-- What the first rotation did when it committed its `RotateDek` and `j` rows. -/
lemma cutRows_of_cut_succ (hc : c.Lawful) {j : Nat} (hcut : r.cut = j + 1) :
    ∃ plan : RotationPlan, plan.newDek = r.first.rnd.freshDek ∧
      plan.newGeneration = saturatingSucc r.envelope.dekGeneration ∧
      plan.envelope.dekGeneration = plan.newGeneration ∧
      RaftSecretsStore.WrapsOf c plan.newDek plan.envelope ∧
      CutRows c plan r.plain ((pendingRows plan (r.first.rows r.state)).take j)
        r.state r.cutState := by
  rcases r.firstHoldsWrap with ⟨dek', hopens⟩
  have hdek : dek' = r.dek := hopens.dek_eq hc r.hasEnvelope r.wraps
  rcases r.first.script_of_opens hc r.hasEnvelope hopens with
    ⟨plan, hprevious, hnewdek, hnew, hgeneration, hwraps, hscript⟩
  refine ⟨plan, hnewdek, hnew, hgeneration, wrapsOf_of_wrapsFor hwraps, ?_⟩
  rw [cutState, hcut]
  exact cutRows_interrupt hc r.rows (hprevious.trans hdek) hscript j

/-- Recovery after the `RotateDek`: every row is under the first rotation's DEK, and none is on the
generation the second one moves to. -/
lemma recovered_iff_rows (hc : c.Lawful) {plan : RotationPlan} {done : List ReplicatedSecret}
    (hnewdek : plan.newDek = r.first.rnd.freshDek)
    (hgeneration : plan.envelope.dekGeneration = plan.newGeneration)
    (hwraps : RaftSecretsStore.WrapsOf c plan.newDek plan.envelope)
    (hcutrows : CutRows c plan r.plain done r.state r.cutState)
    (hdone : ∀ row ∈ done, row ∈ r.first.rows r.state) :
    r.Recovered ↔
      ∀ (k : String) (row : ReplicatedSecret), r.cutState.secrets[k]? = some row →
        row.dekGeneration ≠ saturatingSucc plan.newGeneration ∧
          IsCiphertext c plan.newDek (r.plain k) row.ciphertext := by
  have hcases := hcutrows.lookup_cases r.rows.keyed hdone
  have hunder : RowsUnder c [r.dek, plan.newDek] r.plain r.cutState := by
    refine ⟨?_, ?_⟩
    · intro k row hrow
      rcases hcases k with ⟨old, -, hold, ciphertext, -, hafter⟩ | ⟨-, hafter⟩
      · rw [hafter] at hrow
        have hsame := Option.some.inj hrow
        rw [← hsame]
        exact r.rows.keyed k old hold
      · exact r.rows.keyed k row (hafter ▸ hrow)
    · intro k row hrow
      rcases hcases k with ⟨old, -, hold, ciphertext, hct, hafter⟩ | ⟨-, hafter⟩
      · rw [hafter] at hrow
        have hsame := Option.some.inj hrow
        exact ⟨plan.newDek, by simp, by rw [← hsame]; exact hct⟩
      · rcases r.rows.rows k row (hafter ▸ hrow) with ⟨key, hkey, hct⟩
        exact ⟨key, by simp at hkey ⊢; exact .inl hkey, hct⟩
  -- both states have the same keys, so the second rotation recovers the first state's secrets
  have hkeys : ∀ k : String, (∃ row, r.state.secrets[k]? = some row) ↔
      ∃ row, r.cutState.secrets[k]? = some row := by
    intro k
    rcases hcases k with ⟨old, -, hold, ciphertext, -, hafter⟩ | ⟨-, hafter⟩
    · exact ⟨fun _ => ⟨_, hafter⟩, fun _ => ⟨old, hold⟩⟩
    · rw [hafter]
  rcases r.secondHoldsWrap with ⟨dek', hopens⟩
  change r.second.Opens c r.cutState dek' at hopens
  have hdek : dek' = plan.newDek := hopens.dek_eq hc hcutrows.envelope hwraps
  rw [hdek] at hopens
  have hfresh : r.second.rnd.freshDek ∉ [r.dek, plan.newDek] := by
    have hnodup := r.freshDeks
    rw [← hnewdek] at hnodup
    simp only [nodup_cons, mem_cons, not_or] at hnodup
    simpa using ⟨fun heq => hnodup.1.2.1 heq.symm, fun heq => hnodup.2.1.1 heq.symm⟩
  have hiff := recovers_iff hc hunder hcutrows.envelope hopens hfresh
  rw [hgeneration] at hiff
  refine Iff.trans ?_ hiff
  refine and_congr_right fun _ => ⟨fun h k row hrow => ?_, fun h k row hrow => ?_⟩
  · rcases (hkeys k).mpr ⟨row, hrow⟩ with ⟨row', hrow'⟩
    exact h k row' hrow'
  · rcases (hkeys k).mp ⟨row, hrow⟩ with ⟨row', hrow'⟩
    exact h k row' hrow'

/-- After the `RotateDek` only a first rotation that reached every row can be recovered from. -/
lemma recovered_of_cut_succ (hc : c.Lawful) {j : Nat} (hcut : r.cut = j + 1) :
    r.Recovered ↔ r.state.secrets = ∅ ∨
      (r.NoneAhead ∧ r.state.secrets.size ≤ j ∧
        saturatingSucc r.envelope.dekGeneration ≠ u64Max) := by
  rcases r.cutRows_of_cut_succ hc hcut with
    ⟨plan, hnewdek, hnew, hgeneration, hwraps, hcutrows⟩
  have hkeyed := r.rows.keyed
  have hdone : ∀ row ∈ (pendingRows plan (r.first.rows r.state)).take j,
      row ∈ r.first.rows r.state ∧ row.dekGeneration ≠ plan.newGeneration :=
    fun row hrow => mem_pendingRows.mp (mem_of_mem_take hrow)
  have hcases := hcutrows.lookup_cases hkeyed fun row hrow => (hdone row hrow).1
  rw [r.recovered_iff_rows hc hnewdek hgeneration hwraps hcutrows
    fun row hrow => (hdone row hrow).1, ← hnew]
  constructor
  · intro h
    -- a row the first rotation did not reach is still under the old DEK
    have hreached : ∀ (k : String) (row : ReplicatedSecret), r.state.secrets[k]? = some row →
        row ∈ (pendingRows plan (r.first.rows r.state)).take j := by
      intro k row hrow
      rcases hcases k with ⟨old, hmem, hold, -⟩ | ⟨-, hafter⟩
      · exact Option.some.inj (hold.symm.trans hrow) ▸ hmem
      · rcases r.rows.rows k row hrow with ⟨key, hkey, hct⟩
        have hkey' : key = r.dek := by simpa using hkey
        have hnewct := (h k row (hafter.trans hrow)).2
        have heq := dek_eq_of_decrypt_ok hc hct
          (decrypt_of_isCiphertext hc hnewct)
        have hnodup := r.freshDeks
        rw [← hnewdek, heq, hkey'] at hnodup
        simp at hnodup
    by_cases hempty : r.state.secrets = ∅
    · exact .inl hempty
    · refine .inr ⟨fun k row hrow => hnew ▸ (hdone row (hreached k row hrow)).2, ?_, ?_⟩
      · have hsub : r.first.rows r.state ⊆
            (pendingRows plan (r.first.rows r.state)).take j := fun row hrow =>
          hreached _ row (lookup_of_mem_rows hkeyed hrow)
        have hnodup : (r.first.rows r.state).Nodup :=
          (rows_keys_nodup r.first.rnd.order hkeyed).of_map _
        rw [← length_rows r.first]
        exact (hnodup.subperm hsub).length_le.trans (by simp)
      · intro hmax
        rcases HashMap.exists_lookup_of_ne_empty hempty with ⟨k, row, hrow⟩
        rcases hcases k with ⟨old, -, hold, ciphertext, -, hafter⟩ | ⟨hnone, -⟩
        · have hne := (h k _ hafter).1
          rw [hmax, saturatingSucc_max] at hne
          exact hne rfl
        · exact hnone row (hreached k row hrow) hrow
  · rintro (hempty | ⟨hahead, hsize, hmax⟩) k row hrow
    · rcases hcases k with ⟨old, -, hold, -⟩ | ⟨-, hafter⟩
      · simp [hempty] at hold
      · simp [hafter, hempty] at hrow
    · have hall : (pendingRows plan (r.first.rows r.state)).take j = r.first.rows r.state := by
        have hpending : pendingRows plan (r.first.rows r.state) = r.first.rows r.state := by
          refine filter_eq_self.mpr fun row hrow => ?_
          have hne := hahead _ row (lookup_of_mem_rows hkeyed hrow)
          simpa [hnew] using hne
        rw [hpending]
        exact take_of_length_le (by rw [length_rows]; exact hsize)
      rcases hcases k with ⟨old, -, -, ciphertext, hct, hafter⟩ | ⟨hnone, hafter⟩
      · have hsame := Option.some.inj (hafter.symm.trans hrow)
        rw [← hsame]
        exact ⟨UInt64.ne_of_lt (lt_saturatingSucc hmax), hct⟩
      · rw [hafter] at hrow
        refine absurd hrow (hnone row ?_)
        rw [hall]
        exact mem_rows_of_lookup hkeyed hrow

/-- The second rotation recovers every secret exactly when there is none, or no row was ahead of
the rotation and the first one either proposed nothing or completed below the last generation. -/
theorem recovered_iff (hc : c.Lawful) (r : CutRotation c) : r.Recovered ↔ r.state.secrets = ∅ ∨
      (∀ (k : String) (row : ReplicatedSecret), r.state.secrets[k]? = some row →
        row.dekGeneration ≠ saturatingSucc r.envelope.dekGeneration) ∧
      (r.cut = 0 ∨ r.state.secrets.size < r.cut ∧
        saturatingSucc r.envelope.dekGeneration ≠ u64Max) := by
  cases hcut : r.cut with
  | zero =>
    rw [r.recovered_of_cut_zero hc hcut]
    refine ⟨fun h => .inr ⟨h, .inl rfl⟩, ?_⟩
    rintro (hempty | ⟨hahead, -⟩)
    · intro k row hrow
      simp [hempty] at hrow
    · exact hahead
  | succ j =>
    rw [r.recovered_of_cut_succ hc hcut]
    simp only [NoneAhead, Nat.lt_succ_iff, Nat.add_one_ne_zero, false_or]

end CutRotation

/-! ## One row, one node -/

namespace Sample

lemma rowsUnder : RowsUnder Crypto.transparent [key 7] (fun _ => [1, 2]) state := by
  refine ⟨keyedRows_state, fun k other hother => ?_⟩
  rcases lookup_state hother with ⟨rfl, rfl⟩
  exact ⟨key 7, by simp, Vector.replicate 24 0, by decide⟩

lemma wrapsOf : RaftSecretsStore.WrapsOf Crypto.transparent (key 7) envelope := by
  intro n wrapped hwrapped
  simp only [envelope, HashMap.lookup_insert] at hwrapped
  split at hwrapped
  · exact ⟨key 1, key 0, hwrapped⟩
  · simp at hwrapped

def cutRotation (cut : Nat) (h : ∃ dek, (call 9).Opens Crypto.transparent
      (((call 8).prog Crypto.transparent).interrupt cut state) dek) :
    CutRotation Crypto.transparent :=
  { state := state
    envelope := envelope
    dek := key 7
    plain := fun _ => [1, 2]
    first := call 8
    cut := cut
    second := call 9
    hasEnvelope := hasEnvelope_state
    wraps := wrapsOf
    rows := rowsUnder
    firstHoldsWrap := ⟨key 7, call_opens_state 8⟩
    secondHoldsWrap := h
    freshDeks := by decide }

/-- The node still holds a wrap once the first rotation has committed its `RotateDek`. -/
lemma opens_of_lookup {s : SecretsState} {dek : Bytes32}
    (h : (s.wrappedDek.bind fun envelope => envelope.wraps["a"]?.bind fun wrapped =>
      (unwrap Crypto.transparent (key 1) wrapped).toOption) = some dek) :
    (call 9).Opens Crypto.transparent s dek := by
  rcases Option.bind_eq_some_iff.mp h with ⟨envelope, henvelope, hrest⟩
  rcases Option.bind_eq_some_iff.mp hrest with ⟨wrapped, hwrapped, hunwrap⟩
  refine ⟨envelope, wrapped, henvelope, hwrapped, ?_⟩
  change unwrap Crypto.transparent (key 1) wrapped = .ok dek
  cases hok : unwrap Crypto.transparent (key 1) wrapped with
  | error e => simp [hok, Except.toOption] at hunwrap
  | ok dek' =>
    have hdek : dek' = dek := by simpa [hok, Except.toOption] using hunwrap
    rw [hdek]

end Sample

namespace CutRotation

set_option maxRecDepth 10000 in
theorem recovered_after_complete_rotation :
    (Sample.cutRotation 2 ⟨Sample.key 8, Sample.opens_of_lookup (by decide)⟩).Recovered :=
  (recovered_iff Crypto.transparent_lawful _).mpr
    (.inr ⟨by
      intro k row hrow
      rcases Sample.lookup_state hrow with ⟨rfl, rfl⟩
      decide, .inr ⟨by decide, by decide⟩⟩)

set_option maxRecDepth 10000 in
/-- The first rotation stops after its `RotateDek`: the second one cannot decrypt the row. -/
theorem not_recovered_after_rotateDek :
    ¬ ∀ (c : Crypto) (r : CutRotation c), c.Lawful → r.Recovered := by
  intro h
  let r := Sample.cutRotation 1 ⟨Sample.key 8, Sample.opens_of_lookup (by decide)⟩
  rcases (h Crypto.transparent r Crypto.transparent_lawful).1 with ⟨generation, hok⟩
  have hfail : ((r.second.prog Crypto.transparent).run r.cutState).2.isOk = false := by decide
  rw [hok] at hfail
  cases hfail

end CutRotation

end RaftCoordinator

end ZLayer.Scheduler
