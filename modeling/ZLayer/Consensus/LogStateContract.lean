import ZLayer.Consensus.LogRefinement

/-!
# LogStateContract — what the log stores report about their ends

A log store has to report the id of its last entry, and the id up to which it was purged if it has
no entries, so that a restarted node never takes its log to end before the point it was purged to.
Both stores report no id at all when the log is empty.  So the report is right as long as nothing
was purged, or an entry is left that is not older than the last purge.

What is present after a sequence of calls is said in terms of the calls: an entry is present if it
was appended and no later call has written, truncated or purged its place.
-/

namespace ZLayer.Consensus

open Lib List MemLogStore

variable {ε : Type} [RaftLogId ε]

/-! ## What is present -/

/-- The last of the appended entries at place `i`. -/
def lastAt (entries : List ε) (i : UInt64) : Option ε :=
  entries.reverse.find? fun entry => indexOf entry = i

def Call.Touches (i : UInt64) : Call ε → Prop
  | .append entries => ∃ entry ∈ entries, indexOf entry = i
  | .truncate logId => logId.index ≤ i
  | .purge logId => i ≤ logId.index
  | _ => False

variable (calls : List (Call ε))

/-- The entry was appended and its place has not been touched since. -/
def Present (entry : ε) : Prop :=
  ∃ before appended after, calls = before ++ .append appended :: after ∧
    lastAt appended (indexOf entry) = some entry ∧ ∀ c ∈ after, ¬ c.Touches (indexOf entry)

def IsLast (entry : ε) : Prop :=
  Present calls entry ∧ ∀ other, Present calls other → indexOf other ≤ indexOf entry

def lastPurge : Option LogId :=
  calls.reverse.findSome? fun
    | .purge logId => some logId
    | _ => none

/-- The contract of `get_log_state` after the calls. -/
structure LogState.MeetsContract (calls : List (Call ε)) (state : LogState) : Prop where
  last : ∀ entry, IsLast calls entry → state.lastLogId = some (getLogId entry)
  empty : (∀ entry, ¬ Present calls entry) → state.lastLogId = state.lastPurgedLogId
  not_less : ¬ state.lastLogId < state.lastPurgedLogId

/-- Nothing was purged, or the last present entry is not older than the last purge. -/
def NotPurgedAway : Prop :=
  lastPurge calls = none ∨
    ∃ entry, IsLast calls entry ∧ ¬ some (getLogId entry) < lastPurge calls

/-! ## One call -/

lemma indexOf_of_lastAt {entries : List ε} {i : UInt64} {entry : ε}
    (h : lastAt entries i = some entry) : indexOf entry = i := by
  simpa using List.find?_some h

/-- The insertion loop of `append`: the last entry at a place wins. -/
lemma lookup_foldl_insert (appended : List ε) (entries : HashMap UInt64 ε) (i : UInt64) :
    (appended.foldl (fun m entry => m.insert (indexOf entry) entry) entries)[i]? =
      (lastAt appended i).or entries[i]? := by
  induction appended using List.reverseRecOn with
  | nil => rfl
  | append_singleton appended entry ih =>
    rw [foldl_append, foldl_cons, foldl_nil, HashMap.lookup_insert, ih]
    by_cases hi : indexOf entry = i
    · simp [lastAt, hi]
    · simp [lastAt, hi]

/-- What a call leaves at a place: what it wrote there, or what was there if it did not touch the
place. -/
lemma lookup_call (log : LogData ε) (c : Call ε) (i : UInt64) (entry : ε) :
    (call log c).entries[i]? = some entry ↔
      (∃ appended, c = .append appended ∧ lastAt appended i = some entry) ∨
        (¬ c.Touches i ∧ log.entries[i]? = some entry) := by
  cases c with
  | append appended =>
    have hlookup : (call log (.append appended)).entries[i]? =
        (lastAt appended i).or log.entries[i]? := lookup_foldl_insert appended log.entries i
    rw [hlookup]
    cases hlast : lastAt appended i with
    | none =>
      have huntouched : ¬ (Call.append appended).Touches i := by
        rintro ⟨e, he, hi⟩
        exact (show ∀ e ∈ appended, ¬ indexOf e = i by simpa [lastAt] using hlast) e he hi
      simp [huntouched, hlast]
    | some e =>
      have htouched : (Call.append appended).Touches i := by
        refine ⟨e, ?_, indexOf_of_lastAt hlast⟩
        simpa using mem_of_find?_eq_some hlast
      simp [htouched, hlast]
  | truncate logId =>
    simp only [call, truncate, BTreeMap.lookup_removeRange,
      Range.contains_atLeast, decide_eq_true_eq, Call.Touches]
    by_cases hi : logId.index ≤ i <;> simp [hi]
  | purge logId =>
    simp only [call, purge, BTreeMap.lookup_removeRange,
      Range.contains_atMost, decide_eq_true_eq, Call.Touches]
    by_cases hi : i ≤ logId.index <;> simp [hi]
  | saveVote vote => simp [call, saveVote, Call.Touches]
  | saveCommitted committed => simp [call, saveCommitted, Call.Touches]
  | reopen => simp [call, Call.Touches]

lemma not_present_nil (entry : ε) : ¬ Present [] entry := by
  rintro ⟨before, appended, after, hcalls, -⟩
  simp at hcalls

lemma present_append_iff (c : Call ε) (entry : ε) :
    Present (calls ++ [c]) entry ↔
      (∃ appended, c = .append appended ∧ lastAt appended (indexOf entry) = some entry) ∨
        (¬ c.Touches (indexOf entry) ∧ Present calls entry) := by
  constructor
  · rintro ⟨before, appended, after, hcalls, hlast, hafter⟩
    -- the append is the last call, or the last call is one of those after it
    rcases eq_nil_or_concat after with rfl | ⟨after, d, rfl⟩
    · have hsplit : calls = before ∧ c = .append appended := by simpa using hcalls
      exact .inl ⟨appended, hsplit.2, hlast⟩
    · have hsplit : calls = before ++ .append appended :: after ∧ c = d := by
        rw [concat_eq_append, ← cons_append, ← append_assoc] at hcalls
        simpa using append_inj' hcalls rfl
      rcases hsplit with ⟨rfl, rfl⟩
      refine .inr ⟨hafter c (by simp), before, appended, after, rfl, hlast, ?_⟩
      intro d hd
      exact hafter d (by simp [hd])
  · rintro (⟨appended, rfl, hlast⟩ | ⟨huntouched, before, appended, after, rfl, hlast, hafter⟩)
    · exact ⟨calls, appended, [], rfl, hlast, by simp⟩
    · refine ⟨before, appended, after ++ [c], by simp, hlast, ?_⟩
      intro d hd
      rcases mem_append.mp hd with hmem | hmem
      · exact hafter d hmem
      · rw [mem_singleton.mp hmem]
        exact huntouched

/-! ## Runs -/

lemma run_append (c : Call ε) :
    run (calls ++ [c]) = call (run calls) c := by
  simp only [run, foldl_append, foldl_cons, foldl_nil]

/-- The log holds exactly the entries that are present after the calls. -/
lemma lookup_run (i : UInt64) (entry : ε) :
    (run calls).entries[i]? = some entry ↔
      Present calls entry ∧ indexOf entry = i := by
  induction calls using List.reverseRecOn with
  | nil => simp [run, new, not_present_nil]
  | append_singleton calls c ih =>
    rw [run_append, lookup_call, present_append_iff, ih]
    constructor
    · rintro (⟨appended, hc, hlast⟩ | ⟨huntouched, hpresent, rfl⟩)
      · have hi := indexOf_of_lastAt hlast
        subst hi
        exact ⟨.inl ⟨appended, hc, hlast⟩, rfl⟩
      · exact ⟨.inr ⟨huntouched, hpresent⟩, rfl⟩
    · rintro ⟨hpresent | ⟨huntouched, hpresent⟩, rfl⟩
      · exact .inl hpresent
      · exact .inr ⟨huntouched, hpresent, rfl⟩

lemma lastPurgedLogId_run :
    (run calls).lastPurgedLogId = lastPurge calls := by
  induction calls using List.reverseRecOn with
  | nil => rfl
  | append_singleton calls c ih =>
    rw [run_append]
    cases c <;>
      simp [call, saveVote, saveCommitted,
        append, truncate, purge, lastPurge] <;>
      exact ih

/-- The last entry of the log is the last present one. -/
lemma isLast_of_last {calls : List (Call ε)} {i : UInt64} {entry : ε}
    (h : BTreeMap.last? (run calls).entries = some (i, entry)) :
    IsLast calls entry := by
  have hentry := (lookup_run calls i entry).mp (BTreeMap.lookup_last h)
  refine ⟨hentry.1, fun other hother => ?_⟩
  have hlookup := (lookup_run calls (indexOf other) other).mpr ⟨hother, rfl⟩
  rw [hentry.2]
  exact Std.isLE_compare.mp (BTreeMap.le_last h hlookup)

lemma IsLast.eq {calls : List (Call ε)} {entry other : ε} (h : IsLast calls entry)
    (h' : IsLast calls other) : entry = other := by
  have hindex : indexOf entry = indexOf other :=
    UInt64.le_antisymm (h'.2 entry h.1) (h.2 other h'.1)
  have hentry := (lookup_run calls (indexOf other) entry).mpr ⟨h.1, hindex⟩
  rw [(lookup_run calls (indexOf other) other).mpr ⟨h'.1, rfl⟩] at hentry
  exact (Option.some.inj hentry).symm

lemma getLogState_run : getLogState (run calls) =
      .ok
        { lastPurgedLogId := lastPurge calls
          lastLogId :=
            (BTreeMap.last? (run calls).entries).map fun kv => getLogId kv.2 } := by
  rw [getLogState, lastPurgedLogId_run]

/-- The reported state meets the contract exactly if the log was not purged away. -/
lemma meetsContract_iff : LogState.MeetsContract calls
        { lastPurgedLogId := lastPurge calls
          lastLogId :=
            (BTreeMap.last? (run calls).entries).map fun kv => getLogId kv.2 } ↔
      NotPurgedAway calls := by
  cases hlast : BTreeMap.last? (run calls).entries with
  | none =>
    -- an empty log: the report is right only if nothing was purged
    have hempty : ∀ entry : ε, ¬ Present calls entry := by
      intro entry hpresent
      have hlookup := (lookup_run calls (indexOf entry) entry).mpr ⟨hpresent, rfl⟩
      rw [BTreeMap.last?_eq_none_iff.mp hlast] at hlookup
      cases hlookup
    constructor
    · intro h
      exact .inl (h.empty hempty).symm
    · rintro (hpurge | ⟨entry, hentry, -⟩)
      · refine ⟨fun entry hentry => absurd hentry.1 (hempty entry), fun _ => hpurge.symm, ?_⟩
        rw [hpurge]
        exact id
      · exact absurd hentry.1 (hempty entry)
  | some kv =>
    rcases kv with ⟨i, final⟩
    have hfinal := isLast_of_last hlast
    constructor
    · intro h
      exact .inr ⟨final, hfinal, h.not_less⟩
    · intro h
      refine ⟨fun entry hentry => ?_, fun hempty => absurd hfinal.1 (hempty final), ?_⟩
      · rw [hentry.eq hfinal]
        rfl
      · rcases h with hpurge | ⟨entry, hentry, hnot⟩
        · rw [hpurge]
          exact id
        · rw [hentry.eq hfinal] at hnot
          exact hnot

/-- After any sequence of calls both stores report a state, and it meets the contract exactly if
nothing was purged or the last present entry is not older than the last purge. -/
theorem logState_meetsContract_iff (codecs : LogCodecs ε) (calls : List (Call ε)) :
    (∃ state, getLogState (run calls) = .ok state ∧
        (state.MeetsContract calls ↔ NotPurgedAway calls)) ∧
      (∃ state, RedbLogStore.getLogState codecs (RedbLogStore.run codecs calls) = .ok state ∧
        (state.MeetsContract calls ↔ NotPurgedAway calls)) := by
  have hmem := getLogState_run calls
  have hredb := (LogDb.Holds.run codecs calls).getLogState.trans hmem
  exact ⟨⟨_, hmem, meetsContract_iff calls⟩, ⟨_, hredb, meetsContract_iff calls⟩⟩

/-! ## A log that is purged to its end -/

def firstId : LogId :=
  { leaderId := { term := 1, nodeId := 1 }
    index := 1 }

/-- One entry is appended and purged: both stores report the purge and no last id. -/
theorem purged_log_reports_no_id :
    getLogState (run [.append [firstId], .purge firstId]) =
        .ok { lastPurgedLogId := some firstId, lastLogId := none } ∧
      RedbLogStore.getLogState wireCodecs
          (RedbLogStore.run wireCodecs [.append [firstId], .purge firstId]) =
        .ok { lastPurgedLogId := some firstId, lastLogId := none } ∧
      ¬ LogState.MeetsContract [.append [firstId], .purge firstId]
        { lastPurgedLogId := some firstId, lastLogId := none } := by
  refine ⟨by decide, by decide, ?_⟩
  intro h
  exact h.not_less trivial

end ZLayer.Consensus
