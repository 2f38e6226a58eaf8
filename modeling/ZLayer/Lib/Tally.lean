import ZLayer.Lib.BTreeMap

/-!
# Tally — totals over a map, and how writes change them

`total w m` adds up the weights of the values of `m`.  An insert replaces the weight of its key.
When a batch with distinct keys is written over a map, the new total is the weight of the batch
plus the weight of what the batch did not touch: nothing is lost or counted twice exactly when the
untouched rest weighs nothing.
-/

namespace ZLayer.Lib
namespace HashMap

open Std List

variable {α β : Type} [Ord α] [TransOrd α] [LawfulEqOrd α] [DecidableEq α]

/-! ## Totals -/

variable (w : β → ℕ)

def total (m : HashMap α β) : ℕ :=
  ((entries m).map fun kv => w kv.2).sum

variable (m : HashMap α β)

omit [LawfulEqOrd α] [DecidableEq α] in
lemma entries_nodup : (entries m).Nodup :=
  (entries_keys_nodup m).of_map Prod.fst

lemma entries_insert_perm (k : α) (v : β) :
    (entries (m.insert k v)).Perm ((k, v) :: entries (m.erase k)) := by
  have hfresh : (k, v) ∉ entries (m.erase k) := by
    intro hmem
    rw [mem_entries, lookup_erase, if_pos rfl] at hmem
    cases hmem
  refine (perm_ext_iff_of_nodup (entries_nodup _)
    (nodup_cons.mpr ⟨hfresh, entries_nodup _⟩)).mpr ?_
  rintro ⟨a, u⟩
  rw [mem_cons, mem_entries, mem_entries, lookup_insert, lookup_erase]
  by_cases hka : k = a
  · simp [hka, eq_comm]
  · have hak : ¬ a = k := fun heq => hka heq.symm
    simp [hka, hak]

omit [LawfulEqOrd α] [DecidableEq α] in
@[simp] lemma total_empty : total w (∅ : HashMap α β) = 0 := rfl

lemma total_insert (m : HashMap α β) (k : α) (v : β) :
    total w (m.insert k v) = w v + total w (m.erase k) := by
  have hperm := (entries_insert_perm m k v).map fun kv => w kv.2
  simpa [total] using hperm.sum_eq

lemma total_erase_of_none {m : HashMap α β} {k : α} (h : m[k]? = none) :
    total w (m.erase k) = total w m := by
  have heq : m.erase k = m := by
    refine ExtTreeMap.ext_getElem? fun a => ?_
    rw [lookup_erase]
    by_cases hka : k = a
    · rw [if_pos hka, ← hka, h]
    · rw [if_neg hka]
  rw [heq]

lemma total_erase_of_some {m : HashMap α β} {k : α} {v : β} (h : m[k]? = some v) :
    w v + total w (m.erase k) = total w m := by
  have heq : m.insert k v = m := by
    refine ExtTreeMap.ext_getElem? fun a => ?_
    rw [lookup_insert]
    by_cases hka : k = a
    · rw [if_pos hka, ← hka, h]
    · rw [if_neg hka]
  rw [← total_insert, heq]

omit [DecidableEq α] in
lemma total_eq_zero_iff (m : HashMap α β) :
    total w m = 0 ↔ ∀ (k : α) (v : β), m[k]? = some v → w v = 0 := by
  rw [total, sum_eq_zero_iff]
  constructor
  · intro h k v hkv
    exact h _ (mem_map.mpr ⟨(k, v), (mem_entries m).mpr hkv, rfl⟩)
  · intro h n hn
    rcases mem_map.mp hn with ⟨⟨k, v⟩, hkv, rfl⟩
    exact h k v ((mem_entries m).mp hkv)

/-! ## Writing a batch -/

/-- Write the listed entries one after the other. -/
def overwrite (batch : List (α × β)) : HashMap α β :=
  batch.foldl (fun m kv => m.insert kv.1 kv.2) m

/-- What a batch leaves untouched. -/
def untouched (keys : List α) : HashMap α β :=
  keys.foldl (fun m k => m.erase k) m

lemma lookup_untouched (keys : List α) (a : α) :
    (untouched m keys)[a]? = if a ∈ keys then none else m[a]? :=
  BTreeMap.lookup_foldl_erase keys m a

lemma untouched_insert {keys : List α} {k : α} (v : β) (h : k ∉ keys) :
    untouched (m.insert k v) keys = (untouched m keys).insert k v := by
  refine ExtTreeMap.ext_getElem? fun a => ?_
  rw [lookup_untouched, lookup_insert, lookup_insert, lookup_untouched]
  by_cases hka : k = a
  · subst hka
    rw [if_neg h, if_pos rfl, if_pos rfl]
  · rw [if_neg hka, if_neg hka]

lemma untouched_erase (keys : List α) (k : α) :
    (untouched m keys).erase k = untouched m (k :: keys) := by
  refine ExtTreeMap.ext_getElem? fun a => ?_
  rw [lookup_erase, lookup_untouched, lookup_untouched]
  by_cases hka : k = a
  · simp [hka]
  · have hak : ¬ a = k := fun heq => hka heq.symm
    simp [hka, hak]

lemma total_overwrite (m : HashMap α β) (batch : List (α × β)) (h : (batch.map Prod.fst).Nodup) :
    total w (overwrite m batch) =
      (batch.map fun kv => w kv.2).sum + total w (untouched m (batch.map Prod.fst)) := by
  induction batch generalizing m with
  | nil => simp [overwrite, untouched]
  | cons kv batch ih =>
    rcases kv with ⟨k, v⟩
    rcases nodup_cons.mp h with ⟨hk, hbatch⟩
    calc
      total w (overwrite m ((k, v) :: batch))
          = total w (overwrite (m.insert k v) batch) := rfl
      _ = (batch.map fun kv => w kv.2).sum +
            total w (untouched (m.insert k v) (batch.map Prod.fst)) := ih _ hbatch
      _ = (batch.map fun kv => w kv.2).sum +
            (w v + total w (untouched m (k :: batch.map Prod.fst))) := by
            rw [untouched_insert m v hk, total_insert, untouched_erase]
      _ = (((k, v) :: batch).map fun kv => w kv.2).sum +
            total w (untouched m (((k, v) :: batch).map Prod.fst)) := by
            simp only [map_cons, sum_cons]
            omega

/-! ## Grouping -/

variable (l : List (α × β))

def group : HashMap α (List β) :=
  l.foldl (fun m kv => m.insert kv.1 (m[kv.1]?.getD [] ++ [kv.2])) ∅

omit [LawfulEqOrd α] [DecidableEq α] in
lemma group_append_singleton (k : α) (v : β) :
    group (l ++ [(k, v)]) = (group l).insert k ((group l)[k]?.getD [] ++ [v]) := by
  simp [group]

lemma total_group : total length (group l) = l.length := by
  induction l using reverseRecOn with
  | nil => exact total_empty length
  | append_singleton l kv ih =>
    rcases kv with ⟨k, v⟩
    rw [group_append_singleton, total_insert]
    -- The group of `k` grows by one and all other groups stay.
    cases hk : (group l)[k]? with
    | none =>
      rw [total_erase_of_none _ hk, ih]
      simp
      omega
    | some vs =>
      have hold := total_erase_of_some length hk
      simp only [Option.getD_some, length_append, length_singleton]
      omega

lemma getD_lookup_group (a : α) :
    (group l)[a]?.getD [] = (l.filter fun kv => kv.1 = a).map Prod.snd := by
  induction l using reverseRecOn with
  | nil => simp [group]
  | append_singleton l kv ih =>
    rcases kv with ⟨k, v⟩
    rw [group_append_singleton, lookup_insert, filter_append, map_append, ← ih]
    by_cases hk : k = a
    · subst hk
      simp
    · simp [hk]

omit [DecidableEq α] in
lemma mem_group_iff (a : α) : a ∈ group l ↔ ∃ v, (a, v) ∈ l := by
  induction l using reverseRecOn with
  | nil => simp [group]
  | append_singleton l kv ih =>
    rcases kv with ⟨k, v⟩
    rw [group_append_singleton, ExtTreeMap.mem_insert, ih]
    simp only [Std.compare_eq_iff_eq, mem_append, mem_singleton, Prod.mk.injEq]
    constructor
    · rintro (rfl | ⟨u, hu⟩)
      · exact ⟨v, .inr ⟨rfl, rfl⟩⟩
      · exact ⟨u, .inl hu⟩
    · rintro ⟨u, hu | ⟨rfl, rfl⟩⟩
      · exact .inr ⟨u, hu⟩
      · exact .inl rfl

end HashMap
end ZLayer.Lib
