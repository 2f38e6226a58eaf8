import ZLayer.Lib.HashMap

/-!
# SlotTable — keys that hold slots, found by linear probing

A table maps keys to the values of numbered slots.  A key without a value gets the first free slot
from its hash on, going round once.  `Sound` says that every key holds a slot and no two keys hold
the same one; assigning and releasing keep it, and an assignment fails exactly when the other keys
hold every slot.
-/

namespace ZLayer.Lib

open HashMap

namespace SlotTable

variable {κ β : Type} [Ord κ] [Std.TransOrd κ] [DecidableEq β]

/-- The probing loop from its `i`-th iteration on, with `remaining` iterations left. -/
def probe (slot : UInt64 → β) (slots : UInt64) (taken : List β) (start i : UInt64) : Nat → Option β
  | 0 => none
  | remaining + 1 =>
    let value := slot ((start + i) % slots)
    if value ∈ taken then probe slot slots taken start (i + 1) remaining else some value

def values (table : HashMap κ β) : List β :=
  (entries table).map Prod.snd

/-- The table with a value for `key`, and that value. -/
def assign (slot : UInt64 → β) (slots : UInt64) (hash : κ → UInt64) (table : HashMap κ β)
    (key : κ) : Option (HashMap κ β × β) :=
  match table[key]? with
  | some value => some (table, value)
  | none =>
    if slots = 0 then
      none
    else
      (probe slot slots (values table) (hash key % slots) 0 slots.toNat).map fun value =>
        (table.insert key value, value)

variable {slot : UInt64 → β} {slots : UInt64} {taken : List β} {start : UInt64}

/-! ## Probing -/

/-- What the loop finds is free, and it is the value of a slot. -/
lemma probe_eq_some (hslots : slots ≠ 0) {i : UInt64} {remaining : Nat} {value : β}
    (h : probe slot slots taken start i remaining = some value) :
    value ∉ taken ∧ ∃ idx < slots, value = slot idx := by
  induction remaining generalizing i with
  | zero => cases h
  | succ remaining ih =>
    simp only [probe] at h
    split at h
    · exact ih h
    next hfree =>
      cases h
      refine ⟨hfree, (start + i) % slots, ?_, rfl⟩
      rw [UInt64.lt_iff_toNat_lt, UInt64.toNat_mod]
      exact Nat.mod_lt _ (Nat.pos_of_ne_zero fun hzero => hslots (UInt64.toNat_inj.mp hzero))

lemma probe_eq_none_iff (i : UInt64) (remaining : Nat) :
    probe slot slots taken start i remaining = none ↔
      ∀ k < remaining, slot ((start + (i + UInt64.ofNat k)) % slots) ∈ taken := by
  induction remaining generalizing i with
  | zero => simp [probe]
  | succ remaining ih =>
    have hnext : ∀ k : Nat, i + UInt64.ofNat (k + 1) = i + 1 + UInt64.ofNat k := by
      intro k
      rw [UInt64.ofNat_add, UInt64.add_comm (UInt64.ofNat k), ← UInt64.add_assoc]
      rfl
    have hfirst : i + UInt64.ofNat 0 = i := UInt64.add_zero i
    simp only [Nat.forall_lt_succ_left, hfirst, hnext, ← ih, probe]
    by_cases htaken : slot ((start + i) % slots) ∈ taken <;> simp [htaken]

/-- The slot of iteration `k`, as long as `start + k` fits in a word. -/
lemma toNat_visit {k : Nat} (hfit : start.toNat + k < 2 ^ 64) (slots : UInt64) :
    ((start + (0 + UInt64.ofNat k)) % slots).toNat = (start.toNat + k) % slots.toNat := by
  have hword : (UInt64.ofNat k).toNat = k :=
    UInt64.toNat_ofNat_of_lt' (lt_of_le_of_lt (Nat.le_add_left k _) hfit)
  rw [UInt64.zero_add, UInt64.toNat_mod, UInt64.toNat_add, hword, Nat.mod_eq_of_lt hfit]

lemma visit_eq {k : Nat} {idx : UInt64} (hfit : start.toNat + k < 2 ^ 64)
    (hidx : idx.toNat < slots.toNat)
    (hsum : start.toNat + k = idx.toNat ∨ start.toNat + k = idx.toNat + slots.toNat) :
    (start + (0 + UInt64.ofNat k)) % slots = idx := by
  rw [← UInt64.toNat_inj, toNat_visit hfit]
  rcases hsum with hsum | hsum
  · rw [hsum, Nat.mod_eq_of_lt hidx]
  · rw [hsum, Nat.add_mod_right, Nat.mod_eq_of_lt hidx]

variable {table table' : HashMap κ β} {key : κ} {value : β} {hash : κ → UInt64}

/-- A key gets what it holds, or the value of a free slot. -/
lemma assign_eq_some (h : assign slot slots hash table key = some (table', value)) :
    table[key]? = some value ∧ table' = table ∨
      value ∉ values table ∧ (∃ idx < slots, value = slot idx) ∧
        table' = table.insert key value := by
  unfold assign at h
  split at h
  next hheld =>
    cases h
    exact .inl ⟨hheld, rfl⟩
  next =>
    split at h
    · cases h
    next hslots =>
      rcases Option.map_eq_some_iff.mp h with ⟨found, hprobe, heq⟩
      cases heq
      rcases probe_eq_some hslots hprobe with ⟨hfree, hslot⟩
      exact .inr ⟨hfree, hslot, rfl⟩

omit [DecidableEq β] in
lemma mem_values [Std.LawfulEqOrd κ] (table : HashMap κ β) {value : β} :
    value ∈ values table ↔ ∃ key : κ, table[key]? = some value := by
  simp only [values, List.mem_map, Prod.exists, exists_eq_right, mem_entries]

/-! ## Sound tables -/

/-- Every key holds the value of a slot, and no two keys hold the same one. -/
structure Sound (slot : UInt64 → β) (slots : UInt64) (table : HashMap κ β) : Prop where
  slot : ∀ (key : κ) (value : β), table[key]? = some value → ∃ idx < slots, value = slot idx
  injective : ∀ (key other : κ) (value : β), table[key]? = some value →
    table[other]? = some value → key = other

variable [Std.LawfulEqOrd κ]

omit [DecidableEq β] in
lemma Sound.erase (h : Sound slot slots table) (key : κ) :
    Sound slot slots (table.erase key) := by
  have hold : ∀ (other : κ) (value : β), (table.erase key)[other]? = some value →
      table[other]? = some value :=
    fun _ _ hother => (of_lookup_erase hother).2
  exact ⟨fun other value hother => h.slot other value (hold other value hother),
    fun k l value hk hl => h.injective k l value (hold k value hk) (hold l value hl)⟩

omit [DecidableEq β] in
lemma Sound.insert (h : Sound slot slots table) {idx : UInt64} (hidx : idx < slots)
    (hfree : slot idx ∉ values table) (key : κ) :
    Sound slot slots (table.insert key (slot idx)) := by
  have hfree' : ∀ other : κ, table[other]? ≠ some (slot idx) := fun other hother =>
    hfree ((mem_values table).mpr ⟨other, hother⟩)
  constructor
  · intro other value hother
    rcases of_lookup_insert hother with ⟨-, rfl⟩ | ⟨-, hold⟩
    · exact ⟨idx, hidx, rfl⟩
    · exact h.slot other value hold
  · intro k l value hk hl
    -- the key and another one: the other one does not hold the slot, which was free
    rcases of_lookup_insert hk with ⟨rfl, rfl⟩ | ⟨-, hk⟩ <;>
      rcases of_lookup_insert hl with ⟨rfl, hvalue⟩ | ⟨-, hl⟩
    · rfl
    · exact absurd hl (hfree' l)
    · exact absurd (hvalue ▸ hk) (hfree' k)
    · exact h.injective k l value hk hl

lemma Sound.assign [DecidableEq κ] (h : Sound slot slots table)
    (hassign : assign slot slots hash table key = some (table', value)) :
    Sound slot slots table' ∧ table'[key]? = some value := by
  rcases assign_eq_some hassign with ⟨hheld, rfl⟩ | ⟨hfree, ⟨idx, hidx, rfl⟩, rfl⟩
  · exact ⟨h, hheld⟩
  · exact ⟨h.insert hidx hfree key, by rw [lookup_insert, if_pos rfl]⟩

end SlotTable
end ZLayer.Lib
