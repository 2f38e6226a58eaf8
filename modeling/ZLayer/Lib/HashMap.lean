import Mathlib

/-!
# HashMap — finite maps with extensional equality

A keyed collection of the source (`HashMap`, `BTreeMap`, a table of an embedded database) is
observed through lookups only, and two of them are equal when they answer every lookup alike.
`Std.ExtTreeMap` is that type: equality is extensional and every operation computes.

Iteration order is the order of the keys.  Where the source iterates over a hash map and the order
could matter, a model quantifies over the permutations of `entries`.

The lemmas restate the lookup laws with `k = a` in place of `compare k a = .eq`, which is the form
the case splits of the models produce.
-/

namespace ZLayer.Lib

/-- Pairs as keys are compared lexicographically. -/
instance instOrdPair {α β : Type} [Ord α] [Ord β] : Ord (α × β) := lexOrd

instance instTransOrdPair {α β : Type} [Ord α] [Ord β] [Std.TransOrd α] [Std.TransOrd β] :
    Std.TransOrd (α × β) :=
  inferInstanceAs (Std.TransCmp (compareLex (compareOn Prod.fst) (compareOn Prod.snd)))

instance instLawfulEqOrdPair {α β : Type} [Ord α] [Ord β] [Std.LawfulEqOrd α]
    [Std.LawfulEqOrd β] : Std.LawfulEqOrd (α × β) where
  eq_of_compare {a b} h := by
    obtain ⟨hfst, hsnd⟩ := Ordering.then_eq_eq.mp h
    exact Prod.ext (Std.LawfulEqOrd.eq_of_compare hfst) (Std.LawfulEqOrd.eq_of_compare hsnd)

/-- One instance for all modules with keys of 128 bits. -/
instance instTransOrdBitVec128 : Std.TransOrd (BitVec 128) := inferInstance

abbrev HashMap (α β : Type) [Ord α] := Std.ExtTreeMap α β compare

namespace HashMap

open Std List

variable {α β : Type} [Ord α] [TransOrd α] [LawfulEqOrd α]

/-! ## Lookups -/

section Lookups

variable [DecidableEq α]

lemma lookup_insert (m : HashMap α β) (k a : α) (v : β) :
    (m.insert k v)[a]? = if k = a then some v else m[a]? := by
  simp only [ExtTreeMap.getElem?_insert, Std.compare_eq_iff_eq]

lemma lookup_insert_of_ne (m : HashMap α β) {k a : α} (v : β) (h : k ≠ a) :
    (m.insert k v)[a]? = m[a]? := by
  rw [lookup_insert, if_neg h]

lemma lookup_erase (m : HashMap α β) (k a : α) :
    (m.erase k)[a]? = if k = a then none else m[a]? := by
  simp only [ExtTreeMap.getElem?_erase, Std.compare_eq_iff_eq]

lemma lookup_erase_of_ne (m : HashMap α β) {k a : α} (h : k ≠ a) : (m.erase k)[a]? = m[a]? := by
  rw [lookup_erase, if_neg h]

lemma lookup_modify (m : HashMap α β) (k a : α) (f : β → β) :
    (m.modify k f)[a]? = if k = a then m[a]?.map f else m[a]? := by
  rw [ExtTreeMap.getElem?_modify]
  by_cases h : k = a
  · subst h
    simp
  · simp [h]

end Lookups

section Inversion

variable {m : HashMap α β} {k a : α} {v w : β} {f : β → β}

lemma of_lookup_insert (h : (m.insert k v)[a]? = some w) :
    k = a ∧ v = w ∨ k ≠ a ∧ m[a]? = some w := by
  classical
  rw [lookup_insert] at h
  split at h
  next heq => exact .inl ⟨heq, Option.some.inj h⟩
  next hne => exact .inr ⟨hne, h⟩

lemma of_lookup_erase (h : (m.erase k)[a]? = some w) : k ≠ a ∧ m[a]? = some w := by
  classical
  rw [lookup_erase] at h
  split at h
  next => cases h
  next hne => exact ⟨hne, h⟩

lemma of_lookup_modify (h : (m.modify k f)[a]? = some w) :
    (k = a ∧ ∃ u, m[a]? = some u ∧ f u = w) ∨ k ≠ a ∧ m[a]? = some w := by
  classical
  rw [lookup_modify] at h
  split at h
  next heq => exact .inl ⟨heq, Option.map_eq_some_iff.mp h⟩
  next hne => exact .inr ⟨hne, h⟩

end Inversion

omit [LawfulEqOrd α] in
lemma mem_iff_exists_lookup {m : HashMap α β} {k : α} : k ∈ m ↔ ∃ v, m[k]? = some v := by
  rw [ExtTreeMap.mem_iff_isSome_getElem?, Option.isSome_iff_exists]

lemma lookup_filter (m : HashMap α β) (p : α → β → Bool) (a : α) :
    (ExtTreeMap.filter p m)[a]? = m[a]?.filter (p a) :=
  ExtTreeMap.getElem?_filter'

lemma exists_lookup_of_ne_empty {m : HashMap α β} (h : m ≠ ∅) :
    ∃ (a : α) (v : β), m[a]? = some v := by
  by_contra hnone
  refine h (ExtTreeMap.ext_getElem? fun a => ?_)
  rw [ExtTreeMap.getElem?_empty]
  cases hv : m[a]? with
  | none => rfl
  | some v => exact absurd ⟨a, v, hv⟩ hnone

/-! ## Entries -/

abbrev entries (m : HashMap α β) : List (α × β) := ExtTreeMap.toList m

lemma mem_entries (m : HashMap α β) {k : α} {v : β} : (k, v) ∈ entries m ↔ m[k]? = some v :=
  ExtTreeMap.mem_toList_iff_getElem?_eq_some

lemma mem_keys (m : HashMap α β) {k : α} : k ∈ (entries m).map Prod.fst ↔ k ∈ m := by
  rw [entries, ExtTreeMap.map_fst_toList_eq_keys, ExtTreeMap.mem_keys]

omit [LawfulEqOrd α] in
lemma entries_keys_nodup (m : HashMap α β) : ((entries m).map Prod.fst).Nodup := by
  rw [entries, ExtTreeMap.map_fst_toList_eq_keys]
  exact ExtTreeMap.nodup_keys

/-! ## Building a map by iterating over another -/

section Collect

variable {γ : Type}

/-- Insert `f k v` for every listed entry `(k, v)` on which it is defined. -/
def collectInto (f : α → β → Option γ) : List (α × β) → HashMap α γ → HashMap α γ
  | [], acc => acc
  | (k, v) :: rest, acc =>
    match f k v with
    | some w => collectInto f rest (acc.insert k w)
    | none => collectInto f rest acc

def collect (f : α → β → Option γ) (m : HashMap α β) : HashMap α γ :=
  collectInto f (entries m) ∅

variable [DecidableEq α]

lemma lookup_collectInto_of_not_mem (f : α → β → Option γ) (l : List (α × β)) {a : α}
    (h : a ∉ l.map Prod.fst) (acc : HashMap α γ) : (collectInto f l acc)[a]? = acc[a]? := by
  induction l generalizing acc with
  | nil => rfl
  | cons kv rest ih =>
    rcases kv with ⟨k, v⟩
    have hne : k ≠ a := fun heq => h (by simp [heq])
    have hrest : a ∉ rest.map Prod.fst := fun hmem => h (by simp [hmem])
    cases hf : f k v with
    | none => simp only [collectInto, hf, ih hrest]
    | some w => simp only [collectInto, hf, ih hrest, lookup_insert_of_ne _ _ hne]

lemma lookup_collectInto_of_mem (f : α → β → Option γ) (l : List (α × β))
    (hnodup : (l.map Prod.fst).Nodup) {a : α} {v : β} (h : (a, v) ∈ l) (acc : HashMap α γ)
    (hacc : acc[a]? = none) : (collectInto f l acc)[a]? = f a v := by
  induction l generalizing acc with
  | nil => simp at h
  | cons kv rest ih =>
    rcases kv with ⟨k, u⟩
    rcases nodup_cons.mp hnodup with ⟨hk, hrest⟩
    rcases mem_cons.mp h with hhead | htail
    · have hku : a = k ∧ v = u := by simpa using hhead
      rcases hku with ⟨rfl, rfl⟩
      cases hf : f a v with
      | none => simp only [collectInto, hf, lookup_collectInto_of_not_mem f rest hk, hacc]
      | some w =>
        simp only [collectInto, hf, lookup_collectInto_of_not_mem f rest hk, lookup_insert,
          if_pos]
    · have hne : k ≠ a := by
        rintro rfl
        exact hk (mem_map.mpr ⟨_, htail, rfl⟩)
      cases hf : f k u with
      | none => simpa only [collectInto, hf] using ih hrest htail acc hacc
      | some w =>
        have hacc' : (acc.insert k w)[a]? = none := by
          rw [lookup_insert_of_ne _ _ hne, hacc]
        simpa only [collectInto, hf] using ih hrest htail _ hacc'

end Collect

/-- An order in which a hash map may be iterated. -/
structure IterOrder (α β : Type) [Ord α] [TransOrd α] where
  list : HashMap α β → List (α × β)
  perm : ∀ m, (list m).Perm (entries m)

def IterOrder.byKey : IterOrder α β :=
  { list := entries
    perm := fun _ => .refl _ }

lemma IterOrder.mem_list (order : IterOrder α β) (m : HashMap α β) {k : α} {v : β} :
    (k, v) ∈ order.list m ↔ m[k]? = some v := by
  rw [(order.perm m).mem_iff, mem_entries]

lemma IterOrder.mem_keys (order : IterOrder α β) (m : HashMap α β) {k : α} :
    k ∈ (order.list m).map Prod.fst ↔ k ∈ m := by
  rw [((order.perm m).map Prod.fst).mem_iff, HashMap.mem_keys]

omit [LawfulEqOrd α] in
lemma IterOrder.keys_nodup (order : IterOrder α β) (m : HashMap α β) :
    ((order.list m).map Prod.fst).Nodup :=
  ((order.perm m).map Prod.fst).nodup_iff.mpr (entries_keys_nodup m)

/-- What a map collects from another does not depend on the order. -/
lemma lookup_collectInto_list {γ : Type} [DecidableEq α] (f : α → β → Option γ)
    (order : IterOrder α β) (m : HashMap α β) (a : α) :
    (collectInto f (order.list m) ∅)[a]? = m[a]?.bind (f a) := by
  cases ha : m[a]? with
  | none =>
    have hnot : a ∉ (order.list m).map Prod.fst := by
      simp [order.mem_keys, mem_iff_exists_lookup, ha]
    rw [lookup_collectInto_of_not_mem f _ hnot]
    simp
  | some v =>
    exact lookup_collectInto_of_mem f _ (order.keys_nodup m) ((order.mem_list m).mpr ha) ∅
      (by simp)

lemma lookup_collect {γ : Type} [DecidableEq α] (f : α → β → Option γ) (m : HashMap α β)
    (a : α) : (collect f m)[a]? = m[a]?.bind (f a) :=
  lookup_collectInto_list f .byKey m a

lemma IterOrder.filter_key [DecidableEq α] (order : IterOrder α β) (m : HashMap α β) (k : α) :
    (order.list m).filter (fun kv => kv.1 = k) = m[k]?.toList.map fun v => (k, v) := by
  have hlist : ∀ l : List (α × β), (l.map Prod.fst).Nodup → ∀ o : Option β,
      (∀ v, (k, v) ∈ l ↔ o = some v) →
        l.filter (fun kv => kv.1 = k) = o.toList.map fun v => (k, v) := by
    intro l
    induction l with
    | nil =>
      intro _ o ho
      cases o with
      | none => rfl
      | some v => exact absurd ((ho v).mpr rfl) not_mem_nil
    | cons kv rest ih =>
      rcases kv with ⟨a, u⟩
      intro hnodup o ho
      obtain ⟨hnew, hrest⟩ := nodup_cons.mp hnodup
      by_cases ha : a = k
      · subst ha
        -- The key does not occur again.
        have hnone : rest.filter (fun kv => kv.1 = a) = [] := by
          refine filter_eq_nil_iff.mpr ?_
          rintro ⟨b, w⟩ hb hba
          have hba' : b = a := by simpa using hba
          exact hnew (mem_map.mpr ⟨(b, w), hb, hba'⟩)
        rw [(ho u).mp mem_cons_self, filter_cons_of_pos (by simp), hnone]
        rfl
      · rw [filter_cons_of_neg (by simpa using ha)]
        refine ih hrest o fun v => ?_
        rw [← ho v, mem_cons, Prod.mk.injEq]
        constructor
        · exact .inr
        · rintro (⟨hk, -⟩ | hmem)
          · exact absurd hk.symm ha
          · exact hmem
  exact hlist _ (order.keys_nodup m) _ fun v => order.mem_list m

/-! ## A map from a list of entries -/

section OfEntries

def ofEntries (l : List (α × β)) : HashMap α β :=
  collectInto (fun _ v => some v) l ∅

lemma mem_of_lookup_collectInto (l : List (α × β)) (acc : HashMap α β) {a : α} {v : β}
    (h : (collectInto (fun _ v => some v) l acc)[a]? = some v) :
    (a, v) ∈ l ∨ acc[a]? = some v := by
  induction l generalizing acc with
  | nil => exact .inr h
  | cons kv rest ih =>
    rcases kv with ⟨k, u⟩
    rcases ih (acc.insert k u) h with htail | hacc
    · exact .inl (by simp [htail])
    · rcases of_lookup_insert hacc with ⟨rfl, rfl⟩ | ⟨-, hold⟩
      · exact .inl mem_cons_self
      · exact .inr hold

lemma mem_of_lookup_ofEntries {l : List (α × β)} {a : α} {v : β}
    (h : (ofEntries l)[a]? = some v) : (a, v) ∈ l := by
  rcases mem_of_lookup_collectInto l ∅ h with hmem | hempty
  · exact hmem
  · simp at hempty

/-- A map is rebuilt from its entries in any order. -/
lemma ofEntries_list [DecidableEq α] (order : IterOrder α β) (m : HashMap α β) :
    ofEntries (order.list m) = m := by
  refine ExtTreeMap.ext_getElem? fun a => ?_
  rw [ofEntries, lookup_collectInto_list]
  cases m[a]? <;> rfl

end OfEntries

/-! ## Maps related entry by entry -/

lemma optionRel_map {γ β' γ' : Type} {R : β → γ → Prop} {S : β' → γ' → Prop} {f : β → β'}
    {g : γ → γ'} (hRS : ∀ v w, R v w → S (f v) (g w)) {o₁ : Option β} {o₂ : Option γ}
    (h : Option.Rel R o₁ o₂) : Option.Rel S (o₁.map f) (o₂.map g) := by
  cases h with
  | none => exact .none
  | some hR => exact .some (hRS _ _ hR)

lemma optionRel_mono {R S : β → β → Prop} (hRS : ∀ v w, R v w → S v w)
    {o₁ o₂ : Option β} (h : Option.Rel R o₁ o₂) : Option.Rel S o₁ o₂ := by
  cases h with
  | none => exact .none
  | some hR => exact .some (hRS _ _ hR)

lemma eq_of_optionRel_eq {o₁ o₂ : Option β} (h : Option.Rel Eq o₁ o₂) : o₁ = o₂ := by
  cases h with
  | none => rfl
  | some heq => rw [heq]

lemma isSome_eq_of_optionRel {R : β → β → Prop} {o₁ o₂ : Option β} (h : Option.Rel R o₁ o₂) :
    o₁.isSome = o₂.isSome := by
  cases h <;> rfl

/-- Both maps have the same keys, and the two values of a key `k` are related by `R k`. -/
def Related (R : α → β → β → Prop) (m₁ m₂ : HashMap α β) : Prop :=
  ∀ k, Option.Rel (R k) m₁[k]? m₂[k]?

namespace Related

variable {R S : α → β → β → Prop} {m₁ m₂ : HashMap α β}

omit [LawfulEqOrd α] in
lemma refl (hR : ∀ k v, R k v v) (m : HashMap α β) : Related R m m := by
  intro k
  cases m[k]? with
  | none => exact .none
  | some v => exact .some (hR k v)

lemma eq_of_related (hR : ∀ k v w, R k v w → v = w) (h : Related R m₁ m₂) : m₁ = m₂ := by
  refine ExtTreeMap.ext_getElem? fun k => ?_
  have hk : Option.Rel Eq m₁[k]? m₂[k]? := optionRel_mono (hR k) (h k)
  exact eq_of_optionRel_eq hk

omit [LawfulEqOrd α] in
lemma mem_iff (h : Related R m₁ m₂) (k : α) : k ∈ m₁ ↔ k ∈ m₂ := by
  simp only [ExtTreeMap.mem_iff_isSome_getElem?]
  rw [isSome_eq_of_optionRel (h k)]

omit [LawfulEqOrd α] in
lemma mono (h : Related R m₁ m₂) (hRS : ∀ a v w, R a v w → S a v w) : Related S m₁ m₂ :=
  fun a => optionRel_mono (hRS a) (h a)

section Updates

variable [DecidableEq α]

lemma insert (h : Related R m₁ m₂) (k : α) {v w : β} (hRS : ∀ a v w, k ≠ a → R a v w → S a v w)
    (hvw : S k v w) : Related S (m₁.insert k v) (m₂.insert k w) := by
  intro a
  rw [lookup_insert, lookup_insert]
  by_cases hka : k = a
  · subst hka
    simpa using hvw
  · simp only [if_neg hka]
    exact optionRel_mono (fun v w => hRS a v w hka) (h a)

lemma erase (h : Related R m₁ m₂) (k : α) (hRS : ∀ a v w, k ≠ a → R a v w → S a v w) :
    Related S (m₁.erase k) (m₂.erase k) := by
  intro a
  rw [lookup_erase, lookup_erase]
  by_cases hka : k = a
  · simp only [if_pos hka]
    exact .none
  · simp only [if_neg hka]
    exact optionRel_mono (fun v w => hRS a v w hka) (h a)

lemma modify (h : Related R m₁ m₂) (k : α) {f g : β → β}
    (hRS : ∀ a v w, k ≠ a → R a v w → S a v w) (hfg : ∀ v w, R k v w → S k (f v) (g w)) :
    Related S (m₁.modify k f) (m₂.modify k g) := by
  intro a
  rw [lookup_modify, lookup_modify]
  by_cases hka : k = a
  · subst hka
    simp only [if_pos]
    exact optionRel_map hfg (h k)
  · simp only [if_neg hka]
    exact optionRel_mono (fun v w => hRS a v w hka) (h a)

end Updates

end Related

end HashMap

end ZLayer.Lib
