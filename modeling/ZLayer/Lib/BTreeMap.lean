import ZLayer.Lib.HashMap

/-!
# BTreeMap — ranges and the last entry of an ordered map

Maps are kept in key order, so they serve as ordered maps as well.  This module adds range queries
with bounds that are included, excluded or absent, the removal of a range, and the entry with the
greatest key.
-/

namespace ZLayer.Lib

inductive Bound (α : Type)
  | included (a : α)
  | excluded (a : α)
  | unbounded
  deriving DecidableEq

structure Range (α : Type) where
  lower : Bound α
  upper : Bound α
  deriving DecidableEq

namespace Range

variable {α : Type} [LE α] [LT α] [DecidableLE α] [DecidableLT α]

def atLeast (start : α) : Range α :=
  { lower := .included start
    upper := .unbounded }

def atMost (last : α) : Range α :=
  { lower := .unbounded
    upper := .included last }

def contains (r : Range α) (a : α) : Bool :=
  (match r.lower with
    | .included lo => decide (lo ≤ a)
    | .excluded lo => decide (lo < a)
    | .unbounded => true) &&
  (match r.upper with
    | .included hi => decide (a ≤ hi)
    | .excluded hi => decide (a < hi)
    | .unbounded => true)

/-- The ranges `BTreeMap::range` accepts: the start is not greater than the end, and the bounds do
not exclude the same key. -/
def accepted (r : Range α) : Bool :=
  match r.lower, r.upper with
  | .unbounded, _ => true
  | _, .unbounded => true
  | .excluded lo, .excluded hi => decide (lo < hi)
  | .excluded lo, .included hi => decide (lo ≤ hi)
  | .included lo, .excluded hi => decide (lo ≤ hi)
  | .included lo, .included hi => decide (lo ≤ hi)

@[simp] lemma contains_atLeast (start a : α) : (atLeast start).contains a = decide (start ≤ a) := by
  simp [atLeast, contains]

@[simp] lemma contains_atMost (last a : α) : (atMost last).contains a = decide (a ≤ last) := by
  simp [atMost, contains]

end Range

namespace BTreeMap

open Std HashMap List

variable {α β γ : Type} [Ord α] [TransOrd α] [LawfulEqOrd α]

/-! ## The last entry -/

def last? (m : HashMap α β) : Option (α × β) := (entries m).getLast?

variable {m : HashMap α β} {k : α}

/-- Everything in the map comes before its last entry or is it. -/
lemma le_last {v : β} (h : last? m = some (k, v)) {a : α} {w : β} (ha : m[a]? = some w) :
    (compare a k).isLE := by
  rcases getLast?_eq_some_iff.mp h with ⟨init, hinit⟩
  have hsorted : (entries m).Pairwise fun a b => compare a.1 b.1 = .lt :=
    ExtTreeMap.ordered_keys_toList
  have hmem : (a, w) ∈ init ++ [(k, v)] := hinit ▸ (mem_entries m).mpr ha
  rw [hinit, pairwise_append] at hsorted
  rcases mem_append.mp hmem with hbefore | hlast
  · have hlt : compare a k = .lt := hsorted.2.2 (a, w) hbefore (k, v) (by simp)
    rw [hlt]
    rfl
  · have heq : a = k ∧ w = v := by simpa using hlast
    rw [heq.1, compare_self]
    rfl

lemma lookup_last {v : β} (h : last? m = some (k, v)) : m[k]? = some v :=
  (mem_entries m).mp (mem_of_getLast? h)

lemma last?_eq_none_iff : last? m = none ↔ ∀ a : α, m[a]? = none := by
  constructor
  · intro h a
    have hnil : entries m = [] := by simpa [last?] using h
    cases ha : m[a]? with
    | none => rfl
    | some w =>
      have hmem := (mem_entries m).mpr ha
      rw [hnil] at hmem
      cases hmem
  · intro h
    cases hlast : last? m with
    | none => rfl
    | some kv =>
      have hkv := lookup_last (k := kv.1) (v := kv.2) hlast
      rw [h kv.1] at hkv
      cases hkv

/-- An entry that nothing in the map comes after is the last once it is inserted. -/
lemma last?_insert [DecidableEq α] (v : β) (h : ∀ a w, m[a]? = some w → (compare a k).isLE) :
    last? (m.insert k v) = some (k, v) := by
  have hk : (m.insert k v)[k]? = some v := by rw [lookup_insert, if_pos rfl]
  cases hlast : last? (m.insert k v) with
  | none =>
    rw [last?_eq_none_iff.mp hlast k] at hk
    cases hk
  | some kv =>
    rcases kv with ⟨key, value⟩
    have hkey := lookup_last hlast
    have heq : k = key := by
      by_contra hne
      rw [lookup_insert_of_ne _ _ hne] at hkey
      have hcompare := OrientedCmp.isLE_antisymm (le_last hlast hk) (h key value hkey)
      exact hne (LawfulEqCmp.eq_of_compare hcompare)
    subst heq
    exact congrArg (fun w => some (k, w)) (Option.some.inj (hkey.symm.trans hk))

/-! ## Ranges -/

lemma lookup_foldl_erase [DecidableEq α] (keys : List α) (m : HashMap α β) (a : α) :
    (keys.foldl (fun m k => m.erase k) m)[a]? = if a ∈ keys then none else m[a]? := by
  induction keys generalizing m with
  | nil => simp
  | cons k keys ih =>
    rw [foldl_cons, ih, lookup_erase]
    by_cases hk : k = a
    · simp [hk]
    · have hk' : ¬ a = k := fun heq => hk heq.symm
      simp [hk, hk']

section Ranges

variable [LE α] [LT α] [DecidableLE α] [DecidableLT α]

def range (m : HashMap α β) (r : Range α) : List (α × β) :=
  (entries m).filter fun kv => r.contains kv.1

/-- Collect the keys of a range, then remove them one by one. -/
def removeRange (m : HashMap α β) (r : Range α) : HashMap α β :=
  ((range m r).map Prod.fst).foldl (fun m k => m.erase k) m

variable [DecidableEq α]

lemma lookup_removeRange (m : HashMap α β) (r : Range α) (a : α) :
    (removeRange m r)[a]? = if r.contains a then none else m[a]? := by
  rw [removeRange, lookup_foldl_erase]
  by_cases hr : r.contains a = true
  · rw [if_pos hr]
    by_cases hmem : a ∈ (range m r).map Prod.fst
    · rw [if_pos hmem]
    · rw [if_neg hmem]
      -- a key of the range that was not collected is not in the map
      cases ha : m[a]? with
      | none => rfl
      | some v =>
        refine absurd (mem_map.mpr ⟨(a, v), ?_, rfl⟩) hmem
        exact mem_filter.mpr ⟨(mem_entries m).mpr ha, hr⟩
  · have hmem : a ∉ (range m r).map Prod.fst := by
      intro hmem
      rcases mem_map.mp hmem with ⟨⟨k, v⟩, hkv, rfl⟩
      exact hr (mem_filter.mp hkv).2
    rw [if_neg hmem, if_neg hr]

end Ranges

/-! ## A map of images -/

section Images

variable {m : HashMap α β} {m' : HashMap α γ} {f : β → γ}

/-- A map that holds the image of every value lists the images of the entries. -/
lemma entries_eq_map (h : ∀ a : α, m'[a]? = m[a]?.map f) :
    entries m' = (entries m).map fun kv => (kv.1, f kv.2) := by
  have hmap : m' = m.map fun _ v => f v := by
    refine ExtTreeMap.ext_getElem? fun a => ?_
    rw [h a, ExtTreeMap.getElem?_map]
  rw [hmap]
  exact ExtTreeMap.toList_map

lemma last?_eq_map (h : ∀ a : α, m'[a]? = m[a]?.map f) :
    last? m' = (last? m).map fun kv => (kv.1, f kv.2) := by
  rw [last?, entries_eq_map h, getLast?_map, last?]

lemma range_eq_map [LE α] [LT α] [DecidableLE α] [DecidableLT α]
    (h : ∀ a : α, m'[a]? = m[a]?.map f) (r : Range α) :
    range m' r = (range m r).map fun kv => (kv.1, f kv.2) := by
  rw [range, entries_eq_map h, filter_map, range]
  rfl

end Images

end BTreeMap

end ZLayer.Lib
