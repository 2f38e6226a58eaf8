import ZLayer.Lib.HashMap

/-!
# InverseIndex — a map kept as the inverse of a relation

A collection often keeps a second map beside it, which finds the owner of a key: the tunnel of a
token, the service of a port.  `Indexes m R` says that the map `m` is exactly the inverse of the
relation `R` between owners and keys.  Such a relation gives a key to one owner only.
-/

namespace ZLayer.Lib

variable {κ ο : Type} [Ord κ] [Std.TransOrd κ] [Std.LawfulEqOrd κ] [DecidableEq κ]

/-- The map finds the owner of every key that has one, and nothing else. -/
def Indexes (m : HashMap κ ο) (R : ο → κ → Prop) : Prop :=
  ∀ k o, m[k]? = some o ↔ R o k

namespace Indexes

variable {m : HashMap κ ο} {R S : ο → κ → Prop}

omit [Std.LawfulEqOrd κ] [DecidableEq κ] in
lemma empty (h : ∀ o k, ¬ R o k) : Indexes (∅ : HashMap κ ο) R := by
  intro k o
  rw [Std.ExtTreeMap.getElem?_empty]
  exact iff_of_false nofun (h o k)

omit [Std.LawfulEqOrd κ] [DecidableEq κ] in
lemma congr (h : Indexes m R) (hRS : ∀ o k, R o k ↔ S o k) : Indexes m S :=
  fun k o => (h k o).trans (hRS o k)

omit [Std.LawfulEqOrd κ] [DecidableEq κ] in
lemma unique (h : Indexes m R) {k : κ} {o o' : ο} (ho : R o k) (ho' : R o' k) : o = o' := by
  have hsome := ((h k o).mpr ho).symm.trans ((h k o').mpr ho')
  exact Option.some.inj hsome

omit [Std.LawfulEqOrd κ] [DecidableEq κ] in
lemma mem_iff (h : Indexes m R) (k : κ) : k ∈ m ↔ ∃ o, R o k := by
  rw [Std.ExtTreeMap.mem_iff_isSome_getElem?, Option.isSome_iff_exists]
  exact exists_congr fun o => h k o

lemma insert (h : Indexes m R) {k : κ} (hfree : k ∉ m) (o : ο) :
    Indexes (m.insert k o) fun o' k' => R o' k' ∨ (o' = o ∧ k' = k) := by
  intro k' o'
  rw [HashMap.lookup_insert]
  by_cases hk : k = k'
  · subst hk
    have hnone : ¬ R o' k := fun hR => hfree ((h.mem_iff k).mpr ⟨o', hR⟩)
    simp [hnone, eq_comm]
  · simp [hk, h k' o', Ne.symm hk]

lemma erase (h : Indexes m R) (k : κ) : Indexes (m.erase k) fun o' k' => R o' k' ∧ k' ≠ k := by
  intro k' o'
  rw [HashMap.lookup_erase]
  by_cases hk : k = k'
  · simp [hk]
  · simp [hk, h k' o', Ne.symm hk]

end Indexes

end ZLayer.Lib
