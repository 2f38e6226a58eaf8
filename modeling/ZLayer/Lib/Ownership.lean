import Mathlib.Logic.Basic

/-!
# Ownership — every key with at most one holder

Calls that run side by side take keys from a pool, pass them on and give them back.  `Exclusive R`
says that the relation `R` between holders and keys gives a key to one holder only, and `Accounts`
that the keys in use are those that have a holder.  The rules say how the relation may change: a key
that nobody holds is taken, a holder gives its key back, or passes it to another.
-/

namespace ZLayer.Lib

variable {η κ : Type}

/-- No key has two holders. -/
def Exclusive (R : η → κ → Prop) : Prop :=
  ∀ k h h', R h k → R h' k → h = h'

/-- The keys in use are the keys that have a holder, and they have one. -/
structure Accounts (used : κ → Prop) (R : η → κ → Prop) : Prop where
  exclusive : Exclusive R
  held : ∀ k, used k ↔ ∃ h, R h k

namespace Accounts

variable {used used' : κ → Prop} {R R' : η → κ → Prop} {h g : η} {k : κ}

lemma congr (hR : Accounts used R) (hused : ∀ k, used' k ↔ used k)
    (hsame : ∀ a k, R' a k ↔ R a k) : Accounts used' R' where
  exclusive k a b ha hb := hR.exclusive k a b ((hsame a k).mp ha) ((hsame b k).mp hb)
  held k := by
    rw [hused, hR.held]
    exact exists_congr fun a => (hsame a k).symm

/-- One key gets a holder, or none, whoever had it before. -/
lemma reassign (hR : Accounts used R) (k : κ) (holder : Option η)
    (hkey : ∀ a, R' a k ↔ holder = some a) (hrest : ∀ a q, q ≠ k → (R' a q ↔ R a q))
    (husedKey : used' k ↔ ∃ a, holder = some a) (husedRest : ∀ q, q ≠ k → (used' q ↔ used q)) :
    Accounts used' R' where
  exclusive q a b ha hb := by
    by_cases hq : q = k
    · subst hq
      rw [hkey] at ha hb
      exact Option.some.inj (ha.symm.trans hb)
    · rw [hrest _ q hq] at ha hb
      exact hR.exclusive q a b ha hb
  held q := by
    by_cases hq : q = k
    · subst hq
      simp only [husedKey, hkey]
    · simp only [husedRest q hq, hR.held, hrest _ q hq]

lemma take (hR : Accounts used R) (hfree : ¬ used k) (hused : ∀ q, used' q ↔ used q ∨ q = k)
    (hmore : ∀ a q, R' a q ↔ R a q ∨ a = h ∧ q = k) : Accounts used' R' := by
  have hnobody (a : η) : ¬ R a k := fun ha => hfree ((hR.held k).mpr ⟨a, ha⟩)
  refine hR.reassign k (some h) (fun a => ?_) (fun a q hq => ?_) ?_ fun q hq => ?_
  · simp [hmore, hnobody, eq_comm]
  · simp [hmore, hq]
  · simp [hused]
  · simp [hused, hq]

lemma give (hR : Accounts used R) (hheld : R h k) (hused : ∀ q, used' q ↔ used q ∧ q ≠ k)
    (hless : ∀ a q, R' a q ↔ R a q ∧ ¬ (a = h ∧ q = k)) : Accounts used' R' := by
  have howner (a : η) (ha : R a k) : a = h := hR.exclusive k a h ha hheld
  refine hR.reassign k none (fun a => ?_) (fun a q hq => ?_) ?_ fun q hq => ?_
  · simpa [hless] using howner a
  · simp [hless, hq]
  · simp [hused]
  · simp [hused, hq]

lemma pass (hR : Accounts used R) (hheld : R h k) (hused : ∀ q, used' q ↔ used q)
    (hmoved : ∀ a q, R' a q ↔ (R a q ∧ ¬ (a = h ∧ q = k)) ∨ a = g ∧ q = k) :
    Accounts used' R' := by
  have howner (a : η) (ha : R a k) : a = h := hR.exclusive k a h ha hheld
  refine hR.reassign k (some g) (fun a => ?_) (fun a q hq => ?_) ?_ fun q _ => hused q
  · rw [hmoved]
    constructor
    · rintro (⟨ha, hne⟩ | ⟨rfl, -⟩)
      · exact absurd ⟨howner a ha, rfl⟩ hne
      · rfl
    · rintro ⟨⟩
      exact .inr ⟨rfl, rfl⟩
  · simp [hmoved, hq]
  · exact iff_of_true ((hused k).mpr ((hR.held k).mpr ⟨h, hheld⟩)) ⟨g, rfl⟩

end Accounts

end ZLayer.Lib
