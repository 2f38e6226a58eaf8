import Mathlib.Data.List.Induction
import ZLayer.Lib.Machine

/-!
# Since — what has held since a step of a run

`Since P Q` says of a run that some step of it satisfied `P`, and that `Q` has held in every state
from then on.  It is the past operator of temporal logic: one step further it still holds if `Q`
does, and it holds anew if the step satisfies `P`.  An invariant of this kind looks at the whole
run and not only at the state it ends in.
-/

namespace ZLayer.Lib
namespace Machine

variable {σ ι : Type} {next : σ → ι → σ} {P : σ → ι → Prop} {Q : σ → Prop} {s : σ} {is : List ι}

/-- Some step satisfied `P`, and `Q` has held ever since. -/
def Since (next : σ → ι → σ) (P : σ → ι → Prop) (Q : σ → Prop) (s : σ) (is : List ι) : Prop :=
  ∃ before i after, is = before ++ i :: after ∧ P (before.foldl next s) i ∧
    ∀ more, more <+: after → Q ((before ++ i :: more).foldl next s)

lemma Since.now {i : ι} (hP : P (is.foldl next s) i) (hQ : Q ((is ++ [i]).foldl next s)) :
    Since next P Q s (is ++ [i]) := by
  refine ⟨is, i, [], rfl, hP, fun more hmore => ?_⟩
  rw [List.prefix_nil.mp hmore]
  exact hQ

lemma Since.snoc {i : ι} (h : Since next P Q s is) (hQ : Q ((is ++ [i]).foldl next s)) :
    Since next P Q s (is ++ [i]) := by
  rcases h with ⟨before, j, after, rfl, hP, hsince⟩
  refine ⟨before, j, after ++ [i], by simp, hP, fun more hmore => ?_⟩
  rcases List.prefix_concat_iff.mp hmore with rfl | hless
  · simpa using hQ
  · exact hsince more hless

/-- A relation between a run and its last state, kept by every step that satisfies `P`. -/
lemma Along.history {I : List ι → σ → Prop} (hnil : I [] s)
    (hstep : ∀ is i, P (is.foldl next s) i → I is (is.foldl next s) →
      I (is ++ [i]) (next (is.foldl next s) i)) (h : Along next P s is) :
    I is (is.foldl next s) := by
  induction is using List.reverseRecOn with
  | nil => exact hnil
  | append_singleton is i ih =>
    rw [along_append] at h
    rw [List.foldl_concat]
    exact hstep is i h.2.1 (ih h.1)

end Machine
end ZLayer.Lib
