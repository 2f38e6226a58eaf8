import ZLayer.Lib.DepthFirst

/-!
# Reachability — a search with a stack and a set of visited nodes

The search takes nodes from a stack, passes over those it has seen, and ends as soon as the target
is among the dependencies of one.  What it has seen is closed under dependencies but for the nodes
that wait on the stack, so a path from a visited node to the target passes one of these.
-/

namespace ZLayer.Lib
namespace Reachability

open DepthFirst List

variable {α : Type} [Ord α] [Std.TransOrd α]

/-- Whether the target is a dependency of a node that the search comes to.  The dependencies are
pushed in their order, so the last one is the next to be taken. -/
def reaches [Std.LawfulEqOrd α] [DecidableEq α] (adjacency : HashMap α (List α)) (target : α)
    (visited : Finset α) : List α → Bool
  | [] => false
  | current :: stack =>
    if hseen : current ∈ visited then reaches adjacency target visited stack
    else if target ∈ depsOf adjacency current then true
    else
      reaches adjacency target (insert current visited)
        (((depsOf adjacency current).filter (· ∉ insert current visited)).reverse ++ stack)
  termination_by stack => ((adjacency.keys.toFinset \ visited).card, stack.length)
  decreasing_by
  · exact Prod.Lex.right _ (by simp)
  · rw [Finset.sdiff_insert]
    by_cases hkey : current ∈ adjacency
    · have hmem : current ∈ adjacency.keys.toFinset \ visited := by
        simpa [hseen] using Std.ExtTreeMap.mem_keys.mpr hkey
      exact Prod.Lex.left _ _ (Finset.card_erase_lt_of_mem hmem)
    · -- a node without an entry has no dependencies to push
      have hnot : current ∉ adjacency.keys.toFinset \ visited := by
        simpa [hseen] using mt Std.ExtTreeMap.mem_keys.mp hkey
      rw [Finset.erase_eq_of_notMem hnot]
      exact Prod.Lex.right _ (by simp [depsOf, Std.ExtTreeMap.getElem?_eq_none hkey])

section Correct

variable {adjacency : HashMap α (List α)} {target : α} {visited : Finset α} {stack : List α}

/-- What has been visited misses the target, and leads to visited nodes or to the stack. -/
def Explored (adjacency : HashMap α (List α)) (target : α) (visited : Finset α)
    (stack : List α) : Prop :=
  ∀ v ∈ visited, target ∉ depsOf adjacency v ∧
    ∀ d ∈ depsOf adjacency v, d ∈ visited ∨ d ∈ stack

/-- A path from a visited node to the target passes the stack. -/
lemma Explored.leave (h : Explored adjacency target visited stack) {v : α} (hv : v ∈ visited)
    (hpath : Relation.TransGen (fun a d => d ∈ depsOf adjacency a) v target) :
    ∃ a ∈ stack, Relation.TransGen (fun a d => d ∈ depsOf adjacency a) a target := by
  induction hpath using Relation.TransGen.head_induction_on with
  | single hedge => exact absurd hedge (h _ hv).1
  | head hedge hrest ih =>
    rcases (h _ hv).2 _ hedge with hseen | hwaits
    · exact ih hseen
    · exact ⟨_, hwaits, hrest⟩

/-- The search tells whether the target can be reached from the stack. -/
lemma reaches_iff [Std.LawfulEqOrd α] [DecidableEq α]
    (h : Explored adjacency target visited stack) :
    reaches adjacency target visited stack = true ↔
      ∃ a ∈ stack, Relation.TransGen (fun a d => d ∈ depsOf adjacency a) a target := by
  fun_induction reaches adjacency target visited stack with
  | case1 visited => simp
  | case2 visited current stack hseen ih =>
    have hrest : Explored adjacency target visited stack := by
      intro v hv
      refine ⟨(h v hv).1, fun d hd => ?_⟩
      rcases (h v hv).2 d hd with hin | hwaits
      · exact .inl hin
      · rcases mem_cons.mp hwaits with rfl | hlater
        · exact .inl hseen
        · exact .inr hlater
    rw [ih hrest, exists_mem_cons_iff]
    exact ⟨.inr, fun hpath => hpath.elim (hrest.leave hseen) id⟩
  | case3 visited current stack hseen hfound =>
    exact iff_of_true rfl ⟨current, mem_cons_self, .single hfound⟩
  | case4 visited current stack hseen hmissed ih =>
    -- what was pushed is a dependency of the node that was taken
    have hnext : Explored adjacency target (insert current visited)
        (((depsOf adjacency current).filter (· ∉ insert current visited)).reverse ++ stack) := by
      intro v hv
      rcases Finset.mem_insert.mp hv with rfl | hold
      · refine ⟨hmissed, fun d hd => ?_⟩
        by_cases hin : d ∈ insert v visited
        · exact .inl hin
        · exact .inr (mem_append_left _ (by simpa [hd] using hin))
      · refine ⟨(h v hold).1, fun d hd => ?_⟩
        rcases (h v hold).2 d hd with hin | hwaits
        · exact .inl (Finset.mem_insert_of_mem hin)
        · rcases mem_cons.mp hwaits with rfl | hlater
          · exact .inl (Finset.mem_insert_self ..)
          · exact .inr (mem_append_right _ hlater)
    rw [ih hnext, exists_mem_cons_iff]
    constructor
    · rintro ⟨a, ha, hpath⟩
      rcases mem_append.mp ha with hpushed | hold
      · exact .inl (.head (mem_of_mem_filter (mem_reverse.mp hpushed)) hpath)
      · exact .inr ⟨a, hold, hpath⟩
    · rintro (hpath | ⟨a, ha, hpath⟩)
      · exact hnext.leave (Finset.mem_insert_self ..) hpath
      · exact ⟨a, mem_append_right _ ha, hpath⟩

end Correct

end Reachability
end ZLayer.Lib
