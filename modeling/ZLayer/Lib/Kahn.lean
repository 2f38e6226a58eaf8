import ZLayer.Lib.HashMap
import ZLayer.Lib.Layers

/-!
# Kahn — a startup order by counting open dependencies

Every node has a counter of its dependencies that are not in the order yet, each counted as often
as it is listed.  A node whose counter is 0 waits in the queue; when it is taken into the order, the
counters of its dependents go down, once for every time they are listed.  A dependent joins the
queue at the moment its counter reaches 0, so it joins once.

`Reverses` says what the two adjacency lists must agree on: how often they list an edge.
-/

namespace ZLayer.Lib
namespace Kahn

open Layers List

variable {α : Type} {deps : α → List α}

/-! ## Orders -/

/-- Every node stands behind its dependencies. -/
def Ordered (deps : α → List α) (order : List α) : Prop :=
  ∀ before a after, order = before ++ a :: after → ∀ d ∈ deps a, d ∈ before

lemma Ordered.snoc {order : List α} {a : α} (h : Ordered deps order)
    (ha : ∀ d ∈ deps a, d ∈ order) : Ordered deps (order ++ [a]) := by
  intro before b after hsplit d hd
  rcases eq_nil_or_concat after with rfl | ⟨after, last, rfl⟩
  · rcases append_inj' hsplit rfl with ⟨rfl, hlast⟩
    cases hlast
    exact ha d hd
  · rw [concat_eq_append, ← cons_append, ← append_assoc] at hsplit
    rcases append_inj' hsplit rfl with ⟨rfl, -⟩
    exact h before b after rfl d hd

variable [DecidableEq α]

/-- The dependencies of `a` that are not in the order, as often as they are listed. -/
def missing (deps : α → List α) (result : List α) (a : α) : Nat :=
  (deps a).countP fun d => d ∉ result

lemma missing_eq_zero {result : List α} {a : α} :
    missing deps result a = 0 ↔ ∀ d ∈ deps a, d ∈ result := by
  simp [missing, countP_eq_zero]

/-! ## The loops -/

variable [Ord α] [Std.TransOrd α] [Std.LawfulEqOrd α]

/-- Count the dependencies of a node, and queue it if it has none. -/
def countDegree (deps : α → List α) (state : HashMap α Nat × List α) (name : α) :
    HashMap α Nat × List α :=
  (state.1.insert name (deps name).length,
    if (deps name).length = 0 then state.2 ++ [name] else state.2)

def countDegrees (deps : α → List α) (names : List α) : HashMap α Nat × List α :=
  names.foldl (countDegree deps) (∅, [])

/-- The counter of a dependent goes down.  A counter that is 0 cannot: the run ends in a panic. -/
def release (state : HashMap α Nat × List α) (dependent : α) : Option (HashMap α Nat × List α) :=
  match state.1[dependent]? with
  | none => some state
  | some 0 => none
  | some (degree + 1) =>
    some (state.1.insert dependent degree,
      if degree = 0 then state.2 ++ [dependent] else state.2)

def releaseAll (state : HashMap α Nat × List α) : List α → Option (HashMap α Nat × List α)
  | [] => some state
  | dependent :: rest => (release state dependent).bind fun state => releaseAll state rest

def drain (dependents : α → List α) : Nat → HashMap α Nat → List α → List α → Option (List α)
  | _, _, [], result => some result
  | 0, _, _ :: _, _ => none
  | fuel + 1, inDegree, node :: queue, result =>
    (releaseAll (inDegree, queue) (dependents node)).bind fun (inDegree, queue) =>
      drain dependents fuel inDegree queue (result ++ [node])

/-! ## Correctness -/

variable {dependents : α → List α} {nodes : Finset α} {inDegree : HashMap α Nat}
  {queue result : List α}

/-- Both adjacency lists list an edge equally often. -/
def Reverses (deps dependents : α → List α) (nodes : Finset α) : Prop :=
  ∀ a ∈ nodes, ∀ d ∈ nodes, (dependents d).count a = (deps a).count d

lemma missing_snoc {node a : α} (hnode : node ∉ result) :
    missing deps result a = missing deps (result ++ [node]) a + (deps a).count node := by
  rw [missing, missing, List.count]
  induction deps a with
  | nil => rfl
  | cons d ds ih =>
    simp only [countP_cons, ih, mem_append, mem_singleton]
    by_cases hsame : d = node
    · subst hsame
      simp [hnode]
      omega
    · simp [hsame]
      omega

/-- The state of the loop while `pending` is still to be released, `result` being the order with
the node that was taken last. -/
structure Counting (deps : α → List α) (nodes : Finset α) (result : List α)
    (inDegree : HashMap α Nat) (queue pending : List α) : Prop where
  degree : ∀ a ∈ nodes, inDegree[a]? = some (missing deps result a + pending.count a)
  ready : ∀ a ∈ nodes, (a ∈ queue ∨ a ∈ result) ↔ missing deps result a + pending.count a = 0
  nodup : (result ++ queue).Nodup
  inside : ∀ a ∈ result ++ queue, a ∈ nodes
  ordered : Ordered deps result

lemma foldl_countDegree (deps : α → List α) (names : List α) (state : HashMap α Nat × List α) :
    (∀ a, (names.foldl (countDegree deps) state).1[a]? =
        if a ∈ names then some (deps a).length else state.1[a]?) ∧
      (names.foldl (countDegree deps) state).2 =
        state.2 ++ names.filter fun a => (deps a).length = 0 := by
  induction names generalizing state with
  | nil => simp
  | cons name names ih =>
    rcases ih (countDegree deps state name) with ⟨hdegree, hqueue⟩
    refine ⟨fun a => ?_, ?_⟩
    · rw [foldl_cons, hdegree, countDegree, HashMap.lookup_insert]
      by_cases hmem : a ∈ names
      · simp [hmem]
      · by_cases hsame : name = a
        · simp [hsame]
        · simp [hmem, hsame, Ne.symm hsame]
    · rw [foldl_cons, hqueue, countDegree, filter_cons]
      by_cases hzero : (deps name).length = 0
      · simp only [hzero, decide_true, if_true, append_assoc, singleton_append]
      · simp only [hzero, decide_false, if_false, Bool.false_eq_true]

lemma countDegrees_counting {names : List α} (hnames : names.Nodup)
    (hnodes : ∀ a, a ∈ nodes ↔ a ∈ names) :
    Counting deps nodes [] (countDegrees deps names).1 (countDegrees deps names).2 [] := by
  rcases foldl_countDegree deps names (∅, []) with ⟨hdegree, hqueue⟩
  have hmissing : ∀ a, missing deps [] a = (deps a).length := by simp [missing]
  rw [nil_append] at hqueue
  refine ⟨?_, ?_, ?_, ?_, ?_⟩
  · intro a ha
    rw [countDegrees, hdegree, if_pos ((hnodes a).mp ha), hmissing]
    rfl
  · intro a ha
    rw [countDegrees, hqueue, hmissing]
    simp [(hnodes a).mp ha]
  · rw [countDegrees, hqueue]
    exact hnames.filter _
  · intro a ha
    rw [countDegrees, hqueue] at ha
    exact (hnodes a).mpr (mem_filter.mp ha).1
  · intro before a after hsplit
    simp at hsplit

lemma releaseAll_counting {pending : List α} (hpending : ∀ a ∈ pending, a ∈ nodes)
    (h : Counting deps nodes result inDegree queue pending) :
    ∃ inDegree' queue', releaseAll (inDegree, queue) pending = some (inDegree', queue') ∧
      Counting deps nodes result inDegree' queue' [] := by
  induction pending generalizing inDegree queue with
  | nil => exact ⟨inDegree, queue, rfl, h⟩
  | cons dependent rest ih =>
    rcases forall_mem_cons.mp hpending with ⟨hdependent, hrest⟩
    have hdegree := h.degree dependent hdependent
    rw [count_cons_self, ← Nat.add_assoc] at hdegree
    rw [releaseAll, release]
    simp only [hdegree, Option.bind_some]
    apply ih hrest
    -- its counter was positive, so the dependent is neither queued nor in the order
    have hopen : ¬ (dependent ∈ queue ∨ dependent ∈ result) := by
      rw [h.ready dependent hdependent, count_cons_self]
      omega
    have hother : ∀ a, a ≠ dependent → (dependent :: rest).count a = rest.count a :=
      fun a hne => count_cons_of_ne hne.symm
    refine ⟨?_, ?_, ?_, ?_, h.ordered⟩
    · intro a ha
      rw [HashMap.lookup_insert]
      split
      next hsame => rw [hsame]
      next hne => rw [h.degree a ha, hother a (Ne.symm hne)]
    · intro a ha
      by_cases hsame : a = dependent
      · subst hsame
        split
        next hzero => simp [hzero]
        next hpos => exact iff_of_false hopen hpos
      · rw [← hother a hsame, ← h.ready a ha]
        split <;> simp [hsame]
    · split
      · rw [← append_assoc]
        refine List.Nodup.append h.nodup (nodup_singleton _) ?_
        rw [disjoint_singleton]
        rw [mem_append, or_comm]
        exact hopen
      · exact h.nodup
    · intro a ha
      split at ha
      · rw [← append_assoc, mem_append, mem_singleton] at ha
        rcases ha with ha | rfl
        · exact h.inside a ha
        · exact hdependent
      · exact h.inside a ha

omit [Std.LawfulEqOrd α] in
/-- The order is complete when the queue has run empty, unless some node is on a cycle. -/
lemma mem_of_acc (hclosed : ∀ a ∈ nodes, ∀ d ∈ deps a, d ∈ nodes)
    (h : Counting deps nodes result inDegree [] []) {a : α} (hacc : Acc (Dep deps) a)
    (ha : a ∈ nodes) : a ∈ result := by
  induction hacc with
  | intro a _ ih =>
    have hdeps : ∀ d ∈ deps a, d ∈ result := fun d hd => ih d hd (hclosed a ha d hd)
    have hready := (h.ready a ha).mpr (by rw [missing_eq_zero.mpr hdeps]; rfl)
    exact hready.resolve_left not_mem_nil

lemma drain_ordered (hreverse : Reverses deps dependents nodes)
    (hdependents : ∀ d ∈ nodes, ∀ a ∈ dependents d, a ∈ nodes) {fuel : Nat}
    (hfuel : nodes.card ≤ fuel + result.length)
    (h : Counting deps nodes result inDegree queue []) :
    ∃ order inDegree', drain dependents fuel inDegree queue result = some order ∧
      Counting deps nodes order inDegree' [] [] := by
  induction fuel generalizing inDegree queue result with
  | zero =>
    cases queue with
    | nil => exact ⟨result, inDegree, rfl, h⟩
    | cons node queue =>
      -- the order and the queue would be more than the nodes
      have hsub : (result ++ node :: queue).toFinset ⊆ nodes :=
        fun a ha => h.inside a (mem_toFinset.mp ha)
      have hcard := Finset.card_le_card hsub
      rw [toFinset_card_of_nodup h.nodup, length_append, length_cons] at hcard
      omega
  | succ fuel ih =>
    cases queue with
    | nil => exact ⟨result, inDegree, by simp [drain], h⟩
    | cons node queue =>
      have hnode : node ∈ nodes := h.inside node (by simp)
      have hfresh : node ∉ result := by
        intro hmem
        exact (nodup_append'.mp h.nodup).2.2 hmem mem_cons_self
      have hready : ∀ d ∈ deps node, d ∈ result := by
        have hzero := (h.ready node hnode).mp (.inl mem_cons_self)
        exact missing_eq_zero.mp (by simpa using hzero)
      have hcount : ∀ a ∈ nodes, missing deps result a =
          missing deps (result ++ [node]) a + (dependents node).count a := by
        intro a ha
        rw [missing_snoc hfresh, hreverse a ha node hnode]
      have htaken : Counting deps nodes (result ++ [node]) inDegree queue
          (dependents node) := by
        refine ⟨?_, ?_, ?_, ?_, h.ordered.snoc hready⟩
        · intro a ha
          rw [h.degree a ha, hcount a ha]
          rfl
        · intro a ha
          rw [← hcount a ha]
          have hold := h.ready a ha
          simp only [mem_cons, count_nil, Nat.add_zero] at hold
          rw [← hold, mem_append, mem_singleton]
          tauto
        · simpa using h.nodup
        · simpa using h.inside
      rcases releaseAll_counting (hdependents node hnode) htaken with
        ⟨inDegree', queue', hrelease, hcounting⟩
      rw [drain, hrelease, Option.bind_some]
      exact ih (by rw [length_append, length_singleton]; omega) hcounting

end Kahn
end ZLayer.Lib
