import Mathlib.Data.List.Count
import Mathlib.Data.List.Induction
import ZLayer.Lib.Prog

/-!
# Pool — several programs over one state

Threads take atomic steps in the order of a schedule.  What holds of the shared state along a run
is proved thread by thread.  `Keeps I G n p` says that during its next `n` steps, whatever states
that satisfy `I` it meets, the program `p` only makes updates that preserve `I` and are related by
`G`.  `exec_keeps` combines the threads: one of them may carry an invariant that ties its own
progress and remaining steps to the state, if the updates of the others leave it alone.

`After I n p q` says that `p` can have become `q` after `n` steps of its own from states that
satisfy `I`.
-/

namespace ZLayer.Lib

/-- Several programs over one state, each with its own result type. -/
structure Pool (ι σ : Type) (α : ι → Type) where
  threads : (i : ι) → Prog σ (α i)
  shared : σ

namespace Prog

variable {σ α ε : Type} {I : σ → Prop} {G : σ → σ → Prop}

/-- For the next `n` steps from states in `I`, the updates of the program stay in `I` and in
`G`. -/
def Keeps (I : σ → Prop) (G : σ → σ → Prop) : Nat → Prog σ α → Prop
  | 0, _ => True
  | _ + 1, ret _ => True
  | n + 1, get next => ∀ s, I s → Keeps I G n (next s)
  | n + 1, commit f next => ∀ s, I s → I (f s) ∧ G s (f s) ∧ Keeps I G n (next s)

lemma keeps_zero (p : Prog σ α) : Keeps I G 0 p := by
  cases p <;> trivial

lemma Keeps.step (hrefl : ∀ s, G s s) {n : Nat} {p : Prog σ α} (h : Keeps I G (n + 1) p) {s : σ}
    (hs : I s) : I (p.step s).2 ∧ G s (p.step s).2 ∧ Keeps I G n (p.step s).1 := by
  cases p with
  | ret a =>
    refine ⟨hs, hrefl s, ?_⟩
    cases n <;> trivial
  | get next => exact ⟨hs, hrefl s, h s hs⟩
  | commit f next => exact h s hs

/-- A script keeps to `I` and `G` if the actions it still gets to perform do. -/
lemma keeps_script (act : ε → σ → σ) (es : List ε) (a : α) (n : Nat)
    (h : ∀ e ∈ es.take n, ∀ s, I s → I (act e s) ∧ G s (act e s)) :
    Keeps I G n (script act es a) := by
  induction es generalizing n with
  | nil => cases n <;> trivial
  | cons e es ih =>
    cases n with
    | zero => trivial
    | succ n =>
      intro s hs
      have hfirst := h e (by simp) s hs
      exact ⟨hfirst.1, hfirst.2, ih n fun e' he' => h e' (by simp [he'])⟩

/-- `p` may have become `q` after `n` steps from states in `I`. -/
def After (I : σ → Prop) : Nat → Prog σ α → Prog σ α → Prop
  | 0, p, q => q = p
  | n + 1, p, q => ∃ r s, After I n p r ∧ I s ∧ q = (r.step s).1

lemma after_script (act : ε → σ → σ) (es : List ε) (a : α) {n : Nat} {q : Prog σ α}
    (h : After I n (script act es a) q) : q = script act (es.drop n) a := by
  induction n generalizing q with
  | zero => exact h
  | succ n ih =>
    rcases h with ⟨r, s, hr, -, rfl⟩
    rw [ih hr, ← List.drop_drop]
    cases es.drop n <;> rfl

/-- A program that takes a snapshot and then follows a script is, after `n + 1` steps, the rest of
the script of some snapshot in `I`. -/
lemma after_get_script (act : ε → σ → σ) (es : σ → List ε) (a : σ → α) {n : Nat}
    {q : Prog σ α} (h : After I (n + 1) (get fun s => script act (es s) (a s)) q) :
    ∃ s, I s ∧ q = script act ((es s).drop n) (a s) := by
  induction n generalizing q with
  | zero =>
    rcases h with ⟨r, s, hr, hs, rfl⟩
    have hget : r = get fun s => script act (es s) (a s) := hr
    subst hget
    exact ⟨s, hs, rfl⟩
  | succ n ih =>
    rcases h with ⟨r, s, hr, -, rfl⟩
    rcases ih hr with ⟨snapshot, hsnapshot, rfl⟩
    refine ⟨snapshot, hsnapshot, ?_⟩
    rw [← List.drop_drop]
    cases (es snapshot).drop n <;> rfl

end Prog

namespace Pool

open Prog

variable {ι σ : Type} {α : ι → Type} [DecidableEq ι] {I : σ → Prop} {G : σ → σ → Prop}

/-- The `(n + 1)`-th occurrence of a thread in a schedule. -/
lemma exists_split_of_lt_count {i : ι} {n : Nat} {schedule : List ι} (h : n < schedule.count i) :
    ∃ before after, schedule = before ++ i :: after ∧ before.count i = n := by
  induction schedule generalizing n with
  | nil => simp at h
  | cons j schedule ih =>
    by_cases hj : j = i
    · subst hj
      cases n with
      | zero => exact ⟨[], schedule, rfl, rfl⟩
      | succ n =>
        rw [List.count_cons_self] at h
        rcases ih (Nat.lt_of_succ_lt_succ h) with ⟨before, after, hsplit, hcount⟩
        exact ⟨j :: before, after, by rw [hsplit]; rfl, by rw [List.count_cons_self, hcount]⟩
    · rw [List.count_cons_of_ne hj] at h
      rcases ih h with ⟨before, after, hsplit, hcount⟩
      exact ⟨j :: before, after, by rw [hsplit]; rfl, by rw [List.count_cons_of_ne hj, hcount]⟩

/-- Thread `i` takes one atomic step. -/
def step (c : Pool ι σ α) (i : ι) : Pool ι σ α :=
  { threads := Function.update c.threads i ((c.threads i).step c.shared).1
    shared := ((c.threads i).step c.shared).2 }

def exec (c : Pool ι σ α) (schedule : List ι) : Pool ι σ α :=
  schedule.foldl step c

lemma exec_append (c : Pool ι σ α) (before after : List ι) :
    c.exec (before ++ after) = (c.exec before).exec after :=
  List.foldl_append

lemma step_threads_self (c : Pool ι σ α) (i : ι) :
    (c.step i).threads i = ((c.threads i).step c.shared).1 :=
  Function.update_self i _ c.threads

lemma step_threads_of_ne (c : Pool ι σ α) {i j : ι} (h : j ≠ i) :
    (c.step i).threads j = c.threads j :=
  Function.update_of_ne h _ c.threads

/-- The threads of the pool keep `I` for the rest of the schedule, and thread `m` has the local
invariant `J` for the steps it has left. -/
structure Guarded (I : σ → Prop) (G : σ → σ → Prop) (m : ι)
    (J : Nat → Prog σ (α m) → σ → Prop) (rest : List ι) (c : Pool ι σ α) : Prop where
  shared : I c.shared
  main : J (rest.count m) (c.threads m) c.shared
  others : ∀ i, i ≠ m → Keeps I G (rest.count i) (c.threads i)

section Guarded

variable {m : ι} {J : Nat → Prog σ (α m) → σ → Prop}

section

variable (hrefl : ∀ s, G s s) (hstable : ∀ n p s s', J n p s → I s → I s' → G s s' → J n p s')
  (hmain : ∀ n p s, J (n + 1) p s → I s → I (p.step s).2 ∧ J n (p.step s).1 (p.step s).2)

include hrefl hstable hmain

lemma Guarded.step {i : ι} {rest : List ι} {c : Pool ι σ α} (h : Guarded I G m J (i :: rest) c) :
    Guarded I G m J rest (c.step i) := by
  by_cases hi : i = m
  · subst hi
    have hlocal := h.main
    rw [List.count_cons_self] at hlocal
    have hstep := hmain _ _ _ hlocal h.shared
    refine ⟨hstep.1, ?_, fun j hj => ?_⟩
    · rw [step_threads_self]
      exact hstep.2
    · have hkeeps := h.others j hj
      rw [List.count_cons_of_ne (Ne.symm hj)] at hkeeps
      rw [step_threads_of_ne c hj]
      exact hkeeps
  · have hkeeps := h.others i hi
    rw [List.count_cons_self] at hkeeps
    rcases hkeeps.step hrefl h.shared with ⟨hshared, hguarantee, hnext⟩
    refine ⟨hshared, ?_, fun j hj => ?_⟩
    · have hlocal := h.main
      rw [List.count_cons_of_ne hi] at hlocal
      rw [step_threads_of_ne c (Ne.symm hi)]
      exact hstable _ _ _ _ hlocal h.shared hshared hguarantee
    · by_cases hji : j = i
      · subst hji
        rw [step_threads_self]
        exact hnext
      · have hother := h.others j hj
        rw [List.count_cons_of_ne (Ne.symm hji)] at hother
        rw [step_threads_of_ne c hji]
        exact hother

/-- Along a whole schedule `I` and the local invariant of `m` hold, if the other threads keep to
`I` and `G`, `J` survives `G`, and the steps of `m` preserve both. -/
lemma exec_keeps (schedule rest : List ι) {c : Pool ι σ α}
    (h : Guarded I G m J (schedule ++ rest) c) :
    Guarded I G m J rest (c.exec schedule) := by
  induction schedule generalizing c with
  | nil => exact h
  | cons i schedule ih => exact ih (h.step hrefl hstable hmain)

end

end Guarded

/-- If `I` holds before every step of the schedule, each thread has taken its steps from states
in `I`. -/
lemma exec_after (c : Pool ι σ α) (schedule : List ι)
    (h : ∀ before after, schedule = before ++ after → I (c.exec before).shared) (i : ι) :
    After I (schedule.count i) (c.threads i) ((c.exec schedule).threads i) := by
  induction schedule using List.reverseRecOn with
  | nil => rfl
  | append_singleton schedule j ih =>
    have hbefore := ih fun before after hsplit =>
      h before (after ++ [j]) (by rw [hsplit, List.append_assoc])
    rw [exec_append]
    change After I _ _ (((c.exec schedule).step j).threads i)
    by_cases hij : i = j
    · subst hij
      rw [step_threads_self, List.count_append, List.count_singleton_self]
      exact ⟨_, _, hbefore, h schedule [i] rfl, rfl⟩
    · have hcount : [j].count i = 0 := List.count_eq_zero_of_not_mem (by simpa using hij)
      rw [step_threads_of_ne _ hij, List.count_append, hcount]
      exact hbefore

end Pool

end ZLayer.Lib
