import Mathlib.Data.List.Basic

/-!
# Machine — runs of a step function that consults an ambient reading

A replicated state machine applies a list of inputs one by one.  Each step may also look at
something that is not in the input, such as the local clock; that reading is an argument of the
step, and a run is taken along a trace of readings.
-/

namespace ZLayer.Lib
namespace Machine

open List

variable {τ σ ι ω : Type}

/-- Final state and outputs of the inputs `is`, the `k`-th of which sees the reading `env k`. -/
def run (step : τ → σ → ι → σ × ω) (env : ℕ → τ) (s : σ) : List ι → σ × List ω
  | [] => (s, [])
  | i :: is =>
    let next := step (env 0) s i
    let rest := run step (fun k => env (k + 1)) next.1 is
    (rest.1, next.2 :: rest.2)

variable {step : τ → σ → ι → σ × ω}

@[simp] lemma run_nil (env : ℕ → τ) (s : σ) : run step env s [] = (s, []) := rfl

lemma run_cons (env : ℕ → τ) (s : σ) (i : ι) (is : List ι) : run step env s (i :: is) =
      ((run step (fun k => env (k + 1)) (step (env 0) s i).1 is).1,
        (step (env 0) s i).2 :: (run step (fun k => env (k + 1)) (step (env 0) s i).1 is).2) := rfl

/-- The state after two blocks of inputs is the one the second block reaches from the first. -/
lemma run_append_fst (env : ℕ → τ) (s : σ) (is js : List ι) : (run step env s (is ++ js)).1 =
      (run step (fun k => env (k + is.length)) (run step env s is).1 js).1 := by
  induction is generalizing env s with
  | nil => rfl
  | cons i is ih =>
    simp only [cons_append, run_cons, length_cons]
    rw [ih]
    simp only [Nat.add_assoc]

/-- What every step of a run preserves holds at its end. -/
lemma run_invariant {P : σ → Prop} (env : ℕ → τ) (is : List ι) (s : σ)
    (hstep : ∀ k s, ∀ i ∈ is, P s → P (step (env k) s i).1) (h : P s) :
    P (run step env s is).1 := by
  induction is generalizing env s with
  | nil => exact h
  | cons i is ih =>
    rw [run_cons]
    refine ih (fun k => env (k + 1)) _ ?_ (hstep 0 s i (by simp) h)
    intro k s' j hj
    exact hstep (k + 1) s' j (mem_cons_of_mem i hj)

/-- Two runs over the same inputs that stay related, the relation looking at the inputs still to
come, give the same outputs and end in related states. -/
lemma run_related {R : List ι → σ → σ → Prop} (hstep : ∀ t₁ t₂ s₁ s₂ i is, R (i :: is) s₁ s₂ →
      R is (step t₁ s₁ i).1 (step t₂ s₂ i).1 ∧ (step t₁ s₁ i).2 = (step t₂ s₂ i).2)
    (env₁ env₂ : ℕ → τ) (is : List ι) (s₁ s₂ : σ) (h : R is s₁ s₂) :
    R [] (run step env₁ s₁ is).1 (run step env₂ s₂ is).1 ∧
      (run step env₁ s₁ is).2 = (run step env₂ s₂ is).2 := by
  induction is generalizing env₁ env₂ s₁ s₂ with
  | nil => exact ⟨h, rfl⟩
  | cons i is ih =>
    obtain ⟨hnext, hout⟩ := hstep (env₁ 0) (env₂ 0) s₁ s₂ i is h
    obtain ⟨hend, houts⟩ := ih (fun k => env₁ (k + 1)) (fun k => env₂ (k + 1)) _ _ hnext
    refine ⟨hend, ?_⟩
    simp only [run_cons, hout, houts]

/-! ## Runs with a condition on every step -/

section Along

variable (next : σ → ι → σ)

/-- `P` holds of every step of a run, seen from the state before the step. -/
def Along (P : σ → ι → Prop) (s : σ) : List ι → Prop
  | [] => True
  | i :: is => P s i ∧ Along P (next s i) is

instance decidableAlong (P : σ → ι → Prop) [∀ s i, Decidable (P s i)] :
    ∀ s is, Decidable (Along next P s is)
  | _, [] => isTrue trivial
  | s, i :: is =>
    have := decidableAlong P (next s i) is
    inferInstanceAs (Decidable (P s i ∧ Along next P (next s i) is))

variable {next}

variable {P : σ → ι → Prop} {is : List ι} {s : σ} {I : σ → Prop}

/-- What every step that meets the condition preserves holds at the end of the run. -/
lemma Along.invariant (hstep : ∀ s i, I s → P s i → I (next s i)) (hs : I s)
    (h : Along next P s is) : I (is.foldl next s) := by
  induction is generalizing s with
  | nil => exact hs
  | cons i is ih => exact ih (hstep s i hs h.1) h.2

/-- A step property that follows from the condition and an invariant holds along the run. -/
lemma Along.imp {P Q : σ → ι → Prop} (hstep : ∀ s i, I s → P s i → I (next s i))
    (hPQ : ∀ s i, I s → P s i → Q s i) (hs : I s) (h : Along next P s is) : Along next Q s is := by
  induction is generalizing s with
  | nil => trivial
  | cons i is ih => exact ⟨hPQ s i hs h.1, ih (hstep s i hs h.1) h.2⟩

/-- What is true of every input joins the condition. -/
lemma Along.and_mem {Q : ι → Prop} (h : Along next P s is) (hQ : ∀ i ∈ is, Q i) :
    Along next (fun s i => P s i ∧ Q i) s is := by
  induction is generalizing s with
  | nil => trivial
  | cons i is ih =>
    refine ⟨⟨h.1, hQ i mem_cons_self⟩, ih h.2 fun j hj => ?_⟩
    exact hQ j (mem_cons_of_mem i hj)

lemma Along.take (h : Along next P s is) (k : ℕ) : Along next P s (is.take k) := by
  induction is generalizing s k with
  | nil => simpa using h
  | cons i is ih =>
    cases k with
    | zero => trivial
    | succ k => exact ⟨h.1, ih h.2 k⟩

lemma along_append {is js : List ι} :
    Along next P s (is ++ js) ↔ Along next P s is ∧ Along next P (is.foldl next s) js := by
  induction is generalizing s with
  | nil => simp [Along]
  | cons i is ih => exact (and_congr_right fun _ => ih).trans and_assoc.symm

/-- Two step properties that agree wherever an invariant holds agree along every run. -/
lemma along_congr {P Q : σ → ι → Prop} (hI : ∀ s i, I s → I (next s i))
    (hPQ : ∀ s i, I s → (P s i ↔ Q s i)) (is : List ι) (hs : I s) :
    Along next P s is ↔ Along next Q s is := by
  induction is generalizing s with
  | nil => exact Iff.rfl
  | cons i is ih => exact and_congr (hPQ s i hs) (ih (hI s i hs))

/-- A property that holds in every state of a run exactly if the condition holds of every step: the
condition keeps an invariant that has the property, and in a state of the invariant a step without
the condition loses it. -/
lemma forall_prefix_iff_along {W I : σ → Prop} (hW : ∀ s, I s → W s)
    (hkeep : ∀ s, ∀ i ∈ is, I s → P s i → I (next s i))
    (hneeds : ∀ s, ∀ i ∈ is, I s → W (next s i) → P s i) (hs : I s) :
    (∀ done, done <+: is → W (done.foldl next s)) ↔ Along next P s is := by
  induction is generalizing s with
  | nil =>
    refine iff_of_true (fun done hdone => ?_) trivial
    rw [prefix_nil.mp hdone]
    exact hW s hs
  | cons i is ih =>
    have hrest : ∀ {s}, I s →
        ((∀ done, done <+: is → W (done.foldl next s)) ↔ Along next P s is) :=
      ih (fun s j hj => hkeep s j (mem_cons_of_mem i hj))
        (fun s j hj => hneeds s j (mem_cons_of_mem i hj))
    constructor
    · intro hall
      have hP : P s i := hneeds s i mem_cons_self hs (hall [i] ⟨is, rfl⟩)
      refine ⟨hP, (hrest (hkeep s i mem_cons_self hs hP)).mp fun done hdone => ?_⟩
      exact hall (i :: done) (cons_prefix_cons.mpr ⟨rfl, hdone⟩)
    · rintro ⟨hP, hmore⟩ done hdone
      cases done with
      | nil => exact hW s hs
      | cons first done =>
        rcases cons_prefix_cons.mp hdone with ⟨rfl, hrestDone⟩
        exact (hrest (hkeep s first mem_cons_self hs hP)).mpr hmore done hrestDone

end Along

/-! ## A run beside a part of it -/

/-- The unwinding theorem: a relation between the state of a run and that of the run of the relevant
inputs alone holds at the end, if relevant inputs keep it on both sides and the others on one. -/
lemma foldl_filter_related {next : σ → ι → σ} {R : σ → σ → Prop} {relevant : ι → Bool}
    (is : List ι)
    (hboth : ∀ i ∈ is, relevant i = true → ∀ s t, R s t → R (next s i) (next t i))
    (hone : ∀ i ∈ is, relevant i = false → ∀ s t, R s t → R (next s i) t) {s t : σ} (h : R s t) :
    R (is.foldl next s) ((is.filter relevant).foldl next t) := by
  induction is generalizing s t with
  | nil => exact h
  | cons i is ih =>
    have hboth' := fun j hj => hboth j (mem_cons_of_mem i hj)
    have hone' := fun j hj => hone j (mem_cons_of_mem i hj)
    cases hi : relevant i with
    | true =>
      rw [filter_cons_of_pos hi]
      exact ih hboth' hone' (hboth i mem_cons_self hi s t h)
    | false =>
      rw [filter_cons_of_neg (by simp [hi])]
      exact ih hboth' hone' (hone i mem_cons_self hi s t h)

end Machine
end ZLayer.Lib
