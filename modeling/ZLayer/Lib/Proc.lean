import Mathlib.Logic.Function.Basic

/-!
# Proc — asynchronous procedures that can wait

A procedure is a tree of atomic steps over a shared state.  A step may have to wait until the state
lets it go on, as the request for a lock does; if nothing ever does, the procedure is stuck.  On its
own a procedure either returns or waits for ever (`outcome`), and it can be cut off after any number
of steps (`interrupt`).

`Wp I Q` is the weakest precondition for an invariant `I` of every state on the way and a
postcondition `Q` of the return: what it is proved for may be interrupted anywhere.
-/

namespace ZLayer.Lib

inductive Proc (σ α : Type) : Type
  | ret (a : α)
  /-- Wait until `ready`, then apply `f` in one step and go on with the state it was applied to. -/
  | step (ready : σ → Bool) (f : σ → σ) (next : σ → Proc σ α)

namespace Proc

variable {σ α β ε ρ : Type}

def bind : Proc σ α → (α → Proc σ β) → Proc σ β
  | ret a, k => k a
  | step ready f next, k => step ready f fun s => bind (next s) k

instance : Monad (Proc σ) where
  pure := ret
  bind := bind

def act (op : σ → σ × ρ) : Proc σ ρ :=
  step (fun _ => true) (fun s => (op s).1) fun s => ret (op s).2

/-- Wait until `ready`, then apply `f`. -/
def await (ready : σ → Bool) (f : σ → σ) : Proc σ Unit :=
  step ready f fun _ => ret ()

/-! ## A procedure on its own -/

/-- The result, unless the procedure waits for something that only another one could bring about,
and the state in which it returned or waits. -/
def outcome : Proc σ α → σ → Option α × σ
  | ret a, s => (some a, s)
  | step ready f next, s => if ready s then outcome (next s) (f s) else (none, s)

/-- The state a procedure leaves when it is stopped for good after `k` steps; it may have returned
before, or be waiting. -/
def interrupt : Nat → Proc σ α → σ → σ
  | _, ret _, s => s
  | 0, step .., s => s
  | k + 1, step ready f next, s => if ready s then interrupt k (next s) (f s) else s

@[simp] lemma outcome_pure (a : α) (s : σ) : outcome (pure a : Proc σ α) s = (some a, s) := rfl

@[simp] lemma outcome_act (op : σ → σ × ρ) (s : σ) :
    outcome (act op) s = (some (op s).2, (op s).1) := rfl

@[simp] lemma outcome_await (ready : σ → Bool) (f : σ → σ) (s : σ) :
    outcome (await ready f) s = if ready s then (some (), f s) else (none, s) := rfl

lemma outcome_bind (t : Proc σ α) (k : α → Proc σ β) (s : σ) : outcome (t >>= k) s =
      match outcome t s with
      | (some a, s') => outcome (k a) s'
      | (none, s') => (none, s') := by
  change outcome (bind t k) s = _
  induction t generalizing s with
  | ret a => rfl
  | step ready f next ih =>
    simp only [bind, outcome]
    cases ready s with
    | true => exact ih s (f s)
    | false => rfl

variable {t : Proc σ α}

lemma outcome_bind_some {s s' : σ} {a : α} (h : outcome t s = (some a, s')) (k : α → Proc σ β) :
    outcome (t >>= k) s = outcome (k a) s' := by
  rw [outcome_bind, h]

lemma outcome_bind_none {s s' : σ} (h : outcome t s = (none, s')) (k : α → Proc σ β) :
    outcome (t >>= k) s = (none, s') := by
  rw [outcome_bind, h]

/-! ## Weakest preconditions -/

/-- `I` holds in every state from here on, and `Q` of the result and the state at the return. -/
def Wp (I : σ → Prop) (Q : α → σ → Prop) : Proc σ α → σ → Prop
  | ret a, s => I s ∧ Q a s
  | step ready f next, s => I s ∧ (ready s = true → Wp I Q (next s) (f s))

section Wp

variable {I : σ → Prop} {Q : α → σ → Prop} {s : σ}

variable {t : Proc σ α}

lemma Wp.now (h : Wp I Q t s) : I s := by
  cases t with
  | ret | step => exact h.1

lemma wp_pure {a : α} (hI : I s) (hQ : Q a s) : Wp I Q (pure a) s := ⟨hI, hQ⟩

lemma wp_act {op : σ → σ × ρ} {Q : ρ → σ → Prop} (hI : I s) (hI' : I (op s).1)
    (hQ : Q (op s).2 (op s).1) : Wp I Q (act op) s :=
  ⟨hI, fun _ => ⟨hI', hQ⟩⟩

lemma Wp.mono {Q' : α → σ → Prop} (h : Wp I Q t s) (hQ : ∀ a s, I s → Q a s → Q' a s) :
    Wp I Q' t s := by
  induction t generalizing s with
  | ret a => exact ⟨h.1, hQ a s h.1 h.2⟩
  | step ready f next ih => exact ⟨h.1, fun hready => ih _ (h.2 hready)⟩

lemma wp_bind {R : β → σ → Prop} {k : α → Proc σ β} (h : Wp I (fun a s => Wp I R (k a) s) t s) :
    Wp I R (t >>= k) s := by
  change Wp I R (bind t k) s
  induction t generalizing s with
  | ret a => exact h.2
  | step ready f next ih => exact ⟨h.1, fun hready => ih _ (h.2 hready)⟩

/-- The invariant holds wherever the procedure is stopped. -/
lemma Wp.interrupt (h : Wp I Q t s) (k : Nat) : I (t.interrupt k s) := by
  induction t generalizing s k with
  | ret a => cases k <;> exact h.1
  | step ready f next ih =>
    cases k with
    | zero => exact h.1
    | succ k =>
      simp only [Proc.interrupt]
      split
      · next hready => exact ih _ (h.2 hready) k
      · exact h.1

lemma Wp.outcome_snd (h : Wp I Q t s) : I (t.outcome s).2 := by
  induction t generalizing s with
  | ret a => exact h.1
  | step ready f next ih =>
    simp only [Proc.outcome]
    split
    · next hready => exact ih _ (h.2 hready)
    · exact h.1

/-- The postcondition holds of what the procedure returns. -/
lemma Wp.of_outcome (h : Wp I Q t s) {a : α} {s' : σ} (hout : t.outcome s = (some a, s')) :
    Q a s' := by
  induction t generalizing s with
  | ret b =>
    cases hout
    exact h.2
  | step ready f next ih =>
    simp only [Proc.outcome] at hout
    split at hout
    · next hready => exact ih _ (h.2 hready) hout
    · cases hout

end Wp

end Proc

/-! ## Calls that can fail -/

/-- A fallible call: an error ends it early. -/
abbrev Call (σ ε α : Type) := ExceptT ε (Proc σ) α

namespace Call

variable {σ α β ε : Type}

/-- Handle the result of a call, whatever it is. -/
def ofProc (t : Proc σ (Except ε α)) : Call σ ε α := t

def toProc (c : Call σ ε α) : Proc σ (Except ε α) := c

/-- How a call ends on its own: with a value or an error, unless it waits for ever. -/
def outcome (c : Call σ ε α) (s : σ) : Option (Except ε α) × σ :=
  Proc.outcome c.toProc s

lemma outcome_pure (a : α) (s : σ) : outcome (pure a : Call σ ε α) s = (some (.ok a), s) := rfl

lemma outcome_bind (c : Call σ ε α) (k : α → Call σ ε β) (s : σ) : outcome (c >>= k) s =
      match outcome c s with
      | (some (.ok a), s') => outcome (k a) s'
      | (some (.error e), s') => (some (.error e), s')
      | (none, s') => (none, s') := by
  refine (Proc.outcome_bind c.toProc _ s).trans ?_
  unfold outcome
  rcases Proc.outcome c.toProc s with ⟨_ | (_ | _), s'⟩ <;> rfl

variable {c : Call σ ε α} {s s' : σ}

lemma outcome_bind_ok {a : α} (h : outcome c s = (some (.ok a), s')) (k : α → Call σ ε β) :
    outcome (c >>= k) s = outcome (k a) s' := by
  rw [outcome_bind, h]

lemma outcome_bind_none (h : outcome c s = (none, s')) (k : α → Call σ ε β) :
    outcome (c >>= k) s = (none, s') := by
  rw [outcome_bind, h]

/-- The call ends with an error. -/
def Fails (c : Call σ ε α) (s : σ) : Prop :=
  ∃ e s', outcome c s = (some (.error e), s')

lemma Fails.bind (h : Fails c s) (k : α → Call σ ε β) : Fails (c >>= k) s := by
  rcases h with ⟨e, s', h⟩
  exact ⟨e, s', by rw [outcome_bind, h]⟩

lemma Fails.bind_ok {a : α} {k : α → Call σ ε β} (hk : Fails (k a) s')
    (h : outcome c s = (some (.ok a), s')) : Fails (c >>= k) s := by
  rwa [Fails, outcome_bind_ok h]

/-- A call keeps `I`, and returns a value with `Q` if it succeeds. -/
def Wp (I : σ → Prop) (Q : α → σ → Prop) (c : Call σ ε α) (s : σ) : Prop :=
  Proc.Wp I (fun r s => ∀ a, r = .ok a → Q a s) c.toProc s

section Wp

variable {I : σ → Prop} {Q : α → σ → Prop} {s : σ}

variable {c : Call σ ε α}

lemma Wp.now (h : Wp I Q c s) : I s := Proc.Wp.now h

lemma wp_pure {a : α} (hI : I s) (hQ : Q a s) : Wp I Q (pure a : Call σ ε α) s :=
  Proc.wp_pure hI fun _ h => by
    cases h
    exact hQ

lemma wp_act {op : σ → σ × Except ε α} (hI : I s) (hI' : I (op s).1)
    (hQ : ∀ a, (op s).2 = .ok a → Q a (op s).1) : Wp I Q (ofProc (Proc.act op)) s :=
  Proc.wp_act hI hI' hQ

lemma wp_throw {e : ε} (hI : I s) : Wp I Q (throw e : Call σ ε α) s :=
  Proc.wp_pure hI fun _ h => by cases h

lemma Wp.mono {Q' : α → σ → Prop} (h : Wp I Q c s) (hQ : ∀ a s, I s → Q a s → Q' a s) :
    Wp I Q' c s :=
  Proc.Wp.mono h fun _ s hI hr a ha => hQ a s hI (hr a ha)

lemma wp_bind {R : β → σ → Prop} {k : α → Call σ ε β} (h : Wp I (fun a s => Wp I R (k a) s) c s) :
    Wp I R (c >>= k) s := by
  refine Proc.wp_bind (Proc.Wp.mono h ?_)
  intro r s hI hr
  cases r with
  | ok a => exact hr a rfl
  | error e => exact Proc.wp_pure hI fun _ h => by cases h

end Wp

end Call

end ZLayer.Lib
