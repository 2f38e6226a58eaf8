import Mathlib.Logic.Function.Basic

/-!
# Prog — programs of atomic steps over a shared state

An asynchronous procedure that takes snapshots of a shared state and submits updates to it is a
tree: it is finished, or it reads the state, or it commits an update.  A read and a commit are each
atomic, and everything between two of them is local.  The same tree can be run alone, cut off
after a number of commits, or interleaved with the commits of other parties.
-/

namespace ZLayer.Lib

inductive Prog (σ α : Type) : Type
  | ret (a : α)
  /-- Take a snapshot and continue with it. -/
  | get (next : σ → Prog σ α)
  /-- Apply `f` to the state and continue with the state it was applied to. -/
  | commit (f : σ → σ) (next : σ → Prog σ α)

namespace Prog

variable {σ α β ε ι : Type}

/-! ## Sequencing -/

def bind : Prog σ α → (α → Prog σ β) → Prog σ β
  | ret a, k => k a
  | get next, k => get fun s => bind (next s) k
  | commit f next, k => commit f fun s => bind (next s) k

/-- Continue with the value of a successful outcome, stop at a failed one. -/
def andThen (p : Prog σ (Except ε α)) (k : α → Prog σ (Except ε β)) : Prog σ (Except ε β) :=
  bind p fun
    | .ok a => k a
    | .error e => ret (.error e)

def lift (o : Except ε α) (k : α → Prog σ (Except ε β)) : Prog σ (Except ε β) :=
  match o with
  | .ok a => k a
  | .error e => ret (.error e)

/-- Commit the actions `es` one after the other and finish with `a`. -/
def script (act : ε → σ → σ) : List ε → α → Prog σ α
  | [], a => ret a
  | e :: es, a => commit (act e) fun _ => script act es a

/-! ## A program on its own -/

def run : Prog σ α → σ → σ × α
  | ret a, s => (s, a)
  | get next, s => run (next s) s
  | commit f next, s => run (next s) (f s)

@[simp] lemma run_ret (a : α) (s : σ) : run (ret a) s = (s, a) := rfl

@[simp] lemma run_get (next : σ → Prog σ α) (s : σ) : run (get next) s = run (next s) s := rfl

@[simp] lemma run_commit (f : σ → σ) (next : σ → Prog σ α) (s : σ) :
    run (commit f next) s = run (next s) (f s) := rfl

lemma run_bind (p : Prog σ α) (k : α → Prog σ β) (s : σ) :
    run (bind p k) s = run (k (run p s).2) (run p s).1 := by
  induction p generalizing s with
  | ret a => rfl
  | get next ih => exact ih s s
  | commit f next ih => exact ih s (f s)

/-- The state a program leaves when it stops for good after `k` commits, or after all of them if
there are fewer. -/
def interrupt : Nat → Prog σ α → σ → σ
  | _, ret _, s => s
  | k, get next, s => interrupt k (next s) s
  | 0, commit _ _, s => s
  | k + 1, commit f next, s => interrupt k (next s) (f s)

@[simp] lemma interrupt_ret (k : Nat) (a : α) (s : σ) : interrupt k (ret a) s = s := by
  cases k <;> rfl

@[simp] lemma interrupt_get (k : Nat) (next : σ → Prog σ α) (s : σ) :
    interrupt k (get next) s = interrupt k (next s) s := by
  cases k <;> rfl

@[simp] lemma interrupt_commit_zero (f : σ → σ) (next : σ → Prog σ α) (s : σ) :
    interrupt 0 (commit f next) s = s := rfl

@[simp] lemma interrupt_commit_succ (k : Nat) (f : σ → σ) (next : σ → Prog σ α) (s : σ) :
    interrupt (k + 1) (commit f next) s = interrupt k (next s) (f s) := rfl

lemma run_script (act : ε → σ → σ) (es : List ε) (a : α) (s : σ) :
    run (script act es a) s = (es.foldl (fun s e => act e s) s, a) := by
  induction es generalizing s with
  | nil => rfl
  | cons e es ih => exact ih (act e s)

lemma interrupt_script (act : ε → σ → σ) (k : Nat) (es : List ε) (a : α) (s : σ) :
    interrupt k (script act es a) s = (es.take k).foldl (fun s e => act e s) s := by
  induction es generalizing k s with
  | nil => simp [script]
  | cons e es ih =>
    cases k with
    | zero => rfl
    | succ k => exact ih k (act e s)

/-! ## A program among others -/

/-- One atomic step; a finished program stays as it is. -/
def step : Prog σ α → σ → Prog σ α × σ
  | ret a, s => (ret a, s)
  | get next, s => (next s, s)
  | commit f next, s => (next s, f s)

def result : Prog σ α → Option α
  | ret a => some a
  | _ => none

/-- What happens next in a shared run: a step of the program, or an action of someone else. -/
inductive Event (ε : Type)
  | own
  | other (e : ε)
  deriving DecidableEq

/-- A program interleaved with the actions of others, in the order of the events. -/
def exec (act : ε → σ → σ) : List (Event ε) → Prog σ α × σ → Prog σ α × σ
  | [], c => c
  | .own :: es, c => exec act es (step c.1 c.2)
  | .other e :: es, c => exec act es (c.1, act e c.2)

namespace Event

def others : List (Event ε) → List ε
  | [] => []
  | own :: es => others es
  | other e :: es => e :: others es

def owns : List (Event ε) → Nat
  | [] => 0
  | own :: es => owns es + 1
  | other _ :: es => owns es

def untilOwn : Nat → List (Event ε) → List (Event ε)
  | 0, _ => []
  | _ + 1, [] => []
  | n + 1, own :: es => own :: untilOwn n es
  | n + 1, other e :: es => other e :: untilOwn (n + 1) es

def afterOwn : Nat → List (Event ε) → List (Event ε)
  | 0, es => es
  | _ + 1, [] => []
  | n + 1, own :: es => afterOwn n es
  | n + 1, other _ :: es => afterOwn (n + 1) es

end Event

section Interleaved

variable {δ : Type} (act : ε → σ → σ) (own : δ → σ → σ)

end Interleaved

end Prog

end ZLayer.Lib
