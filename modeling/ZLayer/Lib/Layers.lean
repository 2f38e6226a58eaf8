import Mathlib

/-!
# Layers — the nodes of a graph in waves

Nodes are laid out wave by wave: a node goes into the first wave in which everything it depends on
lies in an earlier one.  If some nodes are left and none of them can go, they lie on or behind a
cycle.  The nodes come from a hash set, so the order inside a wave is arbitrary.
-/

namespace ZLayer.Lib

/-- An order in which a hash set may be iterated. -/
structure SetOrder (α : Type) where
  list : Finset α → List α
  mem_list : ∀ s a, a ∈ list s ↔ a ∈ s
  nodup : ∀ s, (list s).Nodup

/-- Iteration in increasing order, by insertion so that it evaluates. -/
def SetOrder.sorted {α : Type} [LinearOrder α] : SetOrder α :=
  { list := fun s => s.val.liftOn (fun l => l.insertionSort (· ≤ ·)) fun a b (h : a.Perm b) =>
      List.Perm.eq_of_pairwise' (List.pairwise_insertionSort _ a) (List.pairwise_insertionSort _ b)
        (((List.perm_insertionSort _ a).trans h).trans (List.perm_insertionSort _ b).symm)
    mem_list := by
      rintro ⟨⟨l⟩, hl⟩ a
      exact (List.perm_insertionSort _ l).mem_iff
    nodup := by
      rintro ⟨⟨l⟩, hl⟩
      exact (List.perm_insertionSort _ l).nodup_iff.mpr hl }

namespace Layers

variable {α : Type}

/-- The node `a` depends on `d`. -/
def Dep (deps : α → List α) (d a : α) : Prop := d ∈ deps a

/-- A chain of `n` dependencies that starts at a node. -/
inductive Chain (deps : α → List α) : Nat → α → Prop
  | nil (a : α) : Chain deps 0 a
  | cons {n : Nat} {a d : α} (hd : d ∈ deps a) (h : Chain deps n d) : Chain deps (n + 1) a

/-- A finite set in which every node has a predecessor has a cycle. -/
lemma exists_cycle {R : α → α → Prop} {s : Finset α} (hs : s.Nonempty)
    (h : ∀ a ∈ s, ∃ d ∈ s, R d a) : ∃ a ∈ s, Relation.TransGen R a a := by
  by_contra hnone
  let below (x y : s) : Prop := Relation.TransGen R x y
  have htrans : IsTrans s below := ⟨fun _ _ _ hxy hyz => hxy.trans hyz⟩
  have hirrefl : Std.Irrefl below := ⟨fun x hx => hnone ⟨x, x.2, hx⟩⟩
  have hwf : WellFounded below := Finite.wellFounded_of_trans_of_irrefl below
  rcases hs with ⟨a, ha⟩
  rcases hwf.has_min Set.univ ⟨⟨a, ha⟩, trivial⟩ with ⟨least, -, hleast⟩
  rcases h least least.2 with ⟨d, hd, hdep⟩
  exact hleast ⟨d, hd⟩ trivial (.single hdep)

variable [DecidableEq α] (deps : α → List α) (order : SetOrder α)

/-- The nodes left whose dependencies are all assigned. -/
def layer (assigned remaining : Finset α) : List α :=
  (order.list remaining).filter fun a => (deps a).all fun d => d ∈ assigned

/-- The waves of the remaining nodes, or the nodes that are left when no wave can be formed.  Every
wave takes a node away, so their number is fuel enough. -/
def layers : Nat → Finset α → Finset α → Except (List α) (List (List α))
  | 0, _, _ => .ok []
  | fuel + 1, assigned, remaining =>
    if remaining = ∅ then .ok []
    else
      let wave := layer deps order assigned remaining
      if wave = [] then .error (order.list remaining)
      else
        (layers fuel (assigned ∪ wave.toFinset) (remaining \ wave.toFinset)).map (wave :: ·)

variable {deps order} {assigned remaining : Finset α} {fuel : Nat} {waves : List (List α)}

lemma mem_layer {a : α} :
    a ∈ layer deps order assigned remaining ↔ a ∈ remaining ∧ ∀ d ∈ deps a, d ∈ assigned := by
  simp [layer, order.mem_list]

lemma card_sdiff_layer (hcard : remaining.card ≤ fuel + 1)
    (hwave : layer deps order assigned remaining ≠ []) :
    (remaining \ (layer deps order assigned remaining).toFinset).card ≤ fuel := by
  rcases List.exists_mem_of_ne_nil _ hwave with ⟨a, ha⟩
  have hsub : remaining \ (layer deps order assigned remaining).toFinset ⊂ remaining := by
    refine Finset.sdiff_ssubset ?_ ⟨a, List.mem_toFinset.mpr ha⟩
    intro b hb
    exact (mem_layer.mp (List.mem_toFinset.mp hb)).1
  have hlt := Finset.card_lt_card hsub
  omega

/-- The waves as far as they are laid out. -/
inductive Laid (deps : α → List α) : Finset α → Finset α → List (List α) → Prop
  | done (assigned : Finset α) : Laid deps assigned ∅ []
  | wave {assigned remaining : Finset α} {wave : List α} {waves : List (List α)}
      (hnodup : wave.Nodup)
      (hmem : ∀ a, a ∈ wave ↔ a ∈ remaining ∧ ∀ d ∈ deps a, d ∈ assigned)
      (hrest : Laid deps (assigned ∪ wave.toFinset) (remaining \ wave.toFinset) waves) :
      Laid deps assigned remaining (wave :: waves)

lemma laid_of_layers (hcard : remaining.card ≤ fuel)
    (h : layers deps order fuel assigned remaining = .ok waves) :
    Laid deps assigned remaining waves := by
  induction fuel generalizing assigned remaining waves with
  | zero =>
    cases h
    rw [Finset.card_eq_zero.mp (Nat.le_zero.mp hcard)]
    exact .done assigned
  | succ fuel ih =>
    rw [layers] at h
    split at h
    next hempty =>
      cases h
      rw [hempty]
      exact .done assigned
    next =>
      dsimp only at h
      split at h
      · cases h
      next hwave =>
        cases hrest : layers deps order fuel
            (assigned ∪ (layer deps order assigned remaining).toFinset)
            (remaining \ (layer deps order assigned remaining).toFinset) with
        | error left =>
          rw [hrest] at h
          cases h
        | ok rest =>
          rw [hrest] at h
          cases h
          exact .wave ((order.nodup remaining).filter _) (fun a => mem_layer)
            (ih (card_sdiff_layer hcard hwave) hrest)

/-- When no wave can be formed, every node of a nonempty set waits for a node that is in the set or
was never there. -/
lemma stuck_of_layers {left : List α}
    (h : layers deps order fuel assigned remaining = .error left) :
    ∃ s ⊆ remaining, s.Nonempty ∧
      ∀ a ∈ s, ∃ d ∈ deps a, d ∉ assigned ∧ (d ∈ remaining → d ∈ s) := by
  induction fuel generalizing assigned remaining left with
  | zero => cases h
  | succ fuel ih =>
    rw [layers] at h
    split at h
    · cases h
    next hne =>
      dsimp only at h
      split at h
      next hwave =>
        refine ⟨remaining, subset_rfl, Finset.nonempty_iff_ne_empty.mpr hne, fun a ha => ?_⟩
        have hnot : a ∉ layer deps order assigned remaining := by simp [hwave]
        rw [mem_layer] at hnot
        have hsome : ∃ d ∈ deps a, d ∉ assigned := by
          by_contra hall
          push Not at hall
          exact hnot ⟨ha, hall⟩
        rcases hsome with ⟨d, hd, hdnot⟩
        exact ⟨d, hd, hdnot, id⟩
      next =>
        cases hrest : layers deps order fuel
            (assigned ∪ (layer deps order assigned remaining).toFinset)
            (remaining \ (layer deps order assigned remaining).toFinset) with
        | ok rest =>
          rw [hrest] at h
          cases h
        | error rest =>
          rcases ih hrest with ⟨s, hs, hne, hstuck⟩
          refine ⟨s, hs.trans Finset.sdiff_subset, hne, fun a ha => ?_⟩
          rcases hstuck a ha with ⟨d, hd, hdnot, hdrem⟩
          rw [Finset.mem_union, not_or] at hdnot
          exact ⟨d, hd, hdnot.1, fun hmem => hdrem (Finset.mem_sdiff.mpr ⟨hmem, hdnot.2⟩)⟩

namespace Laid

lemma mem_flatten (h : Laid deps assigned remaining waves) (a : α) :
    a ∈ waves.flatten ↔ a ∈ remaining := by
  induction h with
  | done => simp
  | @wave _ _ first _ hnodup hmem _ ih =>
    rw [List.flatten_cons, List.mem_append, ih, Finset.mem_sdiff, List.mem_toFinset]
    constructor
    · rintro (hwave | hrest)
      · exact ((hmem a).mp hwave).1
      · exact hrest.1
    · intro ha
      by_cases hwave : a ∈ first
      · exact .inl hwave
      · exact .inr ⟨ha, hwave⟩

lemma nodup_flatten (h : Laid deps assigned remaining waves) : waves.flatten.Nodup := by
  induction h with
  | done => exact List.nodup_nil
  | wave hnodup hmem hrest ih =>
    rw [List.flatten_cons, List.nodup_append']
    refine ⟨hnodup, ih, fun a ha hlater => ?_⟩
    rw [hrest.mem_flatten, Finset.mem_sdiff] at hlater
    exact hlater.2 (List.mem_toFinset.mpr ha)

/-- What a node of a wave depends on was assigned or lies in an earlier wave. -/
lemma dep_mem (h : Laid deps assigned remaining waves) {before after : List (List α)}
    {wave : List α} (hsplit : waves = before ++ wave :: after) {a d : α} (ha : a ∈ wave)
    (hd : d ∈ deps a) : d ∈ assigned ∨ d ∈ before.flatten := by
  induction h generalizing before with
  | done => simp at hsplit
  | wave hnodup hmem hrest ih =>
    cases before with
    | nil =>
      cases hsplit
      exact .inl (((hmem a).mp ha).2 d hd)
    | cons first before =>
      cases hsplit
      rcases ih rfl with hassigned | hbefore
      · rcases Finset.mem_union.mp hassigned with hold | hnew
        · exact .inl hold
        · exact .inr (by simp [List.mem_toFinset.mp hnew])
      · exact .inr (by rw [List.flatten_cons, List.mem_append]; exact .inr hbefore)

/-- Everything a node depends on, however indirectly, lies in an earlier wave. -/
lemma transDep_mem (h : Laid deps ∅ remaining waves) {a d : α}
    (hd : Relation.TransGen (Dep deps) d a) :
    ∀ {before after : List (List α)} {wave : List α}, waves = before ++ wave :: after → a ∈ wave →
      d ∈ before.flatten := by
  induction hd with
  | single hdep =>
    intro before after wave hsplit ha
    exact (h.dep_mem hsplit ha hdep).resolve_left (Finset.notMem_empty _)
  | tail _ hdep ih =>
    intro before after wave hsplit ha
    have hmid := (h.dep_mem hsplit ha hdep).resolve_left (Finset.notMem_empty _)
    -- the node in between lies in a wave of its own before this one
    rcases List.mem_flatten.mp hmid with ⟨earlier, hearlier, hin⟩
    rcases List.append_of_mem hearlier with ⟨front, back, rfl⟩
    have hfront := ih (by rw [hsplit, List.append_assoc, List.cons_append]) hin
    rw [List.flatten_append, List.mem_append]
    exact .inl hfront

/-- Nodes that are laid out are on no cycle. -/
lemma acyclic (h : Laid deps ∅ remaining waves) {a : α} (ha : a ∈ remaining) :
    ¬ Relation.TransGen (Dep deps) a a := by
  intro hcycle
  rcases List.mem_flatten.mp ((h.mem_flatten a).mpr ha) with ⟨wave, hwave, hin⟩
  rcases List.append_of_mem hwave with ⟨before, after, rfl⟩
  have hbefore := h.transDep_mem hcycle rfl hin
  have hnodup := h.nodup_flatten
  rw [List.flatten_append, List.nodup_append'] at hnodup
  exact hnodup.2.2 hbefore (by rw [List.flatten_cons, List.mem_append]; exact .inl hin)

/-- The nodes of a wave have as many dependencies in a chain as there are waves before it.  In the
induction `k` waves are assigned, and every node left is the start of a chain of that length. -/
lemma depth (h : Laid deps assigned remaining waves) {k : Nat}
    (hclosed : ∀ a ∈ remaining, ∀ d ∈ deps a, d ∈ assigned ∨ d ∈ remaining)
    (hassigned : ∀ d ∈ assigned, ∀ n, Chain deps n d → n < k)
    (hremaining : ∀ a ∈ remaining, Chain deps k a) {i : Nat} {wave : List α}
    (hwave : waves[i]? = some wave) {a : α} (ha : a ∈ wave) :
    Chain deps (k + i) a ∧ ∀ n, Chain deps n a → n ≤ k + i := by
  induction h generalizing k i with
  | done => simp at hwave
  | @wave assigned remaining first _ hnodup hmem hrest ih =>
    have hfirst : ∀ b ∈ first, ∀ n, Chain deps n b → n ≤ k := by
      intro b hb n hchain
      cases hchain with
      | nil => exact Nat.zero_le k
      | cons hd hchain => exact hassigned _ (((hmem b).mp hb).2 _ hd) _ hchain
    cases i with
    | zero =>
      cases hwave
      exact ⟨hremaining a ((hmem a).mp ha).1, hfirst a ha⟩
    | succ i =>
      rw [← Nat.succ_add_eq_add_succ]
      refine ih ?_ ?_ ?_ hwave
      · intro b hb d hd
        by_cases hdfirst : d ∈ first
        · simp [hdfirst]
        · simpa [hdfirst] using hclosed b (Finset.mem_sdiff.mp hb).1 d hd
      · intro d hd n hchain
        rcases Finset.mem_union.mp hd with hold | hnew
        · exact Nat.lt_succ_of_lt (hassigned d hold n hchain)
        · exact Nat.lt_succ_of_le (hfirst d (List.mem_toFinset.mp hnew) n hchain)
      · intro b hb
        rcases Finset.mem_sdiff.mp hb with ⟨hleft, hlater⟩
        have hwaits : ∃ d ∈ deps b, d ∉ assigned := by
          by_contra hnone
          push Not at hnone
          exact hlater (List.mem_toFinset.mpr ((hmem b).mpr ⟨hleft, hnone⟩))
        rcases hwaits with ⟨d, hd, hnot⟩
        exact .cons hd (hremaining d ((hclosed b hleft d hd).resolve_left hnot))

end Laid

/-- Once there is fuel for every node, more of it changes nothing. -/
lemma layers_eq_layers {more : Nat} (hcard : remaining.card ≤ fuel)
    (hmore : remaining.card ≤ more) :
    layers deps order fuel assigned remaining = layers deps order more assigned remaining := by
  induction fuel generalizing more assigned remaining with
  | zero =>
    have hempty : remaining = ∅ := Finset.card_eq_zero.mp (Nat.le_zero.mp hcard)
    cases more <;> simp [layers, hempty]
  | succ fuel ih =>
    cases more with
    | zero => simp [layers, Finset.card_eq_zero.mp (Nat.le_zero.mp hmore)]
    | succ more =>
      simp only [layers]
      split
      · rfl
      · split
        · rfl
        next hwave => rw [ih (card_sdiff_layer hcard hwave) (card_sdiff_layer hmore hwave)]

/-- The waves of a closed graph can be laid out exactly if it has no cycle. -/
lemma layers_eq_error_iff (hclosed : ∀ a ∈ remaining, ∀ d ∈ deps a, d ∈ remaining) :
    (∃ left, layers deps order remaining.card ∅ remaining = .error left) ↔
      ∃ a ∈ remaining, Relation.TransGen (Dep deps) a a := by
  constructor
  · rintro ⟨left, h⟩
    rcases stuck_of_layers h with ⟨s, hs, hne, hstuck⟩
    have hpred : ∀ a ∈ s, ∃ d ∈ s, Dep deps d a := by
      intro a ha
      rcases hstuck a ha with ⟨d, hd, -, hdrem⟩
      exact ⟨d, hdrem (hclosed a (hs ha) d hd), hd⟩
    rcases exists_cycle hne hpred with ⟨a, ha, hcycle⟩
    exact ⟨a, hs ha, hcycle⟩
  · rintro ⟨a, ha, hcycle⟩
    cases h : layers deps order remaining.card ∅ remaining with
    | error left => exact ⟨left, rfl⟩
    | ok waves => exact absurd hcycle ((laid_of_layers le_rfl h).acyclic ha)

end Layers
end ZLayer.Lib
