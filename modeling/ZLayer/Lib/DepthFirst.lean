import ZLayer.Lib.HashMap
import ZLayer.Lib.Layers

/-!
# DepthFirst — search for a cycle with three colours

A node is white before the search comes to it, gray while its dependencies are visited, and black
afterwards.  The gray nodes are those of the search path, each linked to the one it was reached
from.  A dependency that is gray closes a cycle, which is read off the links.  A node that turns
black has only black dependencies, so no cycle can be reached from it.

The graph is a map from a node to the list of its dependencies.  The recursion and the walk back
along the links carry fuel; the number of nodes is enough for both.
-/

namespace ZLayer.Lib
namespace DepthFirst

open Layers List HashMap

inductive Color
  | white
  | gray
  | black
  deriving DecidableEq

section Search

variable {α : Type} [Ord α] [Std.TransOrd α] [Std.LawfulEqOrd α] [DecidableEq α]

structure Marks (α : Type) [Ord α] where
  color : HashMap α Color
  parent : HashMap α (Option α)

/-- How a search ends. -/
inductive Search (α : Type) [Ord α]
  | done (marks : Marks α)
  | cycle (path : List α)
  | outOfFuel

/-- Go on with the marks unless the search has ended. -/
def Search.andThen {α : Type} [Ord α] (s : Search α) (next : Marks α → Search α) : Search α :=
  match s with
  | .done marks => next marks
  | .cycle path => .cycle path
  | .outOfFuel => .outOfFuel

/-- Follow the links from `current` until `dep`, collecting the nodes on the way. -/
def walkBack (parent : HashMap α (Option α)) (dep : α) : Nat → α → List α → Option (List α)
  | 0, _, _ => none
  | fuel + 1, current, cycle =>
    if current = dep then some cycle
    else
      match parent[current]? with
      | some (some p) => walkBack parent dep fuel p (cycle ++ [current])
      | _ => some (cycle ++ [current])

/-- The loop over the dependencies of `node`. -/
def visitDeps (visit : α → Marks α → Search α) (size : Nat) (node : α) : List α → Marks α → Search α
  | [], marks => .done marks
  | dep :: deps, marks =>
    match marks.color[dep]? with
    | some .white =>
      (visit dep { marks with parent := marks.parent.insert dep (some node) }).andThen
        (visitDeps visit size node deps)
    | some .gray =>
      match walkBack marks.parent dep size node [dep] with
      | some cycle => .cycle (cycle ++ [dep]).reverse
      | none => .outOfFuel
    | _ => visitDeps visit size node deps marks

def depsOf (adjacency : HashMap α (List α)) (node : α) : List α := adjacency[node]?.getD []

def visit (adjacency : HashMap α (List α)) (size : Nat) : Nat → α → Marks α → Search α
  | 0, _, _ => .outOfFuel
  | fuel + 1, node, marks =>
    (visitDeps (visit adjacency size fuel) size node (depsOf adjacency node)
      { marks with color := marks.color.insert node .gray }).andThen fun marks =>
        .done { marks with color := marks.color.insert node .black }

/-- A search from every node that is still white. -/
def visitAll (adjacency : HashMap α (List α)) (size : Nat) : List α → Marks α → Search α
  | [], marks => .done marks
  | start :: rest, marks =>
    if marks.color[start]? = some .white then
      (visit adjacency size size start marks).andThen (visitAll adjacency size rest)
    else visitAll adjacency size rest marks

end Search

/-! ## Cycles -/

section Cycle

variable {α : Type}

/-- A path along dependencies that comes back to where it started. -/
def IsCycle (deps : α → List α) (path : List α) : Prop :=
  ∃ a inner, path = a :: inner ++ [a] ∧ path.IsChain fun x y => y ∈ deps x

lemma transGen_of_isChain {R : α → α → Prop} {a b : α} {inner : List α}
    (h : (a :: inner ++ [b]).IsChain R) : Relation.TransGen R a b := by
  induction inner generalizing a with
  | nil => exact .single (by simpa using h)
  | cons c inner ih =>
    rw [cons_append, cons_append, isChain_cons_cons] at h
    exact .head h.1 (ih h.2)

end Cycle

/-! ## What a search keeps -/

section Correct

variable {α : Type} [Ord α] [Std.TransOrd α]
  {deps : α → List α} {nodes : Finset α} {stack : List α} {marks : Marks α} {node : α}

/-- `child` was reached from its dependent `p`. -/
def Linked (deps : α → List α) (parent : HashMap α (Option α)) (child p : α) : Prop :=
  parent[child]? = some (some p) ∧ child ∈ deps p

/-- The marks of the nodes while the search path is `stack`, its last node first. -/
structure Marked (deps : α → List α) (nodes : Finset α) (stack : List α) (marks : Marks α) :
    Prop where
  colored : ∀ a, (∃ c, marks.color[a]? = some c) ↔ a ∈ nodes
  gray : ∀ a, marks.color[a]? = some .gray ↔ a ∈ stack
  linked : stack.IsChain (Linked deps marks.parent)
  black : ∀ a, marks.color[a]? = some .black → Acc (Dep deps) a
  nodup : stack.Nodup
  inside : ∀ a ∈ stack, a ∈ nodes

/-- Later marks: no node turns white, and black nodes stay black. -/
structure Later (before after : Marks α) : Prop where
  white : ∀ a : α, after.color[a]? = some .white → before.color[a]? = some .white
  black : ∀ a : α, before.color[a]? = some .black → after.color[a]? = some .black

lemma Later.refl (marks : Marks α) : Later marks marks :=
  ⟨fun _ h => h, fun _ h => h⟩

lemma Later.trans {m₁ m₂ m₃ : Marks α} (h₁ : Later m₁ m₂) (h₂ : Later m₂ m₃) : Later m₁ m₃ :=
  ⟨fun a h => h₁.white a (h₂.white a h), fun a h => h₂.black a (h₁.black a h)⟩

def whites (nodes : Finset α) (marks : Marks α) : Finset α :=
  nodes.filter fun a => marks.color[a]? = some .white

lemma Later.whites_subset {before after : Marks α} (h : Later before after) :
    whites nodes after ⊆ whites nodes before := by
  intro a ha
  rcases Finset.mem_filter.mp ha with ⟨hmem, hwhite⟩
  exact Finset.mem_filter.mpr ⟨hmem, h.white a hwhite⟩

/-- What a search comes to that started from `marks` and had to visit `ds`. -/
def Visited (deps : α → List α) (nodes : Finset α) (stack : List α) (marks : Marks α)
    (ds : List α) :
    Search α → Prop
  | .done after => Marked deps nodes stack after ∧ Later marks after ∧
      ∀ d ∈ ds, after.color[d]? = some .black
  | .cycle path => IsCycle deps path
  | .outOfFuel => False

lemma Visited.andThen {before : Marks α} {stack' ds ds' : List α} {s : Search α}
    {next : Marks α → Search α} (h : Visited deps nodes stack before ds s)
    (hnext : ∀ after, Marked deps nodes stack after → Later before after →
      (∀ d ∈ ds, after.color[d]? = some .black) →
      Visited deps nodes stack' marks ds' (next after)) :
    Visited deps nodes stack' marks ds' (s.andThen next) := by
  cases s with
  | done after => exact hnext after h.1 h.2.1 h.2.2
  | cycle path => exact h
  | outOfFuel => exact h

/-- A search that started later, when `d` was black already. -/
lemma Visited.earlier {after : Marks α} {ds : List α} {s : Search α}
    (h : Visited deps nodes stack after ds s) (hlater : Later marks after) {d : α}
    (hblack : after.color[d]? = some .black) : Visited deps nodes stack marks (d :: ds) s := by
  cases s with
  | done final =>
    exact ⟨h.1, hlater.trans h.2.1,
      forall_mem_cons.mpr ⟨h.2.1.black d hblack, h.2.2⟩⟩
  | cycle path => exact h
  | outOfFuel => exact h

variable [DecidableEq α]

lemma Marked.start
    (hcolor : ∀ a : α, marks.color[a]? = if a ∈ nodes then some .white else none) :
    Marked deps nodes [] marks where
  colored a := by simp [hcolor]
  gray a := by simp [hcolor]
  linked := isChain_nil
  black a h := by simp [hcolor] at h
  nodup := nodup_nil
  inside _ h := absurd h not_mem_nil

/-- The walk back along the links of the path ends at the gray dependency. -/
lemma walkBack_linked {parent : HashMap α (Option α)} {dep current : α} {front back cycle : List α}
    {fuel : Nat} (hlinked : (front ++ dep :: back).IsChain (Linked deps parent))
    (hnot : dep ∉ front) (hhead : (front ++ dep :: back).head? = some current)
    (hfuel : front.length < fuel) :
    walkBack parent dep fuel current cycle = some (cycle ++ front) := by
  induction front generalizing current cycle fuel with
  | nil =>
    obtain ⟨fuel, rfl⟩ := Nat.exists_eq_add_of_lt hfuel
    obtain rfl : dep = current := by simpa using hhead
    simp [walkBack]
  | cons first front ih =>
    obtain ⟨fuel, rfl⟩ : ∃ k, fuel = k + 1 := ⟨fuel - 1, by omega⟩
    obtain rfl : first = current := by simpa using hhead
    have hne : first ≠ dep := fun h => hnot (h ▸ mem_cons_self)
    obtain ⟨p, hp⟩ : ∃ p, (front ++ dep :: back).head? = some p := by
      cases front <;> exact ⟨_, rfl⟩
    have hlink : parent[first]? = some (some p) := by
      cases front with
      | nil =>
        obtain rfl : dep = p := by simpa using hp
        exact (isChain_cons_cons.mp hlinked).1.1
      | cons second front =>
        obtain rfl : second = p := by simpa using hp
        exact (isChain_cons_cons.mp hlinked).1.1
    rw [walkBack, if_neg hne]
    simp only [hlink]
    rw [ih hlinked.tail (fun h => hnot (mem_cons_of_mem _ h)) hp (by simpa using hfuel)]
    simp

/-- A gray dependency of the node on top of the path closes a cycle, which is found. -/
lemma exists_walkBack (h : Marked deps nodes (node :: stack) marks) {dep : α}
    (hdep : dep ∈ deps node) (hgray : marks.color[dep]? = some .gray) {size : Nat}
    (hsize : nodes.card ≤ size) :
    ∃ cycle, walkBack marks.parent dep size node [dep] = some cycle ∧
      IsCycle deps (cycle ++ [dep]).reverse := by
  have hmem : dep ∈ node :: stack := (h.gray dep).mp hgray
  rcases append_of_mem hmem with ⟨front, back, hsplit⟩
  have hlinked := h.linked
  have hnodup := h.nodup
  rw [hsplit] at hlinked hnodup
  have hnot : dep ∉ front := by
    intro hfront
    exact (nodup_append'.mp hnodup).2.2 hfront mem_cons_self
  have hfuel : front.length < size := by
    have hsub : (node :: stack).toFinset ⊆ nodes := by
      intro a ha
      exact h.inside a (mem_toFinset.mp ha)
    have hcard := Finset.card_le_card hsub
    rw [toFinset_card_of_nodup h.nodup, hsplit] at hcard
    simp only [length_append, length_cons] at hcard
    omega
  have hhead : (front ++ dep :: back).head? = some node := by rw [← hsplit]; rfl
  refine ⟨[dep] ++ front, walkBack_linked hlinked hnot hhead hfuel, dep, front.reverse, ?_, ?_⟩
  · simp
  · rw [isChain_reverse]
    -- the path up to the dependency, with the closing edge in front
    have hchain : (front ++ [dep]).IsChain fun child p => child ∈ deps p := by
      rw [append_cons] at hlinked
      exact hlinked.left_of_append.imp fun _ _ hlink => hlink.2
    rw [append_assoc, singleton_append, isChain_cons]
    refine ⟨fun first hfirst => ?_, hchain⟩
    have hsame : (front ++ [dep]).head? = (front ++ dep :: back).head? := by
      cases front <;> rfl
    rw [hsame, hhead] at hfirst
    cases hfirst
    exact hdep

variable [Std.LawfulEqOrd α]

lemma Marked.link (h : Marked deps nodes stack marks) {dep : α}
    (hwhite : marks.color[dep]? = some .white) :
    Marked deps nodes stack { marks with parent := marks.parent.insert dep (some node) } where
  colored := h.colored
  gray := h.gray
  linked := by
    refine List.IsChain.imp_of_mem_imp ?_ h.linked
    intro child p hchild _ hlink
    have hne : dep ≠ child := by
      rintro rfl
      rw [(h.gray dep).mpr hchild] at hwhite
      cases hwhite
    exact ⟨by rw [lookup_insert_of_ne _ _ hne]; exact hlink.1, hlink.2⟩
  black := h.black
  nodup := h.nodup
  inside := h.inside

lemma Marked.enter (h : Marked deps nodes stack marks) (hnode : node ∈ nodes)
    (hwhite : marks.color[node]? = some .white)
    (hlink : ∀ p ∈ stack.head?, Linked deps marks.parent node p) :
    Marked deps nodes (node :: stack) { marks with color := marks.color.insert node .gray } where
  colored a := by
    rw [lookup_insert]
    split
    next hsame => exact iff_of_true ⟨_, rfl⟩ (hsame ▸ hnode)
    · exact h.colored a
  gray a := by
    rw [lookup_insert, mem_cons]
    split
    next hsame => simp [hsame]
    next hne => rw [h.gray]; simp [Ne.symm hne]
  linked := isChain_cons.mpr ⟨hlink, h.linked⟩
  black a hblack := by
    rcases of_lookup_insert hblack with ⟨-, ⟨⟩⟩ | ⟨-, hold⟩
    exact h.black a hold
  nodup := by
    refine nodup_cons.mpr ⟨fun hmem => ?_, h.nodup⟩
    rw [(h.gray node).mpr hmem] at hwhite
    cases hwhite
  inside := forall_mem_cons.mpr ⟨hnode, h.inside⟩

lemma Later.enter (hwhite : marks.color[node]? = some .white) :
    Later marks { marks with color := marks.color.insert node .gray } where
  white a ha := by
    rcases of_lookup_insert ha with ⟨-, ⟨⟩⟩ | ⟨-, hold⟩
    exact hold
  black a ha := by
    rw [lookup_insert]
    split
    next hsame =>
      rw [← hsame, hwhite] at ha
      cases ha
    · exact ha

lemma card_whites_enter (hnode : node ∈ nodes) (hwhite : marks.color[node]? = some .white) :
    (whites nodes { marks with color := marks.color.insert node .gray }).card <
      (whites nodes marks).card := by
  apply Finset.card_lt_card
  refine Finset.ssubset_iff_of_subset ?_ |>.mpr ⟨node, ?_, ?_⟩
  · exact (Later.enter hwhite).whites_subset
  · exact Finset.mem_filter.mpr ⟨hnode, hwhite⟩
  · simp [whites, lookup_insert]

lemma Marked.leave (h : Marked deps nodes (node :: stack) marks)
    (hdeps : ∀ d ∈ deps node, marks.color[d]? = some .black) :
    Marked deps nodes stack { marks with color := marks.color.insert node .black } where
  colored a := by
    rw [lookup_insert]
    split
    next hsame => exact iff_of_true ⟨_, rfl⟩ (hsame ▸ h.inside node mem_cons_self)
    · exact h.colored a
  gray a := by
    rw [lookup_insert]
    split
    next hsame =>
      subst hsame
      exact iff_of_false (by simp) (nodup_cons.mp h.nodup).1
    next hne => rw [h.gray]; simp [Ne.symm hne]
  linked := h.linked.tail
  black a hblack := by
    rcases of_lookup_insert hblack with ⟨rfl, -⟩ | ⟨-, hold⟩
    · exact Acc.intro _ fun d hd => h.black d (hdeps d hd)
    · exact h.black a hold
  nodup := (nodup_cons.mp h.nodup).2
  inside := (forall_mem_cons.mp h.inside).2

lemma Later.leave (marks : Marks α) (node : α) :
    Later marks { marks with color := marks.color.insert node .black } where
  white a ha := by
    rcases of_lookup_insert ha with ⟨-, ⟨⟩⟩ | ⟨-, hold⟩
    exact hold
  black a ha := by
    rw [lookup_insert]
    split
    · rfl
    · exact ha

section Run

variable {adjacency : HashMap α (List α)} {size : Nat}

/-- The loop passes over what is not among the nodes. -/
lemma visitDeps_visited {visit : α → Marks α → Search α} {bound : Nat}
    (hsize : nodes.card ≤ size)
    (hvisit : ∀ (marks : Marks α) (d : α), d ∈ nodes → marks.color[d]? = some .white →
      Marked deps nodes (node :: stack) marks → Linked deps marks.parent d node →
      (whites nodes marks).card ≤ bound →
      Visited deps nodes (node :: stack) marks [d] (visit d marks))
    (ds : List α) (hds : ∀ d ∈ ds, d ∈ nodes → d ∈ deps node)
    (hmarked : Marked deps nodes (node :: stack) marks)
    (hbound : (whites nodes marks).card ≤ bound) :
    Visited deps nodes (node :: stack) marks (ds.filter (· ∈ nodes))
      (visitDeps visit size node ds marks) := by
  induction ds generalizing marks with
  | nil => exact ⟨hmarked, .refl _, by simp⟩
  | cons dep ds ih =>
    rcases forall_mem_cons.mp hds with ⟨hdep, hrest⟩
    have hnode := hmarked.colored dep
    rw [visitDeps]
    cases hcolor : marks.color[dep]? with
    | none =>
      have hnot : dep ∉ nodes := by simpa [hcolor] using hnode
      simpa [hnot] using ih hrest hmarked hbound
    | some c =>
      replace hnode : dep ∈ nodes := hnode.mp ⟨c, hcolor⟩
      replace hdep := hdep hnode
      rw [filter_cons_of_pos (by simpa using hnode)]
      cases c with
      | white =>
        let linked : Marks α :=
          { marks with parent := marks.parent.insert dep (some node) }
        have hlinked : Marked deps nodes (node :: stack) linked := hmarked.link hcolor
        have hlink : Linked deps (marks.parent.insert dep (some node)) dep node :=
          ⟨Std.ExtTreeMap.getElem?_insert_self, hdep⟩
        refine (hvisit linked dep hnode hcolor hlinked hlink hbound).andThen ?_
        intro after hafter hlater hblack
        have hmore := ih hrest hafter ((Finset.card_le_card hlater.whites_subset).trans hbound)
        have hfrom : Later marks after := ⟨hlater.white, hlater.black⟩
        exact hmore.earlier hfrom (hblack dep (by simp))
      | gray =>
        rcases exists_walkBack hmarked hdep hcolor hsize with ⟨cycle, hwalk, hcycle⟩
        simp only [hwalk]
        exact hcycle
      | black => exact (ih hrest hmarked hbound).earlier (.refl _) hcolor

/-- A search from a white node, with fuel for the white nodes there are. -/
lemma visit_visited (hdeps : ∀ a, deps a = (depsOf adjacency a).filter (· ∈ nodes))
    (hsize : nodes.card ≤ size) {fuel : Nat} (hnode : node ∈ nodes)
    (hwhite : marks.color[node]? = some .white)
    (hmarked : Marked deps nodes stack marks)
    (hlink : ∀ p ∈ stack.head?, Linked deps marks.parent node p)
    (hfuel : (whites nodes marks).card ≤ fuel) :
    Visited deps nodes stack marks [node] (visit adjacency size fuel node marks) := by
  induction fuel generalizing node stack marks with
  | zero =>
    have hmem : node ∈ whites nodes marks := Finset.mem_filter.mpr ⟨hnode, hwhite⟩
    rw [Finset.card_eq_zero.mp (Nat.le_zero.mp hfuel)] at hmem
    exact absurd hmem (Finset.notMem_empty _)
  | succ fuel ih =>
    have hentered := hmarked.enter hnode hwhite hlink
    have hfewer := card_whites_enter hnode hwhite
    rw [visit]
    have hall := visitDeps_visited hsize
      (fun marks d hd hwhite hmarked hlink hbound => ih hd hwhite hmarked
        (fun p hp => by cases hp; exact hlink) hbound)
      (depsOf adjacency node) (fun d hd hin => by simp [hdeps, hd, hin]) hentered (by omega)
    rw [← hdeps] at hall
    refine hall.andThen fun after hafter hlater hblack => ⟨hafter.leave hblack, ?_, ?_⟩
    · exact ((Later.enter hwhite).trans hlater).trans (Later.leave after node)
    · simp [lookup_insert]

lemma visitAll_visited (hdeps : ∀ a, deps a = (depsOf adjacency a).filter (· ∈ nodes))
    (hsize : nodes.card ≤ size) (starts : List α) (hstarts : ∀ a ∈ starts, a ∈ nodes)
    (hmarked : Marked deps nodes [] marks) :
    Visited deps nodes [] marks starts (visitAll adjacency size starts marks) := by
  induction starts generalizing marks with
  | nil => exact ⟨hmarked, .refl _, by simp⟩
  | cons start rest ih =>
    rcases forall_mem_cons.mp hstarts with ⟨hstart, hrest⟩
    rw [visitAll]
    split
    next hwhite =>
      have hfuel : (whites nodes marks).card ≤ size :=
        (Finset.card_le_card (Finset.filter_subset _ _)).trans hsize
      refine (visit_visited hdeps hsize hstart hwhite hmarked (by simp) hfuel).andThen ?_
      intro after hafter hlater hblack
      exact (ih hrest hafter).earlier hlater (hblack start (by simp))
    next hnot =>
      -- between two searches no node is gray
      have hblack : marks.color[start]? = some .black := by
        rcases (hmarked.colored start).mpr hstart with ⟨c, hc⟩
        cases c with
        | white => exact absurd hc hnot
        | gray => exact absurd ((hmarked.gray start).mp hc) not_mem_nil
        | black => exact hc
      exact (ih hrest hmarked).earlier (.refl _) hblack

end Run

end Correct

end DepthFirst
end ZLayer.Lib
