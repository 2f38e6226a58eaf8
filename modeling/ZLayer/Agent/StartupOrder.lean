import ZLayer.Agent.Dependency

/-!
# StartupOrder — which dependencies are accepted, and the order they give

A service map is accepted exactly if its dependencies name other services of the map and do not go
round in a circle.  A dependency may be listed twice: it then has two edges in both adjacency lists,
and the counters of the sort still come out.
-/

namespace ZLayer.Agent

open Lib List DepthFirst HashMap

namespace DependencyGraph

variable {services : HashMap String ServiceSpec}

def dependencies (services : HashMap String ServiceSpec) (name : String) : List String :=
  match services[name]? with
  | some spec => spec.depends.map DependsSpec.service
  | none => []

/-- Every dependency names another service of the map, and no service depends on itself through
others. -/
structure Valid (services : HashMap String ServiceSpec) : Prop where
  known : ∀ name, ∀ dep ∈ dependencies services name, dep ∈ services
  others : ∀ name, name ∉ dependencies services name
  acyclic : ∀ name, ¬ Relation.TransGen (fun a d => d ∈ dependencies services a) name name

/-! ## The edges -/

def edges (listed : List (String × ServiceSpec)) : List (String × String) :=
  listed.flatMap fun entry => entry.2.depends.map fun dep => (entry.1, dep.service)

def Fine (services : HashMap String ServiceSpec) (edge : String × String) : Prop :=
  edge.2 ≠ edge.1 ∧ edge.2 ∈ services

/-- Both adjacency lists have got the edges, in their order. -/
structure Extended (graph : DependencyGraph) (added : List (String × String))
    (extended : DependencyGraph) : Prop where
  nodes : extended.nodes = graph.nodes
  adjacency : ∀ a, extended.adjacency[a]? =
    graph.adjacency[a]?.map (· ++ (added.filter fun edge => edge.1 = a).map Prod.snd)
  reverse : ∀ d, extended.reverseAdjacency[d]? =
    graph.reverseAdjacency[d]?.map (· ++ (added.filter fun edge => edge.2 = d).map Prod.fst)

lemma Extended.refl (graph : DependencyGraph) : Extended graph [] graph :=
  ⟨rfl, by simp, by simp⟩

lemma Extended.trans {g₁ g₂ g₃ : DependencyGraph} {added more : List (String × String)}
    (h : Extended g₁ added g₂) (h' : Extended g₂ more g₃) : Extended g₁ (added ++ more) g₃ where
  nodes := h'.nodes.trans h.nodes
  adjacency a := by
    rw [h'.adjacency, h.adjacency, Option.map_map]
    congr 1
    funext l
    simp
  reverse d := by
    rw [h'.reverse, h.reverse, Option.map_map]
    congr 1
    funext l
    simp

variable {name : String} {graph graph' : DependencyGraph} {dep : DependsSpec}

lemma addDependency_eq_ok (h : addDependency services name graph dep = .ok graph') :
    Fine services (name, dep.service) ∧ Extended graph [(name, dep.service)] graph' := by
  rw [addDependency] at h
  split at h
  · cases h
  next hself =>
    split at h
    · cases h
    next hknown =>
      cases h
      refine ⟨⟨hself, not_not.mp hknown⟩, rfl, fun a => ?_, fun d => ?_⟩
      · rw [lookup_modify]
        by_cases hsame : name = a
        · simp [hsame]
        · simp [hsame]
      · rw [lookup_modify]
        by_cases hsame : dep.service = d
        · simp [hsame]
        · simp [hsame]

variable {deps : List DependsSpec}

lemma foldlM_addDependency_eq_ok
    (h : deps.foldlM (addDependency services name) graph = .ok graph') :
    (∀ dep ∈ deps, Fine services (name, dep.service)) ∧
      Extended graph (deps.map fun dep => (name, dep.service)) graph' := by
  induction deps generalizing graph with
  | nil =>
    cases h
    exact ⟨by simp, .refl _⟩
  | cons dep deps ih =>
    rw [foldlM_cons] at h
    cases hfirst : addDependency services name graph dep with
    | error err =>
      rw [hfirst] at h
      cases h
    | ok next =>
      rw [hfirst] at h
      rcases addDependency_eq_ok hfirst with ⟨hfine, hadded⟩
      rcases ih h with ⟨hrest, hmore⟩
      exact ⟨forall_mem_cons.mpr ⟨hfine, hrest⟩, hadded.trans hmore⟩

lemma exists_foldlM_addDependency (h : ∀ dep ∈ deps, Fine services (name, dep.service))
    (graph : DependencyGraph) :
    ∃ graph', deps.foldlM (addDependency services name) graph = .ok graph' := by
  induction deps generalizing graph with
  | nil => exact ⟨graph, rfl⟩
  | cons dep deps ih =>
    rcases forall_mem_cons.mp h with ⟨hfine, hrest⟩
    rw [foldlM_cons, addDependency, if_neg hfine.1, if_neg (not_not.mpr hfine.2)]
    exact ih hrest _

variable {listed : List (String × ServiceSpec)}

lemma addDependencies_eq_ok (h : addDependencies services listed graph = .ok graph') :
    (∀ edge ∈ edges listed, Fine services edge) ∧ Extended graph (edges listed) graph' := by
  induction listed generalizing graph with
  | nil =>
    cases h
    exact ⟨by simp [edges], .refl _⟩
  | cons entry rest ih =>
    rw [addDependencies] at h
    split at h
    · cases h
    next next hnext =>
      rcases foldlM_addDependency_eq_ok hnext with ⟨hfine, hadded⟩
      rcases ih h with ⟨hrest, hmore⟩
      refine ⟨?_, hadded.trans hmore⟩
      intro edge hedge
      rcases mem_append.mp hedge with hedge | hedge
      · rcases mem_map.mp hedge with ⟨dep, hdep, rfl⟩
        exact hfine dep hdep
      · exact hrest edge hedge

lemma exists_addDependencies (h : ∀ edge ∈ edges listed, Fine services edge)
    (graph : DependencyGraph) : ∃ graph', addDependencies services listed graph = .ok graph' := by
  induction listed generalizing graph with
  | nil => exact ⟨graph, rfl⟩
  | cons entry rest ih =>
    have hfine : ∀ dep ∈ entry.2.depends, Fine services (entry.1, dep.service) :=
      fun dep hdep => h _ (mem_append_left _ (mem_map_of_mem hdep))
    rcases exists_foldlM_addDependency hfine graph with ⟨next, hnext⟩
    rcases ih (fun edge hedge => h edge (mem_append_right _ hedge)) next with
      ⟨final, hfinal⟩
    exact ⟨final, by rw [addDependencies, hnext]; exact hfinal⟩

/-! ## The graph of a service map -/

section Listed

variable (order : IterOrder String ServiceSpec)

lemma edges_from (name : String) :
    ((edges (order.list services)).filter fun edge => edge.1 = name).map Prod.snd =
      dependencies services name := by
  have hfilter : ∀ listed : List (String × ServiceSpec),
      ((edges listed).filter fun edge => edge.1 = name).map Prod.snd =
        (listed.filter fun entry => entry.1 = name).flatMap
          fun entry => entry.2.depends.map DependsSpec.service := by
    intro listed
    induction listed with
    | nil => rfl
    | cons entry rest ih =>
      rw [edges, flatMap_cons, filter_append, map_append, ← edges, ih]
      by_cases hsame : entry.1 = name
      · simp [hsame, filter_map, Function.comp_def]
      · simp [hsame, filter_map, Function.comp_def]
  rw [hfilter, order.filter_key, dependencies]
  cases services[name]? <;> simp

lemma mem_edges {name dep : String} :
    (name, dep) ∈ edges (order.list services) ↔ dep ∈ dependencies services name := by
  rw [← edges_from order, mem_map]
  simp

lemma count_edges (added : List (String × String)) (a d : String) :
    ((added.filter fun edge => edge.2 = d).map Prod.fst).count a =
      ((added.filter fun edge => edge.1 = a).map Prod.snd).count d := by
  induction added with
  | nil => rfl
  | cons edge added ih =>
    rcases edge with ⟨x, y⟩
    by_cases hx : x = a <;> by_cases hy : y = d <;> simp [hx, hy, ih]

lemma foldl_addNode (listed : List (String × ServiceSpec)) (graph : DependencyGraph)
    (a : String) :
    let initial := listed.foldl (fun graph (name, spec) => graph.addNode name spec) graph
    (a ∈ initial.nodes ↔ a ∈ listed.map Prod.fst ∨ a ∈ graph.nodes) ∧
      initial.adjacency[a]? =
        (if a ∈ listed.map Prod.fst then some [] else graph.adjacency[a]?) ∧
      initial.reverseAdjacency[a]? =
        (if a ∈ listed.map Prod.fst then some [] else graph.reverseAdjacency[a]?) := by
  induction listed generalizing graph with
  | nil => simp
  | cons entry rest ih =>
    rcases ih (graph.addNode entry.1 entry.2) with ⟨hnodes, hadjacency, hreverse⟩
    simp only [foldl_cons]
    rw [hnodes, hadjacency, hreverse]
    simp only [addNode, lookup_insert, Std.ExtTreeMap.mem_insert,
      Std.compare_eq_iff_eq, map_cons, mem_cons]
    by_cases hmem : a ∈ rest.map Prod.fst
    · simp [hmem]
    · by_cases hsame : entry.1 = a
      · simp [hsame]
      · simp [hmem, hsame, Ne.symm hsame]

end Listed

/-- The graph of the services with all its edges, before it is searched and sorted. -/
structure Represents (services : HashMap String ServiceSpec) (graph : DependencyGraph) : Prop where
  nodes : ∀ a, a ∈ graph.nodes ↔ a ∈ services
  adjacency : ∀ a, depsOf graph.adjacency a = dependencies services a
  reverse : ∀ a d, d ∈ services →
    (depsOf graph.reverseAdjacency d).count a = (dependencies services a).count d

lemma dependencies_of_not_mem (h : name ∉ services) : dependencies services name = [] := by
  rw [dependencies, Std.ExtTreeMap.getElem?_eq_none h]

lemma represents_of_extended (order : IterOrder String ServiceSpec)
    {graph : DependencyGraph}
    (h : Extended ((order.list services).foldl
      (fun graph (name, spec) => graph.addNode name spec) empty)
      (edges (order.list services)) graph) : Represents services graph where
  nodes a := by
    rw [h.nodes, (foldl_addNode _ _ a).1, order.mem_keys]
    simp [empty]
  adjacency a := by
    rw [depsOf, h.adjacency, (foldl_addNode _ _ a).2.1, edges_from]
    by_cases hmem : a ∈ services
    · simp [(order.mem_keys _).mpr hmem]
    · simp [mt (order.mem_keys _).mp hmem, dependencies_of_not_mem hmem, empty]
  reverse a d hd := by
    rw [depsOf, h.reverse, (foldl_addNode _ _ d).2.2,
      if_pos ((order.mem_keys _).mpr hd), Option.map_some, Option.getD_some, nil_append,
      count_edges, edges_from]

/-! ## The search and the sort -/

section Represents

variable {graph : DependencyGraph} (order : IterOrder String DependencyNode)

lemma names_nodup : (graph.names order).Nodup := order.keys_nodup _

lemma mem_names {name : String} : name ∈ graph.names order ↔ name ∈ graph.nodes :=
  order.mem_keys graph.nodes

lemma card_names : (graph.names order).toFinset.card = graph.nodes.size := by
  rw [toFinset_card_of_nodup (names_nodup order), names, length_map,
    (order.perm _).length_eq]
  exact Std.ExtTreeMap.length_toList

lemma lookup_foldl_insert {β : Type} (names : List String) (v : β) (m : HashMap String β)
    (a : String) :
    (names.foldl (fun m name => m.insert name v) m)[a]? =
      if a ∈ names then some v else m[a]? := by
  induction names generalizing m with
  | nil => simp
  | cons name names ih =>
    rw [foldl_cons, ih, lookup_insert]
    by_cases hmem : a ∈ names
    · simp [hmem]
    · by_cases hsame : name = a
      · simp [hsame]
      · simp [hmem, hsame, Ne.symm hsame]

/-- The edges between nodes of the graph; the search passes over others. -/
def requires (graph : DependencyGraph) (name : String) : List String :=
  (depsOf graph.adjacency name).filter (· ∈ graph.nodes)

/-- The search ends without a cycle and with all nodes searched, or it finds one. -/
lemma detectCycle_cases (graph : DependencyGraph) :
    (graph.detectCycle order = some none ∧
      ∀ a ∈ graph.nodes, Acc (Layers.Dep graph.requires) a) ∨
    ∃ cycle, graph.detectCycle order = some (some cycle) ∧ IsCycle graph.requires cycle := by
  have hdeps (a : String) : graph.requires a =
      (depsOf graph.adjacency a).filter (· ∈ (graph.names order).toFinset) := by
    simp [requires, mem_names]
  rw [DependencyGraph.detectCycle]
  generalize hmarks : (Marks.mk _ _ : Marks String) = marks
  have hstart : Marked graph.requires (graph.names order).toFinset [] marks := by
    refine .start fun a => ?_
    rw [← hmarks, lookup_foldl_insert]
    simp
  have hvisited := visitAll_visited hdeps (card_names order).le
    (graph.names order) (fun a ha => mem_toFinset.mpr ha) hstart
  cases hsearch : visitAll graph.adjacency graph.nodes.size (graph.names order) marks with
  | done after =>
    rw [hsearch] at hvisited
    rcases hvisited with ⟨hmarked, -, hblack⟩
    exact .inl ⟨rfl, fun a ha => hmarked.black a (hblack a ((mem_names order).mpr ha))⟩
  | cycle path =>
    rw [hsearch] at hvisited
    exact .inr ⟨path, rfl, hvisited⟩
  | outOfFuel =>
    rw [hsearch] at hvisited
    exact hvisited.elim

lemma Represents.requires_eq (h : Represents services graph)
    (hknown : ∀ name, ∀ dep ∈ dependencies services name, dep ∈ services) :
    graph.requires = dependencies services := by
  funext name
  rw [requires, h.adjacency, filter_eq_self]
  exact fun dep hdep => by simpa [h.nodes] using hknown name dep hdep

/-- Without a cycle the sort gives every service once, behind its dependencies. -/
lemma Represents.topologicalSort (h : Represents services graph)
    (hknown : ∀ name, ∀ dep ∈ dependencies services name, dep ∈ services)
    (hacc : ∀ a ∈ services, Acc (Layers.Dep (dependencies services)) a) :
    ∃ sorted, graph.topologicalSort order = some (.ok sorted) ∧ sorted.Nodup ∧
      (∀ a, a ∈ sorted ↔ a ∈ services) ∧ Kahn.Ordered (dependencies services) sorted := by
  have hdeps : depsOf graph.adjacency = dependencies services := funext h.adjacency
  have hmem : ∀ a, a ∈ (graph.names order).toFinset ↔ a ∈ services := by
    intro a
    rw [mem_toFinset, mem_names, h.nodes]
  have hreverse : Kahn.Reverses (dependencies services)
      (depsOf graph.reverseAdjacency) (graph.names order).toFinset :=
    fun a _ d hd => h.reverse a d ((hmem d).mp hd)
  have hdependents : ∀ d ∈ (graph.names order).toFinset,
      ∀ a ∈ depsOf graph.reverseAdjacency d, a ∈ (graph.names order).toFinset := by
    intro d hd a ha
    rw [hmem]
    by_contra hnot
    have hcount := h.reverse a d ((hmem d).mp hd)
    rw [dependencies_of_not_mem hnot] at hcount
    exact absurd (count_pos_iff.mpr ha) (by rw [hcount]; simp)
  generalize hcounts : Kahn.countDegrees (dependencies services) (graph.names order) = counts
  have hstart : Kahn.Counting (dependencies services) (graph.names order).toFinset []
      counts.1 counts.2 [] :=
    hcounts ▸ Kahn.countDegrees_counting (names_nodup order) fun a => mem_toFinset
  have hfuel : (graph.names order).toFinset.card ≤
      graph.nodes.size + ([] : List String).length := (card_names order).le
  rcases Kahn.drain_ordered hreverse hdependents hfuel hstart with
    ⟨sorted, inDegree, hdrain, hcounting⟩
  have hsorted : ∀ a, a ∈ sorted ↔ a ∈ services := by
    intro a
    constructor
    · intro ha
      exact (hmem a).mp (hcounting.inside a (mem_append_left _ ha))
    · intro ha
      refine Kahn.mem_of_acc (fun a _ d hd => (hmem d).mpr (hknown a d hd)) hcounting (hacc a ha) ?_
      exact (hmem a).mpr ha
  have hnodup : sorted.Nodup := by simpa using hcounting.nodup
  have hlength : sorted.length = graph.nodes.size := by
    rw [← card_names order, ← toFinset_card_of_nodup hnodup]
    congr 1
    ext a
    rw [mem_toFinset, hsorted, hmem]
  refine ⟨sorted, ?_, hnodup, hsorted, hcounting.ordered⟩
  rw [DependencyGraph.topologicalSort, hdeps]
  simp only [hcounts, hdrain, hlength, ne_eq, not_true_eq_false, if_false]

end Represents

/-! ## Building the graph -/

lemma acyclic_of_acc {deps : String → List String} {a : String} (h : Acc (Layers.Dep deps) a) :
    ¬ Relation.TransGen (fun a d => d ∈ deps a) a a := by
  induction h with
  | intro a _ ih =>
    intro hcycle
    rcases Relation.TransGen.head'_iff.mp hcycle with ⟨d, hd, hback⟩
    exact ih d hd (Relation.TransGen.tail' hback hd)

/-- A cycle is reported exactly when there is one, and it is one. -/
theorem detectCycle_exact (order : IterOrder String DependencyNode)
    (graph : DependencyGraph) : ∃ outcome, graph.detectCycle order = some outcome ∧
      (outcome.isSome ↔ ∃ name, Relation.TransGen (fun a d => d ∈ graph.requires a) name name) ∧
      ∀ path, outcome = some path → IsCycle graph.requires path := by
  rcases detectCycle_cases order graph with ⟨hnone, hacc⟩ | ⟨path, hsome, hcycle⟩
  · refine ⟨none, hnone, iff_of_false (by simp) ?_, by simp⟩
    rintro ⟨name, hcycle⟩
    rcases Relation.TransGen.tail'_iff.mp hcycle with ⟨last, -, hedge⟩
    exact acyclic_of_acc (hacc name (by simpa using (mem_filter.mp hedge).2)) hcycle
  · refine ⟨some path, hsome, iff_of_true rfl ?_, fun found hfound =>
    Option.some.inj hfound ▸ hcycle⟩
    rcases hcycle with ⟨name, inner, rfl, hchain⟩
    exact ⟨name, transGen_of_isChain hchain⟩

/-- The graph is built exactly for valid services, and lists them behind their dependencies. -/
theorem build_correct (serviceOrder : IterOrder String ServiceSpec)
    (nodeOrder : IterOrder String DependencyNode)
    (services : HashMap String ServiceSpec) :
    ∃ outcome, build serviceOrder nodeOrder services = some outcome ∧
      ((∃ graph, outcome = .ok graph) ↔ Valid services) ∧
      ∀ graph, outcome = .ok graph →
        graph.startupOrder.Perm ((entries services).map Prod.fst) ∧
          ∀ before name after, graph.startupOrder = before ++ name :: after →
            ∀ dep ∈ dependencies services name, dep ∈ before := by
  rw [build]
  generalize hinitial : (serviceOrder.list services).foldl
    (fun graph (name, spec) => graph.addNode name spec) empty = initial
  cases hadd : addDependencies services (serviceOrder.list services) initial with
  | error err =>
    -- an edge is refused
    refine ⟨_, rfl, iff_of_false (by simp) fun hvalid => ?_, by simp⟩
    have hfine : ∀ edge ∈ edges (serviceOrder.list services), Fine services edge := by
      rintro ⟨name, dep⟩ hedge
      have hdep := (mem_edges serviceOrder).mp hedge
      have hne : dep ≠ name := fun hsame => hvalid.others name (hsame ▸ hdep)
      exact ⟨hne, hvalid.known name dep hdep⟩
    rcases exists_addDependencies hfine initial with ⟨graph, hok⟩
    rw [hadd] at hok
    cases hok
  | ok graph =>
    rcases addDependencies_eq_ok hadd with ⟨hfine, hextended⟩
    have hgraph : Represents services graph :=
      represents_of_extended serviceOrder (hinitial ▸ hextended)
    have hknown : ∀ name, ∀ dep ∈ dependencies services name, dep ∈ services :=
      fun name dep hdep => (hfine _ ((mem_edges serviceOrder).mpr hdep)).2
    have hothers : ∀ name, name ∉ dependencies services name :=
      fun name hdep => (hfine _ ((mem_edges serviceOrder).mpr hdep)).1 rfl
    simp only
    have hrequires := hgraph.requires_eq hknown
    rcases detectCycle_cases nodeOrder graph with ⟨hnone, hacc⟩ | ⟨cycle, hsome, hcycle⟩
    · simp only [hgraph.nodes, hrequires] at hacc
      rcases hgraph.topologicalSort nodeOrder hknown hacc with
        ⟨sorted, hsort, hnodup, hmem, hordered⟩
      simp only [hnone, hsort]
      refine ⟨_, rfl, iff_of_true ⟨_, rfl⟩ ⟨hknown, hothers, fun name hcycle => ?_⟩, ?_⟩
      · by_cases hname : name ∈ services
        · exact acyclic_of_acc (hacc name hname) hcycle
        · rcases Relation.TransGen.head'_iff.mp hcycle with ⟨d, hd, -⟩
          rw [dependencies_of_not_mem hname] at hd
          exact absurd hd not_mem_nil
      · rintro _ ⟨⟩
        refine ⟨?_, hordered⟩
        rw [perm_ext_iff_of_nodup hnodup (entries_keys_nodup services)]
        intro a
        rw [hmem]
        exact (mem_keys services).symm
    · simp only [hsome]
      refine ⟨_, rfl, iff_of_false (by simp) fun hvalid => ?_, by simp⟩
      rw [hrequires] at hcycle
      rcases hcycle with ⟨a, inner, rfl, hchain⟩
      exact hvalid.acyclic a (transGen_of_isChain hchain)

/-! ## Dependencies through others -/

lemma depsOf_of_build {serviceOrder : IterOrder String ServiceSpec}
    {nodeOrder : IterOrder String DependencyNode}
    (h : build serviceOrder nodeOrder services = some (.ok graph)) (name : String) :
    depsOf graph.adjacency name = dependencies services name := by
  rw [build] at h
  cases hadd : addDependencies services (serviceOrder.list services)
      ((serviceOrder.list services).foldl (fun graph (name, spec) => graph.addNode name spec)
        empty) with
  | error err => simp [hadd] at h
  | ok extended =>
    have hgraph := represents_of_extended serviceOrder (addDependencies_eq_ok hadd).2
    have hsame : graph.adjacency = extended.adjacency := by
      simp only [hadd] at h
      -- only the last branch accepts, and it keeps the edges
      split at h
      · cases h
      · cases h
      · split at h
        · cases h
        · cases h
        · cases h
          rfl
    rw [hsame, hgraph.adjacency]

/-- In a graph that is accepted, one service depends on another exactly if a chain of dependencies
leads there. -/
theorem dependsOn_iff (serviceOrder : IterOrder String ServiceSpec)
    (nodeOrder : IterOrder String DependencyNode) (services : HashMap String ServiceSpec)
    (graph : DependencyGraph) (hbuild : build serviceOrder nodeOrder services = some (.ok graph))
    (a b : String) (hne : a ≠ b) : graph.dependsOn a b = true ↔
      Relation.TransGen (fun name dep => dep ∈ dependencies services name) a b := by
  have hexplored : Reachability.Explored graph.adjacency b ∅ [a] := by
    intro v hv
    exact absurd hv (Finset.notMem_empty v)
  rw [dependsOn, if_neg hne, Reachability.reaches_iff hexplored]
  simp [depsOf_of_build hbuild]

def exampleServices : HashMap String ServiceSpec :=
  let on (service : String) : DependsSpec := ⟨service, .started, none, .fail⟩
  ((∅ : HashMap String ServiceSpec).insert "db" ⟨"db:1", [], none⟩).insert "web"
    ⟨"web:1", [on "db"], none⟩

theorem dependsOn_iff_exampleServices :
    ∃ graph, build .byKey .byKey exampleServices = some (.ok graph) ∧
      (graph.dependsOn "web" "db" = true ↔ Relation.TransGen
        (fun name dep => dep ∈ dependencies exampleServices name) "web" "db") := by
  have hok : (build .byKey .byKey exampleServices).map Except.isOk = some true := by
    decide +kernel
  cases h : build .byKey .byKey exampleServices with
  | none => simp [h] at hok
  | some outcome =>
    cases outcome with
    | error err => simp [h, Except.isOk, Except.toBool] at hok
    | ok graph => exact ⟨graph, rfl, dependsOn_iff .byKey .byKey _ graph h "web" "db" (by decide)⟩

end DependencyGraph

end ZLayer.Agent
