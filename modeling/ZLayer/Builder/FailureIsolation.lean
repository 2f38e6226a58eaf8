import ZLayer.Builder.Pipeline

/-!
# FailureIsolation — what a run makes of failed images

With fail-fast off a run goes through all waves, whatever the builds come to.  So an image is built
although one it depends on has failed, and a task that panics is recorded under a name that is not
its own.
-/

namespace ZLayer.Builder

open Lib Layers List

namespace ZPipeline

variable {p : ZPipeline} {order : SetOrder String}

/-- The image `name` depends on `dep`, directly or through others. -/
def TransitivelyDependsOn (p : ZPipeline) (name dep : String) : Prop :=
  Relation.TransGen (Dep p.dependsOn) dep name

/-- The manifest is refused: a dependency is not an image of the pipeline, or there is a cycle. -/
def Refused (p : ZPipeline) : Prop :=
  (∃ name ∈ p.names, ∃ dep ∈ p.dependsOn name, dep ∉ p.names) ∨
    ∃ name ∈ p.names, p.TransitivelyDependsOn name name

variable {image : PipelineImage} {name : String}

lemma lookup_of_mem {l : List (String × PipelineImage)} (hnodup : (l.map Prod.fst).Nodup)
    (h : (name, image) ∈ l) : l.lookup name = some image := by
  induction l with
  | nil => cases h
  | cons entry rest ih =>
    rcases nodup_cons.mp hnodup with ⟨hnew, hrest⟩
    rcases mem_cons.mp h with rfl | htail
    · simp
    · have hne : name ≠ entry.1 := by
        rintro rfl
        exact hnew (mem_map.mpr ⟨_, htail, rfl⟩)
      rw [lookup_cons, beq_eq_false_iff_ne.mpr hne]
      exact ih hrest htail

lemma dependsOn_of_mem (h : (name, image) ∈ p.images) : p.dependsOn name = image.dependsOn := by
  rw [dependsOn, lookup_of_mem p.names_nodup h]

lemma mem_names_of_dependsOn {name dep : String} (h : dep ∈ p.dependsOn name) :
    name ∈ p.names := by
  unfold dependsOn at h
  split at h
  next hlookup =>
    rcases lookup_eq_some_iff.mp hlookup with ⟨front, back, hsplit, -⟩
    simp [names, hsplit]
  · cases h

lemma unknownDependency_eq_none_iff :
    p.unknownDependency = none ↔ ∀ name ∈ p.names, ∀ dep ∈ p.dependsOn name, dep ∈ p.names := by
  rw [unknownDependency, List.findSome?_eq_none_iff]
  constructor
  · intro h name hname dep hdep
    rcases mem_map.mp hname with ⟨⟨_, image⟩, hentry, rfl⟩
    rw [dependsOn_of_mem hentry] at hdep
    have hnone := Option.map_eq_none_iff.mp (h _ hentry)
    simpa using List.find?_eq_none.mp hnone dep hdep
  · rintro h ⟨name, image⟩ hentry
    refine Option.map_eq_none_iff.mpr (List.find?_eq_none.mpr fun dep hdep => ?_)
    rw [← dependsOn_of_mem hentry] at hdep
    simpa using h name (mem_map.mpr ⟨_, hentry, rfl⟩) dep hdep

/-- The order is refused for an unknown dependency or a cycle, and for nothing else. -/
lemma resolveExecutionOrder_eq_error_iff (order : SetOrder String) :
    (∃ e, p.resolveExecutionOrder order = .error e) ↔ p.Refused := by
  cases hunknown : p.unknownDependency with
  | some found =>
    have hnot : ¬ ∀ name ∈ p.names, ∀ dep ∈ p.dependsOn name, dep ∈ p.names := by
      rw [← unknownDependency_eq_none_iff, hunknown]
      exact Option.some_ne_none found
    push Not at hnot
    refine iff_of_true ?_ (.inl hnot)
    simp only [resolveExecutionOrder, hunknown]
    exact ⟨_, rfl⟩
  | none =>
    have hknown := unknownDependency_eq_none_iff.mp hunknown
    have hclosed : ∀ a ∈ p.names.toFinset, ∀ d ∈ p.dependsOn a, d ∈ p.names.toFinset := by
      simpa using hknown
    have hcycle : (∃ left, layers p.dependsOn order p.names.toFinset.card ∅ p.names.toFinset =
        .error left) ↔ ∃ a ∈ p.names.toFinset, Relation.TransGen (Dep p.dependsOn) a a :=
      layers_eq_error_iff hclosed
    have hfirst : ¬ ∃ name ∈ p.names, ∃ dep ∈ p.dependsOn name, dep ∉ p.names := by
      push Not
      exact hknown
    rw [Refused, or_iff_right hfirst]
    simp only [mem_toFinset] at hcycle
    refine Iff.trans ?_ hcycle
    simp only [resolveExecutionOrder, hunknown]
    cases layers p.dependsOn order p.names.toFinset.card ∅ p.names.toFinset <;> simp

lemma laid_of_resolveExecutionOrder {waves : List (List String)}
    (h : p.resolveExecutionOrder order = .ok waves) :
    Laid p.dependsOn ∅ p.names.toFinset waves := by
  unfold resolveExecutionOrder at h
  split at h
  · cases h
  · split at h
    next hlayers =>
      cases h
      exact laid_of_layers le_rfl hlayers
    · cases h

/-- The images are put into waves by the length of their longest chain of dependencies. -/
theorem waves_by_depth (p : ZPipeline) (order : SetOrder String) :
    ((∃ waves, p.resolveExecutionOrder order = .ok waves) ↔ ¬ p.Refused) ∧
    (∀ waves, p.resolveExecutionOrder order = .ok waves → waves.flatten.Perm p.names ∧
      ∀ (i : Nat) (wave : List String), waves[i]? = some wave → ∀ name ∈ wave,
        Chain p.dependsOn i name ∧ ∀ n, Chain p.dependsOn n name → n ≤ i) ∧
    ∀ fuel ≥ p.names.length, layers p.dependsOn order fuel ∅ p.names.toFinset =
      layers p.dependsOn order p.names.toFinset.card ∅ p.names.toFinset := by
  have hrefused := resolveExecutionOrder_eq_error_iff (p := p) order
  refine ⟨?_, fun waves hwaves => ?_, fun fuel hfuel => ?_⟩
  · rw [← hrefused]
    cases p.resolveExecutionOrder order <;> simp
  · have hlaid := laid_of_resolveExecutionOrder hwaves
    have haccepted : ¬ p.Refused := by simp [← hrefused, hwaves]
    refine ⟨?_, fun i wave hwave name hname => ?_⟩
    · refine (perm_ext_iff_of_nodup hlaid.nodup_flatten p.names_nodup).mpr fun name => ?_
      exact (hlaid.mem_flatten name).trans mem_toFinset
    · have hdepth := hlaid.depth (k := 0) (fun a ha d hd => ?_) (by simp)
        (fun a _ => .nil a) hwave hname
      · simpa using hdepth
      · by_contra hunknown
        exact haccepted (.inl ⟨a, mem_toFinset.mp ha, d, hd, by simpa using hunknown⟩)
  · exact layers_eq_layers ((toFinset_card_le _).trans hfuel) le_rfl

end ZPipeline

/-! ## A run that goes through all waves -/

section Run

variable {build : String → Outcome} {join : JoinOrder}

lemma processResults_all (results : List (String × Except BuildError BuiltImage))
    (s : PipelineResult) :
    ∃ out, processResults false results s = .ok out ∧
      (∀ name, name ∈ out.succeeded ↔
        name ∈ s.succeeded ∨ ∃ image, (name, .ok image) ∈ results) ∧
      ∀ name, name ∈ out.failed ↔ name ∈ s.failed ∨ ∃ e, (name, .error e) ∈ results := by
  induction results generalizing s with
  | nil => exact ⟨s, rfl, by simp, by simp⟩
  | cons result rest ih =>
    rcases result with ⟨name, e | image⟩
    · rcases ih { s with failed := s.failed.insert name e.message } with
        ⟨out, hout, hsucceeded, hfailed⟩
      refine ⟨out, hout, fun other => ?_, fun other => ?_⟩
      · simp [hsucceeded]
      · simp only [hfailed, Std.ExtTreeMap.mem_insert, Std.compare_eq_iff_eq]
        grind
    · rcases ih { s with succeeded := s.succeeded.insert name image } with
        ⟨out, hout, hsucceeded, hfailed⟩
      refine ⟨out, hout, fun other => ?_, fun other => ?_⟩
      · simp only [hsucceeded, Std.ExtTreeMap.mem_insert, Std.compare_eq_iff_eq]
        grind
      · simp [hfailed]

variable (build join) in
def wavesLog (waves : List (List String)) : List Event :=
  waves.flatMap fun wave => (buildWave build join wave).1

variable (build join) in
lemma runWaves_all (waves : List (List String)) (s : PipelineResult) :
    ∃ out, runWaves build join false waves s = (wavesLog build join waves, .ok out) ∧
      (∀ name, name ∈ out.succeeded ↔ name ∈ s.succeeded ∨
        ∃ image, ∃ task ∈ waves.flatten, collected task (build task) = (name, .ok image)) ∧
      ∀ name, name ∈ out.failed ↔ name ∈ s.failed ∨
        ∃ e, ∃ task ∈ waves.flatten, collected task (build task) = (name, .error e) := by
  induction waves generalizing s with
  | nil => exact ⟨s, rfl, by simp, by simp⟩
  | cons wave waves ih =>
    rcases processResults_all (buildWave build join wave).2 s with
      ⟨mid, hmid, hmidSucceeded, hmidFailed⟩
    rcases ih mid with ⟨out, hout, hsucceeded, hfailed⟩
    have hresults : ∀ result, result ∈ (buildWave build join wave).2 ↔
        ∃ task ∈ wave, collected task (build task) = result := by
      intro result
      simp [buildWave, (join.perm wave).mem_iff]
    refine ⟨out, ?_, fun name => ?_, fun name => ?_⟩
    · simp only [runWaves, Bool.false_eq_true, false_and, if_false, hmid, hout]
      rfl
    · rw [hsucceeded, hmidSucceeded]
      simp only [hresults, flatten_cons, mem_append, or_and_right, exists_or, or_assoc]
    · rw [hfailed, hmidFailed]
      simp only [hresults, flatten_cons, mem_append, or_and_right, exists_or, or_assoc]

variable {task name : String}

lemma collected_eq_ok_iff {image : BuiltImage} :
    collected task (build task) = (name, .ok image) ↔ task = name ∧ build task = .built image := by
  cases build task <;> simp [collected]

/-- A name is recorded as failed by its own task, or by any task that panicked. -/
lemma collected_eq_error_iff : (∃ e, collected task (build task) = (name, .error e)) ↔
      (task = name ∧ ∃ e, build task = .failed e) ∨
        (name = "unknown" ∧ ∃ message, build task = .panicked message) := by
  cases build task <;> simp [collected, eq_comm]

end Run

/-! ## The log -/

section Log

variable {build : String → Outcome} {join : JoinOrder} {waves : List (List String)}

variable {name : String}

lemma mem_wavesLog_started :
    .started name ∈ wavesLog build join waves ↔ name ∈ waves.flatten := by
  simp [wavesLog, buildWave, mem_flatten]

lemma mem_wavesLog_finished {outcome : Outcome} :
    .finished name outcome ∈ wavesLog build join waves ↔
      name ∈ waves.flatten ∧ outcome = build name := by
  simp only [wavesLog, buildWave, mem_flatMap, mem_append, mem_map, reduceCtorEq,
    and_false, exists_false, false_or, (join.perm _).mem_iff, Event.finished.injEq,
    mem_flatten]
  constructor
  · rintro ⟨wave, hwave, task, htask, rfl, rfl⟩
    exact ⟨⟨wave, hwave, htask⟩, rfl⟩
  · rintro ⟨⟨wave, hwave, hname⟩, rfl⟩
    exact ⟨wave, hwave, name, hname, rfl, rfl⟩

/-- What stands before the first place of an entry stands before every place of it. -/
lemma isPrefix_of_split {α : Type} {front back before after : List α} {a : α}
    (h : front ++ back = before ++ a :: after) (ha : a ∉ front) : front <+: before := by
  rcases append_eq_append_iff.mp h with ⟨between, rfl, -⟩ | ⟨between, rfl, hrest⟩
  · exact ⟨between, rfl⟩
  · cases between with
    | nil => simp
    | cons first between =>
      cases hrest
      exact absurd (by simp) ha

end Log

/-! ## What a failed image does -/

/-- A build is started only after everything the image depends on was built, every image that
depends on no failed one is started, and every image ends in exactly one of the two maps. -/
def FailuresContained (p : ZPipeline) (out : List Event × Except BuildError PipelineResult) :
    Prop :=
  (∀ before name after, out.1 = before ++ .started name :: after →
    ∀ dep, p.TransitivelyDependsOn name dep → ∃ image, .finished dep (.built image) ∈ before) ∧
  ∀ result, out.2 = .ok result →
    (∀ name ∈ p.names,
      (∀ dep outcome, p.TransitivelyDependsOn name dep → .finished dep outcome ∈ out.1 →
        outcome.isBuilt = true) → .started name ∈ out.1) ∧
    ∀ name ∈ p.names, Xor (name ∈ result.succeeded) (name ∈ result.failed)

section Contained

variable {p : ZPipeline} {build : String → Outcome} {join : JoinOrder} {waves : List (List String)}

lemma exists_built {outcome : Outcome} (h : outcome.isBuilt = true) :
    ∃ image, outcome = .built image := by
  cases outcome with
  | built image => exact ⟨image, rfl⟩
  | failed | panicked => cases h

/-- Everything an image depends on has ended before the image is started. -/
lemma finished_before_started (hlaid : Laid p.dependsOn ∅ p.names.toFinset waves)
    {before after : List Event} {name dep : String}
    (hlog : wavesLog build join waves = before ++ .started name :: after)
    (hdep : p.TransitivelyDependsOn name dep) : .finished dep (build dep) ∈ before := by
  have hstarted : Event.started name ∈ wavesLog build join waves := by simp [hlog]
  rcases mem_flatten.mp (mem_wavesLog_started.mp hstarted) with ⟨wave, hwave, hin⟩
  rcases append_of_mem hwave with ⟨earlier, later, rfl⟩
  have hearlier : dep ∈ earlier.flatten := hlaid.transDep_mem hdep rfl hin
  -- the name stands in no earlier wave, so the log of the earlier waves lies before its start
  have hnew : Event.started name ∉ wavesLog build join earlier := by
    intro hmem
    have hnodup := hlaid.nodup_flatten
    rw [flatten_append, nodup_append'] at hnodup
    exact hnodup.2.2 (mem_wavesLog_started.mp hmem) (by simp [hin])
  have hsplit : wavesLog build join earlier ++ wavesLog build join (wave :: later) =
      before ++ .started name :: after := by
    rw [← hlog]
    simp [wavesLog]
  exact (isPrefix_of_split hsplit hnew).subset (mem_wavesLog_finished.mpr ⟨hearlier, rfl⟩)

/-- Every listed dependency is built, and only a task named as the lost ones are may panic. -/
def NothingLost (p : ZPipeline) (build : String → Outcome) : Prop :=
  (∀ name ∈ p.names, ∀ dep ∈ p.dependsOn name, (build dep).isBuilt = true) ∧
    ∀ name ∈ p.names, ∀ message, build name = .panicked message → name = "unknown"

structure Recorded (build : String → Outcome) (tasks : List String) (result : PipelineResult) :
    Prop where
  succeeded : ∀ name, name ∈ result.succeeded ↔ name ∈ tasks ∧ (build name).isBuilt = true
  failed : ∀ name, name ∈ result.failed ↔ (name ∈ tasks ∧ ∃ e, build name = .failed e) ∨
    (name = "unknown" ∧ ∃ task ∈ tasks, ∃ message, build task = .panicked message)

variable (build join) in
lemma runWaves_recorded (waves : List (List String)) :
    ∃ result, runWaves build join false waves ⟨∅, ∅⟩ = (wavesLog build join waves, .ok result) ∧
      Recorded build waves.flatten result := by
  rcases runWaves_all build join waves ⟨∅, ∅⟩ with ⟨result, hrun, hsucceeded, hfailed⟩
  refine ⟨result, hrun, fun name => ?_, fun name => ?_⟩
  · rw [hsucceeded]
    simp only [collected_eq_ok_iff, Std.ExtTreeMap.not_mem_empty, false_or]
    constructor
    · rintro ⟨image, task, htask, rfl, hbuilt⟩
      exact ⟨htask, by rw [hbuilt]; rfl⟩
    · rintro ⟨hname, hbuilt⟩
      rcases exists_built hbuilt with ⟨image, himage⟩
      exact ⟨image, name, hname, rfl, himage⟩
  · rw [hfailed]
    simp only [Std.ExtTreeMap.not_mem_empty, false_or]
    constructor
    · rintro ⟨e, task, htask, hcollected⟩
      rcases collected_eq_error_iff.mp ⟨e, hcollected⟩ with ⟨rfl, hown⟩ | ⟨hunknown, hpanic⟩
      · exact .inl ⟨htask, hown⟩
      · exact .inr ⟨hunknown, task, htask, hpanic⟩
    · rintro (⟨hname, hown⟩ | ⟨hunknown, task, htask, hpanic⟩)
      · rcases collected_eq_error_iff.mpr (.inl ⟨rfl, hown⟩) with ⟨e, he⟩
        exact ⟨e, name, hname, he⟩
      · rcases collected_eq_error_iff.mpr (.inr ⟨hunknown, hpanic⟩) with ⟨e, he⟩
        exact ⟨e, task, htask, he⟩

variable {result : PipelineResult}

lemma contained_of_nothingLost (hlaid : Laid p.dependsOn ∅ p.names.toFinset waves)
    (h : NothingLost p build) (hrecorded : Recorded build waves.flatten result) :
    FailuresContained p (wavesLog build join waves, .ok result) := by
  have hmem (name : String) : name ∈ waves.flatten ↔ name ∈ p.names := by
    rw [hlaid.mem_flatten, mem_toFinset]
  refine ⟨fun before name after hlog dep hdep => ?_, ?_⟩
  · have hfinished := finished_before_started hlaid hlog hdep
    -- some image lists the dependency, so it was built
    rcases Relation.TransGen.head'_iff.mp hdep with ⟨user, hlisted, -⟩
    rcases exists_built (h.1 user (ZPipeline.mem_names_of_dependsOn hlisted) dep hlisted) with
      ⟨image, himage⟩
    exact ⟨image, himage ▸ hfinished⟩
  · rintro _ ⟨⟩
    refine ⟨fun name hname _ => mem_wavesLog_started.mpr ((hmem name).mpr hname),
      fun name hname => ?_⟩
    have htask := (hmem name).mpr hname
    have hpanicked : (∃ task ∈ waves.flatten, ∃ message, build task = .panicked message) →
        ∃ message, build "unknown" = .panicked message := by
      rintro ⟨task, hin, message, hpanic⟩
      exact ⟨message, h.2 task ((hmem task).mp hin) message hpanic ▸ hpanic⟩
    rw [hrecorded.succeeded, hrecorded.failed]
    cases hbuild : build name with
    | built image =>
      refine .inl ⟨⟨htask, rfl⟩, ?_⟩
      rintro (⟨-, e, he⟩ | ⟨rfl, hpanic⟩)
      · cases he
      · rcases hpanicked hpanic with ⟨message, hmessage⟩
        rw [hbuild] at hmessage
        cases hmessage
    | failed e => exact .inr ⟨.inl ⟨htask, e, rfl⟩, fun hbuilt => Bool.noConfusion hbuilt.2⟩
    | panicked message =>
      exact .inr ⟨.inr ⟨h.2 name hname message hbuild, name, htask, message, hbuild⟩,
        fun hbuilt => Bool.noConfusion hbuilt.2⟩

lemma nothingLost_of_contained (hlaid : Laid p.dependsOn ∅ p.names.toFinset waves)
    (hrecorded : Recorded build waves.flatten result)
    (h : FailuresContained p (wavesLog build join waves, .ok result)) : NothingLost p build := by
  have hmem (name : String) : name ∈ waves.flatten ↔ name ∈ p.names := by
    rw [hlaid.mem_flatten, mem_toFinset]
  constructor
  · intro name hname dep hdep
    -- the image was started, so its dependency had been built
    have hstarted : Event.started name ∈ wavesLog build join waves :=
      mem_wavesLog_started.mpr ((hmem name).mpr hname)
    rcases append_of_mem hstarted with ⟨before, after, hlog⟩
    rcases h.1 before name after hlog dep (.single hdep) with ⟨image, himage⟩
    have hfinished : Event.finished dep (.built image) ∈ wavesLog build join waves := by
      rw [hlog]
      exact mem_append_left _ himage
    rw [← (mem_wavesLog_finished.mp hfinished).2]
    rfl
  · intro name hname message hpanic
    by_contra hunknown
    have hone := (h.2 result rfl).2 name hname
    rw [hrecorded.succeeded, hrecorded.failed, hpanic] at hone
    simp [Outcome.isBuilt, hunknown] at hone

end Contained

/-- With fail-fast off, failed images are contained exactly if the manifest is refused, or every
listed dependency is built and only a task named `unknown` may panic. -/
theorem failuresContained_iff (p : ZPipeline) (order : SetOrder String) (join : JoinOrder)
    (build : String → Outcome) :
    FailuresContained p (run build join order false p) ↔ p.Refused ∨ NothingLost p build := by
  unfold run
  cases hresolve : p.resolveExecutionOrder order with
  | error e =>
    have hrefused : p.Refused :=
      (ZPipeline.resolveExecutionOrder_eq_error_iff order).mp ⟨e, hresolve⟩
    refine iff_of_true ⟨fun before name after hlog => ?_, ?_⟩ (.inl hrefused)
    · simp at hlog
    · rintro _ ⟨⟩
  | ok waves =>
    have hlaid := ZPipeline.laid_of_resolveExecutionOrder hresolve
    have haccepted : ¬ p.Refused := by
      rw [← ZPipeline.resolveExecutionOrder_eq_error_iff order, hresolve]
      simp
    rcases runWaves_recorded build join waves with ⟨result, hrun, hrecorded⟩
    rw [or_iff_right haccepted]
    simp only [hrun]
    exact ⟨nothingLost_of_contained hlaid hrecorded,
      fun h => contained_of_nothingLost hlaid h hrecorded⟩

/-! ## A failed base image -/

def asSpawned : JoinOrder :=
  { list := id
    perm := fun _ => .refl _ }

def imageOf (dependsOn : List String) : PipelineImage :=
  { file := "Dockerfile"
    tags := []
    buildArgs := ∅
    dependsOn
    noCache := none
    platforms := [] }

def baseAndApp : ZPipeline :=
  { vars := ∅
    defaults := ⟨∅, false, []⟩
    images := [("app", imageOf ["base"]), ("base", imageOf []), ("docs", imageOf [])]
    names_nodup := by decide }

def failingBase : String → Outcome
  | "base" => .failed (.build "no space left")
  | "docs" => .panicked "task 3 panicked"
  | name => .built ⟨name, [], false⟩

/-- The application is built on the failed base, and the image whose task panics is in neither
map. -/
theorem app_built_on_failed_base : (run failingBase asSpawned .sorted false baseAndApp).1 =
      [.started "base", .started "docs",
        .finished "base" (.failed (.build "no space left")),
        .finished "docs" (.panicked "task 3 panicked"),
        .started "app", .finished "app" (.built ⟨"app", [], false⟩)] ∧
      (run failingBase asSpawned .sorted false baseAndApp).2.toOption.map (fun result =>
        (result.succeeded.contains "docs", result.failed.contains "docs")) =
          some (false, false) := by
  decide +kernel

end ZLayer.Builder
