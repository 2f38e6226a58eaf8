import ZLayer.Scheduler.WorkerDispatcher

/-!
# WorkerIds — which ids concurrent registrations hand out

`assign_node_id` only looks at the session map, and a call installs its session long after it has
settled on an id.  A call that looks up the same id in between settles on it as well, and both
succeed.

The ids of live workers are unique as long as no call looks up an id on which another call has
settled and whose session is not installed yet.
-/

namespace ZLayer.Scheduler

open Lib List

/-! ## Histories -/

/-- The tasks of a dispatcher, and for each registration whether its session has been dropped since
the call returned. -/
structure IdHistory where
  system : DispatcherSystem
  dropped : ℕ → Bool

namespace IdHistory

def start (cluster : ClusterState) (startingNodeId : NodeId) : IdHistory :=
  { system := .start cluster startingNodeId
    dropped := fun _ => false }

def reserved (h : IdHistory) (call : ℕ) : Option NodeId := (h.system.registers call).reserved

def returned (h : IdHistory) (call : ℕ) : Option NodeId := (h.system.registers call).returned

/-- The registrations that are dropped with the session of `node`. -/
def withDropped (h : IdHistory) : Effect → ℕ → Bool
  | .drop node => fun call => h.dropped call || h.returned call = some node
  | _ => h.dropped

variable (cfg : DispatcherConfig) (calls : ℕ → RegisterRequest)

def next (h : IdHistory) (e : DispatcherEvent) : IdHistory :=
  { system := h.system.next cfg calls e
    dropped := h.withDropped (h.system.effect cfg calls e) }

/-- No two successful calls whose sessions have not been dropped returned the same id. -/
def UniqueIds (h : IdHistory) : Prop :=
  ∀ (i j : ℕ) (n : NodeId), h.returned i = some n → h.returned j = some n →
    h.dropped i = false → h.dropped j = false → i = j

/-- A call does not look up an id that another one has settled on and not yet installed. -/
def LooksUpApart (h : IdHistory) : DispatcherEvent → Prop
  | .register call _ => ∀ n, (h.system.registers call).lookingUp (calls call) = some n →
      ∀ other, h.reserved other ≠ some n
  | _ => True

/-! ## The invariant -/

/-- Ids that are settled on are apart from each other and from the session map, and every live
worker has a session. -/
structure Apart (h : IdHistory) : Prop where
  reserved_injective : ∀ (i j : ℕ) (n : NodeId), h.reserved i = some n →
    h.reserved j = some n → i = j
  reserved_free : ∀ (i : ℕ) (n : NodeId), h.reserved i = some n → n ∉ h.system.dispatcher.sessions
  returned_session : ∀ (i : ℕ) (n : NodeId), h.returned i = some n → h.dropped i = false →
    n ∈ h.system.dispatcher.sessions
  unique : h.UniqueIds

variable {cfg calls} {h h' : IdHistory}

/-- No call has returned and the session ids are the same: it is enough to look at the reserved
ids. -/
lemma Apart.of_sameSessions (ha : h.Apart)
    (hinjective : ∀ (i j : ℕ) (n : NodeId), h'.reserved i = some n → h'.reserved j = some n → i = j)
    (hfree : ∀ (i : ℕ) (n : NodeId), h'.reserved i = some n → n ∉ h.system.dispatcher.sessions)
    (hreturned : ∀ (i : ℕ) (n : NodeId), h'.returned i = some n → h.returned i = some n)
    (hdropped : h'.dropped = h.dropped)
    (hsessions : ∀ n, n ∈ h'.system.dispatcher.sessions ↔ n ∈ h.system.dispatcher.sessions) :
    h'.Apart where
  reserved_injective := hinjective
  reserved_free i n hi := by
    rw [hsessions]
    exact hfree i n hi
  returned_session i n hi hd := by
    rw [hdropped] at hd
    exact (hsessions n).mpr (ha.returned_session i n (hreturned i n hi) hd)
  unique i j n hi hj hdi hdj := by
    rw [hdropped] at hdi hdj
    exact ha.unique i j n (hreturned i n hi) (hreturned j n hj) hdi hdj

/-- A step that reserves nothing, returns nothing and keeps the session ids. -/
lemma Apart.of_quiet (ha : h.Apart)
    (hreserved : ∀ i, h'.reserved i = h.reserved i ∨ h'.reserved i = none)
    (hreturned : ∀ i, h'.returned i = h.returned i) (hdropped : h'.dropped = h.dropped)
    (hsessions : ∀ n, n ∈ h'.system.dispatcher.sessions ↔ n ∈ h.system.dispatcher.sessions) :
    h'.Apart := by
  -- an id that is still reserved was reserved before; a call that failed has given its id up
  have hold : ∀ i n, h'.reserved i = some n → h.reserved i = some n := by
    intro i n hi
    rcases hreserved i with heq | heq
    · exact heq ▸ hi
    · rw [heq] at hi
      cases hi
  refine ha.of_sameSessions ?_ ?_ ?_ hdropped hsessions
  · intro i j n hi hj
    exact ha.reserved_injective i j n (hold i n hi) (hold j n hj)
  · intro i n hi
    exact ha.reserved_free i n (hold i n hi)
  · intro i n hi
    rw [← hreturned]
    exact hi

/-- The call takes an id that has no session and that no other call has settled on. -/
lemma Apart.of_settle (ha : h.Apart) (call : ℕ) {n : NodeId}
    (hfree : n ∉ h.system.dispatcher.sessions) (hothers : ∀ other, h.reserved other ≠ some n)
    (hreserved : ∀ i, h'.reserved i = if i = call then some n else h.reserved i)
    (hreturned : ∀ i, h'.returned i = if i = call then none else h.returned i)
    (hdropped : h'.dropped = h.dropped)
    (hsessions : ∀ n, n ∈ h'.system.dispatcher.sessions ↔ n ∈ h.system.dispatcher.sessions) :
    h'.Apart := by
  refine ha.of_sameSessions ?_ ?_ ?_ hdropped hsessions
  · intro i j m hi hj
    rw [hreserved] at hi hj
    split at hi <;> split at hj
    next hic hjc => rw [hic, hjc]
    -- one of the two is the call and the other is not: nobody else has settled on its id
    next =>
      cases hi
      exact absurd hj (hothers j)
    next =>
      cases hj
      exact absurd hi (hothers i)
    next => exact ha.reserved_injective i j m hi hj
  · intro i m hi
    rw [hreserved] at hi
    split at hi
    · cases hi
      exact hfree
    · exact ha.reserved_free i m hi
  · intro i m hi
    rw [hreturned] at hi
    split at hi
    · cases hi
    · exact hi

/-- The call installs the session of the id it has settled on, and returns. -/
lemma Apart.of_install (ha : h.Apart) {call : ℕ} {n : NodeId} (hn : h.reserved call = some n)
    (hreserved : ∀ i, h'.reserved i = if i = call then none else h.reserved i)
    (hreturned : ∀ i, h'.returned i = if i = call then some n else h.returned i)
    (hdropped : h'.dropped = h.dropped)
    (hsessions : ∀ m, m ∈ h'.system.dispatcher.sessions ↔
      n = m ∨ m ∈ h.system.dispatcher.sessions) :
    h'.Apart := by
  have hold : ∀ i m, h'.reserved i = some m → i ≠ call ∧ h.reserved i = some m := by
    intro i m hi
    rw [hreserved] at hi
    split at hi
    next => cases hi
    next hic => exact ⟨hic, hi⟩
  -- a live worker with this id would have a session, but the id was still free
  have hfresh : ∀ i, h.returned i = some n → h.dropped i = false → False := fun i hi hd =>
    ha.reserved_free call n hn (ha.returned_session i n hi hd)
  refine ⟨?_, ?_, ?_, ?_⟩
  · intro i j m hi hj
    exact ha.reserved_injective i j m (hold i m hi).2 (hold j m hj).2
  · intro i m hi hmem
    rcases hold i m hi with ⟨hic, him⟩
    rcases (hsessions m).mp hmem with heq | hmem
    -- the new session is of an id that only this call had reserved
    · exact hic (ha.reserved_injective i call n (heq ▸ him) hn)
    · exact ha.reserved_free i m him hmem
  · intro i m hi hd
    rw [hreturned] at hi
    rw [hdropped] at hd
    rw [hsessions]
    split at hi
    · exact .inl (Option.some.inj hi)
    · exact .inr (ha.returned_session i m hi hd)
  · intro i j m hi hj hdi hdj
    rw [hreturned] at hi hj
    rw [hdropped] at hdi hdj
    split at hi <;> split at hj
    next hic hjc => rw [hic, hjc]
    next =>
      cases hi
      exact (hfresh j hj hdj).elim
    next =>
      cases hj
      exact (hfresh i hi hdi).elim
    next => exact ha.unique i j m hi hj hdi hdj

/-- A session is dropped, and with it the registrations of its id. -/
lemma Apart.of_drop (ha : h.Apart) (node : NodeId) (hreserved : h'.reserved = h.reserved)
    (hreturned : h'.returned = h.returned) (hdropped : h'.dropped = h.withDropped (.drop node))
    (hsessions : ∀ n, n ∈ h'.system.dispatcher.sessions ↔
      node ≠ n ∧ n ∈ h.system.dispatcher.sessions) :
    h'.Apart := by
  -- who is still live was live before and has another id
  have hlive : ∀ i, h'.dropped i = false → h.dropped i = false ∧ h.returned i ≠ some node := by
    intro i hd
    rw [hdropped] at hd
    simpa [withDropped] using hd
  refine ⟨?_, ?_, ?_, ?_⟩
  · intro i j n hi hj
    rw [hreserved] at hi hj
    exact ha.reserved_injective i j n hi hj
  · intro i n hi hmem
    rw [hreserved] at hi
    exact ha.reserved_free i n hi ((hsessions n).mp hmem).2
  · intro i n hi hd
    rw [hreturned] at hi
    rcases hlive i hd with ⟨hd, hne⟩
    refine (hsessions n).mpr ⟨?_, ha.returned_session i n hi hd⟩
    intro heq
    exact hne (heq ▸ hi)
  · intro i j n hi hj hdi hdj
    rw [hreturned] at hi hj
    exact ha.unique i j n hi hj (hlive i hdi).1 (hlive j hdj).1

/-! ## Steps and runs -/

lemma withDropped_of_keepsIds {effect : Effect} (hkeeps : effect.keepsIds = true) :
    h.withDropped effect = h.dropped := by
  cases effect with
  | drop node => cases hkeeps
  | _ => rfl

section Register

variable (cfg calls) (h) (call : ℕ) (r : Reading)

/-- The move of a registration when it takes its next step. -/
def move : RegisterPc × Effect :=
  (h.system.registers call).step cfg (calls call) r h.system.dispatcher

lemma reserved_register (i : ℕ) : (h.next cfg calls (.register call r)).reserved i =
      if i = call then (h.move cfg calls call r).1.reserved else h.reserved i := by
  calc (h.next cfg calls (.register call r)).reserved i
    _ = (if i = call then (h.move cfg calls call r).1 else h.system.registers i).reserved :=
        congrArg RegisterPc.reserved (Function.update_apply _ _ _ _)
    _ = _ := apply_ite _ _ _ _

lemma returned_register (i : ℕ) : (h.next cfg calls (.register call r)).returned i =
      if i = call then (h.move cfg calls call r).1.returned else h.returned i := by
  calc (h.next cfg calls (.register call r)).returned i
    _ = (if i = call then (h.move cfg calls call r).1 else h.system.registers i).returned :=
        congrArg RegisterPc.returned (Function.update_apply _ _ _ _)
    _ = _ := apply_ite _ _ _ _

end Register

lemma Apart.register (ha : h.Apart) (call : ℕ) (r : Reading)
    (hlook : h.LooksUpApart calls (.register call r)) :
    (h.next cfg calls (.register call r)).Apart := by
  have hreserved := reserved_register cfg calls h call r
  have hreturned := returned_register cfg calls h call r
  have hdispatcher : (h.next cfg calls (.register call r)).system.dispatcher =
      (h.move cfg calls call r).2.apply h.system.dispatcher := rfl
  have hdropped : (h.next cfg calls (.register call r)).dropped =
      h.withDropped (h.move cfg calls call r).2 := rfl
  rcases RegisterPc.move_step cfg (calls call) r h.system.dispatcher (h.system.registers call) with
    ⟨n, hlookup, hfree, heffect, hres, hret⟩ | ⟨session, hn, heffect, hres, hret⟩ |
    ⟨heffect, hres, hret⟩
  · refine ha.of_settle call hfree (hlook n hlookup) ?_ ?_ ?_ ?_
    · intro i
      rw [hreserved, move, hres]
    · intro i
      rw [hreturned, move, hret]
    · rw [hdropped, move, heffect]
      rfl
    · intro m
      rw [hdispatcher, move, heffect]
      rfl
  · refine ha.of_install hn ?_ ?_ ?_ ?_
    · intro i
      rw [hreserved, move, hres]
    · intro i
      rw [hreturned, move, hret]
    · rw [hdropped, move, heffect]
      rfl
    · intro m
      rw [hdispatcher, move, heffect]
      simp [Effect.apply]
  · refine ha.of_quiet ?_ ?_ ?_ ?_
    · intro i
      rw [hreserved, move]
      split
      next hic => exact hic ▸ hres
      next => exact .inl rfl
    · intro i
      rw [hreturned, move]
      split
      next hic => exact hic ▸ hret
      next => rfl
    · rw [hdropped]
      exact withDropped_of_keepsIds heffect
    · intro m
      rw [hdispatcher]
      exact Effect.mem_sessions_of_keepsIds _ heffect m

lemma Apart.cancel (ha : h.Apart) (call : ℕ) : (h.next cfg calls (.cancel call)).Apart := by
  have hregisters : ∀ i, (h.next cfg calls (.cancel call)).system.registers i =
      if i = call then DispatcherSystem.abort (h.system.registers call)
      else h.system.registers i := fun _ => Function.update_apply _ _ _ _
  refine ha.of_quiet ?_ ?_ rfl fun _ => Iff.rfl
  · intro i
    unfold reserved
    rw [hregisters]
    split
    next hic =>
      -- whether it had returned or is dropped, the call holds no id now
      rw [hic]
      cases h.system.registers call <;> exact .inr rfl
    next => exact .inl rfl
  · intro i
    unfold returned
    rw [hregisters]
    split
    next hic =>
      rw [hic]
      cases h.system.registers call <;> rfl
    next => rfl

lemma Apart.next (ha : h.Apart) (e : DispatcherEvent) (hlook : h.LooksUpApart calls e) :
    (h.next cfg calls e).Apart := by
  -- the steps of the other tasks move no registration
  have hquiet : (h.system.effect cfg calls e).keepsIds = true →
      (h.next cfg calls e).system.registers = h.system.registers →
      (h.next cfg calls e).Apart := by
    intro hkeeps hregisters
    refine ha.of_quiet ?_ ?_ (withDropped_of_keepsIds hkeeps) ?_
    · intro i
      exact .inl (congrArg (fun f => (f i).reserved) hregisters)
    · intro i
      exact congrArg (fun f => (f i).returned) hregisters
    · intro n
      rw [IdHistory.next, DispatcherSystem.dispatcher_next]
      exact Effect.mem_sessions_of_keepsIds _ hkeeps n
  cases e with
  | register call r => exact ha.register call r hlook
  | cancel call => exact ha.cancel call
  | sweep r order =>
    rcases SweepPc.keepsIds_step cfg r order h.system.dispatcher h.system.sweep with
      hkeeps | ⟨node, _, _, _, heffect⟩
    · exact hquiet hkeeps rfl
    · have hdrop : h.system.effect cfg calls (.sweep r order) = .drop node := heffect
      refine ha.of_drop node rfl rfl ?_ ?_
      · rw [IdHistory.next, hdrop]
      · intro n
        rw [IdHistory.next, DispatcherSystem.dispatcher_next, hdrop]
        simp [Effect.apply]
  | report stream r inbound clientGone => exact hquiet (ReportPc.keepsIds_step ..) rfl
  | command now req => exact hquiet rfl rfl

lemma apart_start (cluster : ClusterState) (startingNodeId : NodeId) :
    (start cluster startingNodeId).Apart where
  reserved_injective _ _ _ hi := by cases hi
  reserved_free _ _ hi := by cases hi
  returned_session _ _ hi := by cases hi
  unique _ _ _ hi := by cases hi

/-- In every run in which no call looks up an id that another one has settled on and not yet
installed, the ids of the live workers are unique. -/
theorem uniqueIds_of_looksUpApart (cfg : DispatcherConfig) (calls : ℕ → RegisterRequest)
    (cluster : ClusterState) (startingNodeId : NodeId) (events : List DispatcherEvent)
    (h : Machine.Along (IdHistory.next cfg calls) (LooksUpApart calls)
      (start cluster startingNodeId) events) :
    (events.foldl (IdHistory.next cfg calls) (start cluster startingNodeId)).UniqueIds :=
  (h.invariant (fun _ e ha hlook => ha.next e hlook) (apart_start cluster startingNodeId)).unique

/-! ## Calls that follow each other -/

/-- No other call has settled on an id without having installed its session. -/
def Alone (call : ℕ) (h : IdHistory) : Prop :=
  ∀ other ≠ call, h.reserved other = none

lemma looksUpApart_of_alone {call : ℕ} (ha : h.Alone call) (r : Reading) :
    h.LooksUpApart calls (.register call r) := by
  intro n hlookup other hreserved
  have hnone : h.reserved other = none := by
    by_cases hother : other = call
    · rw [hother]
      exact RegisterPc.reserved_of_lookingUp hlookup
    · exact ha other hother
  rw [hnone] at hreserved
  cases hreserved

/-- A call that runs alone meets the condition, and leaves the other calls as they are. -/
lemma along_register_of_alone (cfg : DispatcherConfig) (calls : ℕ → RegisterRequest) {call : ℕ}
    (ha : h.Alone call) (rs : List Reading) :
    Machine.Along (IdHistory.next cfg calls) (LooksUpApart calls) h
        (rs.map (.register call)) ∧
      ((rs.map (DispatcherEvent.register call)).foldl (IdHistory.next cfg calls) h).Alone call := by
  induction rs generalizing h with
  | nil => exact ⟨trivial, ha⟩
  | cons r rs ih =>
    have hnext : (h.next cfg calls (.register call r)).Alone call := by
      intro other hne
      rw [reserved_register, if_neg hne]
      exact ha other hne
    have hrest := ih hnext
    exact ⟨⟨looksUpApart_of_alone ha r, hrest.1⟩, hrest.2⟩

def steps (call : ℕ) : List DispatcherEvent :=
  (replicate 7 (readingAt 1)).map (.register call)

/-- Both calls have returned, with different ids. -/
theorem uniqueIds_of_two_calls :
    let final := (steps 0 ++ steps 1).foldl (IdHistory.next plainConfig fun _ => plainRequest 0)
      (start .default 100)
    final.returned 0 = some 100 ∧ final.returned 1 = some 101 ∧ final.UniqueIds := by
  have hready : (start .default 100).Alone 0 := fun _ _ => rfl
  have hfirst := along_register_of_alone plainConfig (fun _ => plainRequest 0) hready
    (replicate 7 (readingAt 1))
  have hdone : ((steps 0).foldl (IdHistory.next plainConfig fun _ => plainRequest 0)
      (start .default 100)).Alone 1 := by
    intro other hne
    by_cases hother : other = 0
    · -- the first call has returned
      subst hother
      decide +kernel
    · exact hfirst.2 other hother
  have hsecond := along_register_of_alone plainConfig (fun _ => plainRequest 0) hdone
    (replicate 7 (readingAt 1))
  have halong := Machine.along_append.mpr ⟨hfirst.1, hsecond.1⟩
  exact ⟨by decide +kernel, by decide +kernel, uniqueIds_of_looksUpApart _ _ _ _ _ halong⟩

def overlappingRegistrations : List DispatcherEvent :=
  replicate 2 (.register 0 (readingAt 1)) ++ replicate 5 (.register 1 (readingAt 1)) ++
    replicate 3 (.register 0 (readingAt 1))

theorem id_returned_twice :
    ¬ (overlappingRegistrations.foldl (IdHistory.next plainConfig fun _ => plainRequest 7)
      (start .default 100)).UniqueIds := by
  intro hunique
  have hsame : (0 : ℕ) = 1 :=
    -- both calls have returned id 7, and neither session has been dropped
    hunique 0 1 7 (by decide +kernel) (by decide +kernel) (by decide +kernel) (by decide +kernel)
  cases hsame

end IdHistory

end ZLayer.Scheduler
