import ZLayer.Storage.LayerSync

/-!
# SyncRules — proof rules for the calls of the sync manager

`Keeps J Q c s`: started in `s`, the call `c` has `J` of the world after each of its steps, and `Q`
of its value and the session if it returns one.  One rule per building block of the calls; a crash
may fall after any step, so `J` is what a new process finds.  The last section says how the
building blocks end when nothing else is running.
-/

namespace ZLayer.Storage

open Lib

def Keeps {α : Type} (J : World → Prop) (Q : α → Session → Prop) (c : SyncCall α) (s : Session) :
    Prop :=
  Call.Wp (fun s => J s.world) Q c s

section Rules

variable {α β ρ : Type} {J : World → Prop} {s : Session}

variable {Q : α → Session → Prop}

lemma keeps_pure {a : α} (hJ : J s.world) (hQ : Q a s) : Keeps J Q (pure a) s :=
  Call.wp_pure hJ hQ

lemma keeps_throw {e : LayerStorageError} (hJ : J s.world) : Keeps J Q (throw e) s :=
  Call.wp_throw hJ

variable {c : SyncCall α}

lemma keeps_bind {Q : β → Session → Prop} {k : α → SyncCall β}
    (h : Keeps J (fun a s => Keeps J Q (k a) s) c s) : Keeps J Q (c >>= k) s :=
  Call.wp_bind h

lemma Keeps.mono {Q Q' : α → Session → Prop} (h : Keeps J Q c s)
    (hQ : ∀ a s, J s.world → Q a s → Q' a s) : Keeps J Q' c s :=
  Call.Wp.mono h hQ

/-- The operation of an external call may take effect whether or not the caller learns of it. -/
lemma conclude_cases (s : Session) (wrap : String → LayerStorageError)
    (next : World × Except String ρ) :
    ((s.conclude wrap next).1 = s.answered next.1 ∨
        (s.conclude wrap next).1 = s.answered s.world) ∧
      ∀ a, (s.conclude wrap next).2 = .ok a →
        next.2 = .ok a ∧ (s.conclude wrap next).1 = s.answered next.1 := by
  unfold Session.conclude
  cases (s.answers 0).ending with
  | ok =>
    refine ⟨.inl rfl, fun a ha => ⟨?_, rfl⟩⟩
    cases hresult : next.2 with
    | ok b =>
      rw [hresult] at ha
      cases ha
      rfl
    | error text =>
      rw [hresult] at ha
      cases ha
  | lost => exact ⟨.inl rfl, fun a ha => by cases ha⟩
  | failed => exact ⟨.inr rfl, fun a ha => by cases ha⟩

lemma keeps_external {Q : ρ → Session → Prop} {wrap : String → LayerStorageError}
    {op : Answer → World → World × Except String ρ} (hJ : J s.world)
    (hop : J (op (s.answers 0) s.world).1)
    (hQ : ∀ a, (op (s.answers 0) s.world).2 = .ok a →
      Q a (s.answered (op (s.answers 0) s.world).1)) :
    Keeps J Q (external wrap op) s := by
  obtain ⟨hstate, hvalue⟩ := conclude_cases s wrap (op (s.answers 0) s.world)
  unfold Keeps external
  refine Call.wp_act hJ ?_ fun a ha => ?_
  · rcases hstate with h | h <;> rw [h]
    · exact hop
    · exact hJ
  · obtain ⟨hok, hsession⟩ := hvalue a ha
    rw [hsession]
    exact hQ a hok

lemma keeps_callS3 {Q : ρ → Session → Prop}
    {op : Answer → ObjectStore → ObjectStore × Except String ρ} (hJ : J s.world)
    (hop : J { s.world with s3 := (op (s.answers 0) s.world.s3).1 })
    (hQ : ∀ a, (op (s.answers 0) s.world.s3).2 = .ok a →
      Q a (s.answered { s.world with s3 := (op (s.answers 0) s.world.s3).1 })) :
    Keeps J Q (callS3 op) s :=
  keeps_external hJ hop hQ

lemma keeps_internal {Q : ρ → Session → Prop} {op : Session → World × ρ} (hJ : J s.world)
    (hop : J (op s).1) (hQ : Q (op s).2 { s with world := (op s).1 }) :
    Keeps J Q (internal op) s :=
  Call.wp_act (I := fun s : Session => J s.world) hJ hop fun a ha => by
    cases ha
    exact hQ

variable {body : SyncCall α}

section

variable (hguards : ∀ w g, J w → J { w with guards := g }) (hJ : J s.world)

include hguards hJ

/-- A block that holds a guard. -/
lemma keeps_guarded {ready : Session → Bool} {take drop : Guards → Guards}
    (h : ready s = true → Keeps J (fun a s => Q a (setGuards drop s)) body (setGuards take s)) :
    Keeps J Q (Call.ofProc do
      Proc.await ready (setGuards take)
      let result ← body.toProc
      Proc.act fun s => (setGuards drop s, ())
      return result) s := by
  refine Proc.wp_bind ⟨hJ, fun hready => ⟨hguards _ _ hJ, ?_⟩⟩
  refine Proc.wp_bind (Proc.Wp.mono (h hready) fun result s hJ hresult => ?_)
  exact Proc.wp_bind (Proc.wp_act hJ (hguards _ _ hJ) (Proc.wp_pure (hguards _ _ hJ) hresult))

lemma keeps_withRead
    (h : s.world.guards.canRead = true → Keeps J
      (fun a s => Q a (setGuards (fun g => { g with readers := g.readers - 1 }) s)) body
      (setGuards (fun g => { g with readers := g.readers + 1 }) s)) :
    Keeps J Q (withRead body) s :=
  keeps_guarded hguards hJ h

lemma keeps_withWrite
    (h : s.world.guards.canWrite = true → Keeps J
      (fun a s => Q a (setGuards (fun g => { g with writer := false }) s)) body
      (setGuards (fun g => { g with writer := true }) s)) :
    Keeps J Q (withWrite body) s :=
  keeps_guarded hguards hJ h

end

lemma keeps_getState {Q : Option SyncState → Session → Prop} (key : String) (hJ : J s.world)
    (hQ : Q s.world.states[key]? s) : Keeps J Q (getState key) s :=
  keeps_internal hJ hJ hQ

lemma keeps_saveState {Q : Unit → Session → Prop} {state : SyncState} (hJ : J s.world)
    (hsaved : J { s.world with db := s.world.db.insert state.containerId.toKey state })
    (hQ : Q () (s.answered
      { s.world with db := s.world.db.insert state.containerId.toKey state })) :
    Keeps J Q (saveState state) s :=
  keeps_external hJ hsaved fun _ _ => hQ

/-- An update changes the state in memory, if there is one, and then saves it. -/
lemma keeps_updateState {Q : Unit → Session → Prop} {key : String}
    {f : Int → SyncState → SyncState} (hJ : J s.world)
    (hmemory : ∀ now, J { s.world with states := s.world.states.modify key (f now) })
    (hsaved : ∀ now state, s.world.states[key]? = some state →
      J { s.world with
          states := s.world.states.modify key (f now)
          db := s.world.db.insert (f now state).containerId.toKey (f now state) })
    (hQ : ∀ now db k s', J s'.world → s'.world =
        { s.world with states := s.world.states.modify key (f now), db := db } →
      s'.answers = (fun n => s.answers (n + k)) → Q () s') :
    Keeps J Q (updateState key f) s := by
  refine keeps_bind (keeps_internal hJ (hmemory _) ?_)
  cases hstate : s.world.states[key]? with
  | none =>
    simp only [Option.map_none]
    exact keeps_pure (hmemory _) (hQ _ s.world.db 0 _ (hmemory _) rfl rfl)
  | some state =>
    simp only [Option.map_some]
    exact keeps_saveState (hmemory _) (hsaved _ state hstate)
      (hQ _ _ 1 _ (hsaved _ state hstate) rfl rfl)

lemma keeps_removeTarball {Q : Unit → Session → Prop} {name : String} (hJ : J s.world)
    (hremoved : J { s.world with staging := s.world.staging.erase name })
    (hQ : ∀ staging, Q () (s.answered { s.world with staging := staging })) :
    Keeps J Q (removeTarball name) s := by
  obtain ⟨hstate, -⟩ := conclude_cases s .io
    ({ s.world with staging := s.world.staging.erase name }, .ok ())
  unfold Keeps removeTarball
  refine Call.wp_act hJ ?_ fun a _ => ?_
  · rcases hstate with h | h <;> rw [h]
    · exact hremoved
    · exact hJ
  · rcases hstate with h | h <;> rw [h]
    · exact hQ _
    · exact hQ s.world.staging

/-! ### Parts -/

/-- The part `number` of the file, as far as the read gets, with the tag it is given. -/
def Session.nextPart (s : Session) (partSize : Nat) (file : List UInt8) (number : Nat) :
    ObjectStore.Part where
  eTag := (s.answers 1).eTag
  data := (file.drop ((number - 1) * partSize)).take (min partSize (s.answers 0).readLen)

/-- The session after the part `number` has been read and uploaded. -/
def Session.afterPart (s : Session) (uploadId : Nat) (key : String) (number : Nat)
    (part : ObjectStore.Part) : Session where
  world := { s.world with s3 := (s.world.s3.uploadPart uploadId key number part).1 }
  answers := fun n => s.answers (n + 2)

lemma keeps_uploadPart {Q : String → Session → Prop} {name key : String}
    {uploadId partSize number : Nat} (hJ : J s.world)
    (hpart : ∀ file, s.world.staging[name]? = some file →
      J (s.afterPart uploadId key number (s.nextPart partSize file number)).world)
    (hQ : ∀ file upload, s.world.staging[name]? = some file →
      s.world.s3.find uploadId key = some upload →
        Q (s.answers 1).eTag
          (s.afterPart uploadId key number (s.nextPart partSize file number))) :
    Keeps J Q (uploadPart name uploadId key partSize number) s := by
  refine keeps_bind (keeps_external hJ (by rwa [World.onFile_fst]) fun data hdata => ?_)
  obtain ⟨file, hfile, rfl⟩ := World.onFile_eq_ok hdata
  rw [World.onFile_fst]
  refine keeps_callS3 hJ (hpart file hfile) fun eTag heTag => ?_
  have hfind : ∃ upload, s.world.s3.find uploadId key = some upload ∧
      eTag = (s.answers 1).eTag := by
    change (s.world.s3.uploadPart uploadId key number _).2 = .ok eTag at heTag
    unfold ObjectStore.uploadPart at heTag
    cases hfound : s.world.s3.find uploadId key with
    | none =>
      rw [hfound] at heTag
      cases heTag
    | some upload =>
      rw [hfound] at heTag
      cases heTag
      exact ⟨upload, rfl, rfl⟩
  obtain ⟨upload, hfound, rfl⟩ := hfind
  exact hQ file upload hfile hfound

end Rules

/-! ## From the rules to whole calls -/

section Adequacy

variable {α : Type} {J : World → Prop} {Q : α → Session → Prop} {c : SyncCall α} {s : Session}

lemma Keeps.of_outcome (h : Keeps J Q c s) {a : α} {s' : Session}
    (hout : c.outcome s = (some (.ok a), s')) : Q a s' :=
  Proc.Wp.of_outcome h hout a rfl

lemma Keeps.outcome (h : Keeps J Q c s) : J (c.outcome s).2.world :=
  Proc.Wp.outcome_snd h

lemma Keeps.interrupt (h : Keeps J Q c s) (k : Nat) : J (Proc.interrupt k c.toProc s).world :=
  Proc.Wp.interrupt h k

end Adequacy

/-! ## What the tables keep -/

/-- Every step of the call keeps `P` of the states in memory and in the database. -/
def Stable {α : Type} (P : HashMap String SyncState → HashMap String SyncState → Prop)
    (c : SyncCall α) : Prop :=
  ∀ s : Session, P s.world.states s.world.db →
    Keeps (fun w => P w.states w.db) (fun _ _ => True) c s

namespace Stable

variable {α β ρ : Type} {P : HashMap String SyncState → HashMap String SyncState → Prop}

lemma pure (a : α) : Stable P (Pure.pure a) :=
  fun _ h => keeps_pure h trivial

lemma throw (e : LayerStorageError) : Stable P (MonadExcept.throw e : SyncCall α) :=
  fun _ h => keeps_throw h

lemma bind {c : SyncCall α} {k : α → SyncCall β} (hc : Stable P c) (hk : ∀ a, Stable P (k a)) :
    Stable P (c >>= k) :=
  fun s h => keeps_bind ((hc s h).mono fun a s' h' _ => hk a s' h')

lemma external {wrap : String → LayerStorageError} {op : Answer → World → World × Except String ρ}
    (hop : ∀ answer w, P w.states w.db → P (op answer w).1.states (op answer w).1.db) :
    Stable P (external wrap op) :=
  fun _ h => keeps_external h (hop _ _ h) fun _ _ => trivial

lemma internal {op : Session → World × ρ}
    (hop : ∀ s, P s.world.states s.world.db → P (op s).1.states (op s).1.db) :
    Stable P (internal op) :=
  fun s h => keeps_internal h (hop s h) trivial

lemma callS3 (op : Answer → ObjectStore → ObjectStore × Except String ρ) : Stable P (callS3 op) :=
  external fun _ _ => id

variable {body : SyncCall α}

lemma withRead (h : Stable P body) : Stable P (withRead body) :=
  fun _ hs => keeps_withRead (fun _ _ => id) hs fun _ => h _ hs

lemma withWrite (h : Stable P body) : Stable P (withWrite body) :=
  fun _ hs => keeps_withWrite (fun _ _ => id) hs fun _ => h _ hs

lemma getState (key : String) : Stable P (getState key) :=
  internal fun _ => id

lemma removeTarball (name : String) : Stable P (removeTarball name) :=
  fun _ h => keeps_removeTarball h h fun _ => trivial

lemma onFile (wrap : String → LayerStorageError) (name : String) (f : Answer → List UInt8 → ρ) :
    Stable P (Storage.external wrap fun answer w => w.onFile name (f answer)) :=
  external fun _ w h => by rwa [World.onFile_fst]

lemma uploadParts {name objectKey : String} {uploadId partSize : Nat} (numbers : List Nat) :
    Stable P (uploadParts name uploadId objectKey partSize numbers) := by
  induction numbers with
  | nil => exact pure _
  | cons number rest ih =>
    have hread : Stable P (readPart name partSize number) := onFile _ name _
    exact bind (bind hread fun _ => callS3 _) fun _ => bind ih fun _ => pure _

/-- The updates of the container's state keep `P`. -/
def Updates (P : HashMap String SyncState → HashMap String SyncState → Prop)
    (id : ContainerLayerId) : Prop :=
  ∀ f : Int → SyncState → SyncState, (∀ now s, (f now s).containerId = s.containerId) →
    Stable P (Storage.withWrite (updateState id.toKey f))

lemma uploadSnapshot {id : ContainerLayerId} (hupdate : Updates P id) (lib : LayerLib)
    (cfg : LayerStorageConfig) (name : String) (snapshot : LayerSnapshot) :
    Stable P (uploadSnapshot lib cfg id name snapshot) := by
  refine bind (onFile _ name _) fun fileSize => ?_
  dsimp only
  split
  · exact throw _
  · exact bind (callS3 _) fun _ => bind (hupdate _ fun _ _ => rfl) fun _ =>
      bind (uploadParts _) fun _ => bind (callS3 _) fun _ => callS3 _

end Stable

/-! ## How the pieces of a call end -/

section Outcomes

variable {ρ α : Type} {s : Session}

lemma outcome_external (wrap : String → LayerStorageError)
    (op : Answer → World → World × Except String ρ) (s : Session) :
    (external wrap op).outcome s =
      match (s.answers 0).ending with
      | .ok => (some ((op (s.answers 0) s.world).2.mapError wrap),
          s.answered (op (s.answers 0) s.world).1)
      | .lost => (some (.error (wrap (s.answers 0).error)),
          s.answered (op (s.answers 0) s.world).1)
      | .failed => (some (.error (wrap (s.answers 0).error)), s.answered s.world) := by
  simp only [Call.outcome, Call.toProc, external, Call.ofProc, Proc.outcome_act,
    Session.conclude]
  cases (s.answers 0).ending <;> rfl

variable {op : Answer → World → World × Except String ρ} {wrap : String → LayerStorageError}

lemma outcome_external_ok {a : ρ} {w : World} (hending : (s.answers 0).ending = .ok)
    (hop : op (s.answers 0) s.world = (w, .ok a)) :
    (external wrap op).outcome s = (some (.ok a), s.answered w) := by
  rw [outcome_external, hending]
  simp [hop, Except.mapError]

lemma external_fails
    (h : (s.answers 0).ending = .ok → ∃ text, (op (s.answers 0) s.world).2 = .error text) :
    (external wrap op).Fails s := by
  rw [Call.Fails, outcome_external]
  cases hending : (s.answers 0).ending with
  | failed | lost => exact ⟨_, _, rfl⟩
  | ok =>
    rcases h hending with ⟨text, htext⟩
    exact ⟨wrap text, s.answered (op (s.answers 0) s.world).1, by simp [htext, Except.mapError]⟩

lemma outcome_withRead (body : SyncCall α) (hfree : s.world.guards.canRead = true) :
    (withRead body).outcome s =
      match body.outcome (setGuards (fun g => { g with readers := g.readers + 1 }) s) with
      | (some result, s') =>
        (some result, setGuards (fun g => { g with readers := g.readers - 1 }) s')
      | (none, s') => (none, s') := by
  simp only [Call.outcome, Call.toProc, withRead, Call.ofProc]
  rw [Proc.outcome_bind_some (a := ()) (by rw [Proc.outcome_await, if_pos hfree]),
    Proc.outcome_bind]
  rcases Proc.outcome body _ with ⟨_ | result, s'⟩ <;> rfl

/-- A write request waits as long as some guard is alive. -/
lemma outcome_withWrite_of_reader (body : SyncCall α) (hread : s.world.guards.readers ≠ 0) :
    (withWrite body).outcome s = (none, s) := by
  have hwait : s.world.guards.canWrite = false := by simp [Guards.canWrite, hread]
  simp only [Call.outcome, Call.toProc, withWrite, Call.ofProc]
  exact Proc.outcome_bind_none (by rw [Proc.outcome_await, hwait]; rfl) _

lemma outcome_getState (key : String) (s : Session) :
    (getState key).outcome s = (some (.ok s.world.states[key]?), s) := rfl

variable {body : SyncCall α}

/-- Taking and dropping a read guard. -/
lemma outcome_withRead_ok {a : α} (hfree : s.world.guards.writer = false) {answers' : ℕ → Answer}
    (hbody : body.outcome (setGuards (fun g => { g with readers := g.readers + 1 }) s) =
      (some (.ok a), ⟨(setGuards (fun g => { g with readers := g.readers + 1 }) s).world,
      answers'⟩)) :
    (withRead body).outcome s = (some (.ok a), ⟨s.world, answers'⟩) := by
  rw [outcome_withRead _ (by simp [Guards.canRead, hfree]), hbody]
  simp [setGuards]

lemma outcome_withWrite_ok {a : α} {s' : Session} (hfree : s.world.guards = ⟨0, false⟩)
    (hbody : body.outcome (setGuards (fun g => { g with writer := true }) s) = (some (.ok a), s')) :
    (withWrite body).outcome s =
      (some (.ok a), setGuards (fun g => { g with writer := false }) s') := by
  have hgranted : s.world.guards.canWrite = true := by rw [hfree]; rfl
  simp only [Call.outcome, Call.toProc, withWrite, Call.ofProc]
  rw [Proc.outcome_bind_some (a := ()) (by rw [Proc.outcome_await, if_pos hgranted])]
  exact Proc.outcome_bind_some hbody _

lemma outcome_updateState_ok {key : String} {f : Int → SyncState → SyncState}
    {state : SyncState} (hending : (s.answers 0).ending = .ok)
    (hstate : s.world.states[key]? = some state) :
    (updateState key f).outcome s =
      (some (.ok ()), s.answered
        { s.world with
          states := s.world.states.modify key (f (s.answers 0).now)
          db := s.world.db.insert (f (s.answers 0).now state).containerId.toKey
            (f (s.answers 0).now state) }) := by
  refine (Call.outcome_bind_ok rfl _).trans ?_
  simp only [hstate, Option.map_some]
  exact outcome_external_ok hending rfl

end Outcomes

end ZLayer.Storage
