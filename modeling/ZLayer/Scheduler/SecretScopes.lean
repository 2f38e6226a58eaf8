import ZLayer.Scheduler.DekRotation

/-!
# SecretScopes — secrets of different scopes

A store joins scope and name by a colon and keeps the secret under the joined key.  An operation
touches the row of its own key and no other, and what a query sees of the state is one row, the
envelope and the key material the store can unlock with it.  So a secret is isolated from the
operations under other keys.  Scopes and names with colons can have the same key, and the keys of
one scope can start like those of another.
-/

namespace ZLayer.Scheduler

open Lib Secrets RaftSecretsStore Machine HashMap List

/-! ## Calls on one store -/

inductive SecretCall
  | set (scope name value : String) (nonce : Nonce) (secs : Int64) (now : Nat)
  | delete (scope name : String) (now : Nat)

namespace SecretCall

def scope : SecretCall → String
  | .set scope .. | .delete scope .. => scope

def name : SecretCall → String
  | .set _ name .. | .delete _ name .. => name

def key (call : SecretCall) : String := makeKey call.scope call.name

end SecretCall

/-- A store and the state it reads.  `live` are the secrets whose last successful operation set
them, as the callers see it. -/
structure Site where
  state : SecretsState
  store : RaftSecretsStore
  live : Finset (String × String)

def newRow (state : SecretsState) (scope name : String) (secs : Int64) (ciphertext : Bytes)
    (dekGeneration : UInt64) : ReplicatedSecret :=
  let existing := state.secrets[makeKey scope name]?
  { storageKey := makeKey scope name
    ciphertext
    dekGeneration
    metadata := nextMetadata name secs existing
    nodeAffinity := existing.bind (·.nodeAffinity) }

namespace Site

def step (c : Crypto) (node : RaftCoordinator) (site : Site) : SecretCall → Site
  | .set scope name value nonce secs now =>
    let result :=
      (setSecret c (node.handle now) site.store scope name value nonce secs).run site.state
    { state := result.1
      store := result.2.1
      live :=
        match result.2.2 with
        | .ok () => insert (scope, name) site.live
        | .error _ => site.live }
  | .delete scope name now =>
    let result := (deleteSecret (node.handle now) scope name).run site.state
    { site with
      state := result.1
      live :=
        match result.2 with
        | .ok () => site.live.erase (scope, name)
        | .error _ => site.live }

end Site

/-! ## What the calls do -/

section Calls

variable {c : Crypto} {node : RaftCoordinator} {store : RaftSecretsStore} {state : SecretsState}
  {scope name value : String} {nonce : Nonce} {secs : Int64} {now : Nat}

variable {store' : RaftSecretsStore}

lemma run_setSecret_of_error {e : SecretsError}
    (h : store.encryptUnderCurrent c state nonce (utf8Bytes value) = (store', .error e)) :
    (setSecret c (node.handle now) store scope name value nonce secs).run state =
      (state, store', .error e) := by
  simp [setSecret, h]

lemma run_setSecret_of_ok {ciphertext : Bytes} {dekGeneration : UInt64}
    (h : store.encryptUnderCurrent c state nonce (utf8Bytes value) =
      (store', .ok (ciphertext, dekGeneration))) :
    (setSecret c (node.handle now) store scope name value nonce secs).run state =
      if node.isLeader then
        ({ state with
            secrets := state.secrets.insert (makeKey scope name)
              (newRow state scope name secs ciphertext dekGeneration) }, store', .ok ())
      else (state, store', .error node.notLeader) := by
  cases hleader : node.isLeader <;>
    simp [setSecret, h, RaftCoordinator.handle, RaftCoordinator.proposeSecretsOp, hleader,
      Prog.bind, SecretsState.apply, RaftCoordinator.proposalOutcome,
      ClusterState.secretsResponse, newRow]

lemma run_deleteSecret : (deleteSecret (node.handle now) scope name).run state =
      if makeKey scope name ∈ state.secrets then
        if node.isLeader then
          ({ state with secrets := state.secrets.erase (makeKey scope name) }, .ok ())
        else (state, .error node.notLeader)
      else (state, .error (.notFound name)) := by
  by_cases hmem : makeKey scope name ∈ state.secrets <;> cases hleader : node.isLeader <;>
    simp [deleteSecret, hmem, RaftCoordinator.handle, RaftCoordinator.proposeSecretsOp, hleader,
      SecretsState.apply, RaftCoordinator.proposalOutcome, ClusterState.secretsResponse]

end Calls

/-! ## What a store can unlock -/

section Unlock

variable {c : Crypto} {store store' : RaftSecretsStore} {envelope : WrappedDek}

/-- The DEK after a refresh for the envelope, or the error of the refresh. -/
def unlocked (c : Crypto) (store : RaftSecretsStore) (envelope : WrappedDek) :
    Except SecretsError CachedDek :=
  (store.withDek c envelope .ok).2

lemma withDek_fst {α : Type} (use : CachedDek → Except SecretsError α) :
    (store.withDek c envelope use).1 = (store.ensureDekForEnvelope c envelope).1 := by
  unfold withDek
  split
  next hrefresh => rw [hrefresh]
  next hrefresh =>
    rw [hrefresh]
    split <;> rfl

/-- What the use of the DEK gives depends on what can be unlocked. -/
lemma withDek_snd {α : Type} (use : CachedDek → Except SecretsError α) :
    (store.withDek c envelope use).2 = (unlocked c store envelope).bind use := by
  unfold unlocked withDek
  split
  · rfl
  · split <;> rfl

lemma ensureDek_nodeId : (store.ensureDekForEnvelope c envelope).1.nodeId = store.nodeId := by
  unfold ensureDekForEnvelope
  split
  · rfl
  · split
    · rfl
    · split <;> rfl

/-- A second refresh for the same envelope finds what the first one left. -/
lemma unlocked_ensureDek :
    unlocked c (store.ensureDekForEnvelope c envelope).1 envelope = unlocked c store envelope := by
  by_cases hhit : store.dekCache.map (·.generation) = some envelope.dekGeneration
  · simp [ensureDekForEnvelope, hhit]
  · cases hwrap : envelope.wraps[store.nodeId]? with
    | none => simp [ensureDekForEnvelope, hhit, hwrap]
    | some wrapped =>
      cases hopen : ClusterDek.unwrap c store.nodePriv wrapped with
      | error e => simp [ensureDekForEnvelope, hhit, hwrap, hopen]
      | ok dek => simp [unlocked, withDek, ensureDekForEnvelope, hhit, hwrap, hopen]

/-- Two stores see the same of a state with the envelope. -/
structure SameStore (c : Crypto) (wrappedDek : Option WrappedDek)
    (store store' : RaftSecretsStore) : Prop where
  nodeId : store.nodeId = store'.nodeId
  unlocked : ∀ envelope, wrappedDek = some envelope →
    unlocked c store envelope = unlocked c store' envelope

variable {wrappedDek : Option WrappedDek}

lemma SameStore.symm (h : SameStore c wrappedDek store store') :
    SameStore c wrappedDek store' store :=
  ⟨h.nodeId.symm, fun envelope henvelope => (h.unlocked envelope henvelope).symm⟩

lemma SameStore.trans {store'' : RaftSecretsStore} (h : SameStore c wrappedDek store store')
    (h' : SameStore c wrappedDek store' store'') : SameStore c wrappedDek store store'' :=
  ⟨h.nodeId.trans h'.nodeId,
    fun envelope henvelope => (h.unlocked envelope henvelope).trans
      (h'.unlocked envelope henvelope)⟩

/-- An encryption leaves a store that sees the same. -/
lemma sameStore_encryptUnderCurrent (state : SecretsState) (nonce : Nonce) (plaintext : Bytes) :
    SameStore c state.wrappedDek (store.encryptUnderCurrent c state nonce plaintext).1 store := by
  unfold encryptUnderCurrent
  cases henvelope : state.wrappedDek with
  | none => exact ⟨rfl, nofun⟩
  | some envelope =>
    have hensure : SameStore c (some envelope) (store.ensureDekForEnvelope c envelope).1 store := by
      refine ⟨ensureDek_nodeId, ?_⟩
      rintro _ ⟨⟩
      exact unlocked_ensureDek
    rw [withDek_fst]
    exact hensure

variable {state state' : SecretsState} (hdek : state.wrappedDek = state'.wrappedDek)
  (hstore : SameStore c state.wrappedDek store store')

include hdek hstore in
/-- The outcome of an encryption depends on the envelope and on what can be unlocked. -/
lemma encryptUnderCurrent_congr (nonce : Nonce) (plaintext : Bytes) :
    (store.encryptUnderCurrent c state nonce plaintext).2 =
      (store'.encryptUnderCurrent c state' nonce plaintext).2 := by
  unfold encryptUnderCurrent
  rw [← hdek]
  cases henvelope : state.wrappedDek with
  | none => rfl
  | some envelope =>
    rw [withDek_snd, withDek_snd, hstore.unlocked envelope henvelope]

include hdek hstore in
/-- The outcome of a read depends on the row, the envelope and what can be unlocked. -/
lemma readInner_congr (utf8Error : Bytes → String) {scope name : String}
    (hrow : state.secrets[makeKey scope name]? = state'.secrets[makeKey scope name]?) :
    (store.readInner c utf8Error state scope name).2 =
      (store'.readInner c utf8Error state' scope name).2 := by
  unfold readInner
  dsimp only
  rw [← hdek, ← hrow, ← hstore.nodeId]
  split
  · rfl
  · split
    · rfl
    · split
      · rfl
      next envelope henvelope =>
        split
        · rfl
        · split
          · rfl
          · rw [withDek_snd, withDek_snd, hstore.unlocked envelope henvelope]

end Unlock

/-! ## What a query sees -/

/-- Two sites show the same under a key. -/
structure SameView (c : Crypto) (key : String) (site site' : Site) : Prop where
  row : site.state.secrets[key]? = site'.state.secrets[key]?
  wrappedDek : site.state.wrappedDek = site'.state.wrappedDek
  store : SameStore c site.state.wrappedDek site.store site'.store

section Views

variable {c : Crypto} {node : RaftCoordinator} {key : String} {site site' : Site}

lemma SameView.refl (site : Site) : SameView c key site site :=
  ⟨rfl, rfl, rfl, fun _ _ => rfl⟩

lemma SameView.getSecret (utf8Error : Bytes → String) {scope name : String}
    (h : SameView c (makeKey scope name) site site') :
    site.store.getSecret c utf8Error site.state scope name =
      site'.store.getSecret c utf8Error site'.state scope name := by
  rw [RaftSecretsStore.getSecret, readInner_congr h.wrappedDek h.store utf8Error h.row,
    RaftSecretsStore.getSecret]

variable {call : SecretCall}

/-- A call under another key changes nothing that is seen under this one. -/
lemma SameView.step_other (h : SameView c key site site') (hkey : call.key ≠ key) :
    SameView c key (site.step c node call) site' := by
  cases call with
  | set scope name value nonce secs now =>
    have hsame : SameStore c site.state.wrappedDek
        (site.store.encryptUnderCurrent c site.state nonce (utf8Bytes value)).1 site.store :=
      sameStore_encryptUnderCurrent site.state nonce (utf8Bytes value)
    rw [Site.step]
    rcases hencrypt : site.store.encryptUnderCurrent c site.state nonce (utf8Bytes value) with
      ⟨after, e | ⟨ciphertext, dekGeneration⟩⟩
    · rw [hencrypt] at hsame
      rw [run_setSecret_of_error hencrypt]
      exact ⟨h.row, h.wrappedDek, hsame.trans h.store⟩
    · rw [hencrypt] at hsame
      rw [run_setSecret_of_ok hencrypt]
      split
      · refine ⟨?_, h.wrappedDek, hsame.trans h.store⟩
        exact (lookup_insert_of_ne _ _ hkey).trans h.row
      · exact ⟨h.row, h.wrappedDek, hsame.trans h.store⟩
  | delete scope name now =>
    rw [Site.step, run_deleteSecret]
    split
    · split
      · refine ⟨?_, h.wrappedDek, h.store⟩
        exact (lookup_erase_of_ne _ hkey).trans h.row
      · exact h
    · exact h

/-- A call under the key has the same effect on both. -/
lemma SameView.step_same (h : SameView c key site site') (hkey : call.key = key) :
    SameView c key (site.step c node call) (site'.step c node call) := by
  subst hkey
  cases call with
  | set scope name value nonce secs now =>
    have hsame : SameStore c site.state.wrappedDek
        (site.store.encryptUnderCurrent c site.state nonce (utf8Bytes value)).1 site.store :=
      sameStore_encryptUnderCurrent site.state nonce (utf8Bytes value)
    have hsame' : SameStore c site'.state.wrappedDek
        (site'.store.encryptUnderCurrent c site'.state nonce (utf8Bytes value)).1 site'.store :=
      sameStore_encryptUnderCurrent site'.state nonce (utf8Bytes value)
    have houtcome := encryptUnderCurrent_congr h.wrappedDek h.store nonce (utf8Bytes value)
    rw [← h.wrappedDek] at hsame'
    rw [Site.step, Site.step]
    rcases hencrypt : site.store.encryptUnderCurrent c site.state nonce (utf8Bytes value) with
      ⟨after, outcome⟩
    rcases hencrypt' : site'.store.encryptUnderCurrent c site'.state nonce (utf8Bytes value) with
      ⟨after', outcome'⟩
    rw [hencrypt] at hsame houtcome
    rw [hencrypt'] at hsame' houtcome
    cases houtcome
    have hstores := hsame.trans (h.store.trans hsame'.symm)
    rcases outcome with e | ⟨ciphertext, dekGeneration⟩
    · rw [run_setSecret_of_error hencrypt, run_setSecret_of_error hencrypt']
      exact ⟨h.row, h.wrappedDek, hstores⟩
    · rw [run_setSecret_of_ok hencrypt, run_setSecret_of_ok hencrypt']
      split
      · refine ⟨?_, h.wrappedDek, hstores⟩
        have hrow : newRow site.state scope name secs ciphertext dekGeneration =
            newRow site'.state scope name secs ciphertext dekGeneration := by
          have hexisting : site.state.secrets[makeKey scope name]? =
            site'.state.secrets[makeKey scope name]? := h.row
          rw [newRow, newRow, hexisting]
        have hself (site : Site) : (site.state.secrets.insert (makeKey scope name)
            (newRow site.state scope name secs ciphertext dekGeneration))[makeKey scope name]? =
            some (newRow site.state scope name secs ciphertext dekGeneration) :=
          Std.ExtTreeMap.getElem?_insert_self
        exact (hself site).trans ((congrArg some hrow).trans (hself site').symm)
      · exact ⟨h.row, h.wrappedDek, hstores⟩
  | delete scope name now =>
    have hrow : site.state.secrets[makeKey scope name]? =
      site'.state.secrets[makeKey scope name]? := h.row
    have hmem : makeKey scope name ∈ site.state.secrets ↔
        makeKey scope name ∈ site'.state.secrets := by
      rw [Std.ExtTreeMap.mem_iff_isSome_getElem?, Std.ExtTreeMap.mem_iff_isSome_getElem?, hrow]
    rw [Site.step, Site.step, run_deleteSecret, run_deleteSecret]
    simp only [hmem]
    split
    · split
      · refine ⟨?_, h.wrappedDek, h.store⟩
        exact Std.ExtTreeMap.getElem?_erase_self.trans Std.ExtTreeMap.getElem?_erase_self.symm
      · exact h
    · exact h

end Views

/-! ## The names of a scope -/

lemma makeKey_toList (scope name : String) :
    (makeKey scope name).toList = (scope ++ ":").toList ++ name.toList := by
  rw [makeKey, String.toList_append]

lemma startsWith_makeKey (scope name : String) :
    Str.startsWith (makeKey scope name) (scope ++ ":") = true := by
  rw [Str.startsWith, makeKey_toList]
  exact isPrefixOf_iff_prefix.mpr (prefix_append ..)

lemma makeKey_inj {scope name name' : String} (h : makeKey scope name = makeKey scope name') :
    name = name' := by
  have htext := congrArg String.toList h
  rw [makeKey_toList, makeKey_toList] at htext
  exact String.toList_inj.mp (append_cancel_left htext)

/-- The rows under keys that start like those of the scope are the secrets set in it. -/
structure Listed (scope : String) (site : Site) : Prop where
  row : ∀ (key : String) (row : ReplicatedSecret), site.state.secrets[key]? = some row →
    row.storageKey = key ∧ row.nodeAffinity = none ∧
      (Str.startsWith key (scope ++ ":") →
        key = makeKey scope row.metadata.name ∧ (scope, row.metadata.name) ∈ site.live)
  live : ∀ name, (scope, name) ∈ site.live → makeKey scope name ∈ site.state.secrets

section Names

variable {c : Crypto} {node : RaftCoordinator} {scope : String} {site : Site}

variable {dekGeneration : UInt64} {ciphertext : Bytes} {secs : Int64}

lemma newRow_name {state : SecretsState} {scope name : String}
    (h : ∀ prev, state.secrets[makeKey scope name]? = some prev → prev.metadata.name = name) :
    (newRow state scope name secs ciphertext dekGeneration).metadata.name = name := by
  cases hexisting : state.secrets[makeKey scope name]? with
  | none => simp [newRow, hexisting, nextMetadata, SecretMetadata.new]
  | some prev =>
    simpa [newRow, hexisting, nextMetadata, SecretMetadata.update] using h prev hexisting

variable {callScope name : String}

lemma Listed.set (h : Listed scope site) {after : RaftSecretsStore}
    (hcall : Str.startsWith (makeKey callScope name) (scope ++ ":") → callScope = scope) :
    Listed scope
      { state :=
          { site.state with
            secrets := site.state.secrets.insert (makeKey callScope name)
              (newRow site.state callScope name secs ciphertext dekGeneration) }
        store := after
        live := insert (callScope, name) site.live } where
  row key row hrow := by
    rcases of_lookup_insert hrow with ⟨rfl, rfl⟩ | ⟨-, hold⟩
    · refine ⟨rfl, ?_, fun hstarts => ?_⟩
      · cases hexisting : site.state.secrets[makeKey callScope name]? with
        | none => simp [newRow, hexisting]
        | some prev => simpa [newRow, hexisting] using (h.row _ prev hexisting).2.1
      · cases hcall hstarts
        have hname : (newRow site.state scope name secs ciphertext dekGeneration).metadata.name =
            name := newRow_name fun prev hprev =>
          (makeKey_inj ((h.row _ prev hprev).2.2 hstarts).1).symm
        rw [hname]
        exact ⟨rfl, Finset.mem_insert_self ..⟩
    · rcases h.row key row hold with ⟨hkey, haffinity, hlive⟩
      exact ⟨hkey, haffinity, fun hstarts =>
        ⟨(hlive hstarts).1, Finset.mem_insert_of_mem (hlive hstarts).2⟩⟩
  live other hother := by
    dsimp only at hother ⊢
    rcases Finset.mem_insert.mp hother with heq | hold
    · cases heq
      exact Std.ExtTreeMap.mem_insert_self
    · exact Std.ExtTreeMap.mem_insert.mpr (.inr (h.live other hold))

lemma Listed.delete (h : Listed scope site)
    (hcall : Str.startsWith (makeKey callScope name) (scope ++ ":") → callScope = scope) :
    Listed scope
      { site with
        state :=
          { site.state with secrets := site.state.secrets.erase (makeKey callScope name) }
        live := site.live.erase (callScope, name) } where
  row key row hrow := by
    rcases of_lookup_erase hrow with ⟨hne, hold⟩
    rcases h.row key row hold with ⟨hkey, haffinity, hlive⟩
    refine ⟨hkey, haffinity, fun hstarts => ⟨(hlive hstarts).1, ?_⟩⟩
    refine Finset.mem_erase.mpr ⟨fun heq => hne ?_, (hlive hstarts).2⟩
    cases heq
    exact (hlive hstarts).1.symm
  live other hother := by
    dsimp only at hother ⊢
    rcases Finset.mem_erase.mp hother with ⟨hne, hold⟩
    refine Std.ExtTreeMap.mem_erase.mpr ⟨fun heq => hne ?_, h.live other hold⟩
    have hkeys := Std.LawfulEqOrd.eq_of_compare heq
    cases hcall (by rw [hkeys]; exact startsWith_makeKey scope other)
    rw [makeKey_inj hkeys]

lemma Listed.step (h : Listed scope site) {call : SecretCall}
    (hcall : Str.startsWith call.key (scope ++ ":") → call.scope = scope) :
    Listed scope (site.step c node call) := by
  cases call with
  | set callScope name value nonce secs now =>
    rw [Site.step]
    rcases hencrypt : site.store.encryptUnderCurrent c site.state nonce (utf8Bytes value) with
      ⟨after, e | ⟨ciphertext, dekGeneration⟩⟩
    · rw [run_setSecret_of_error hencrypt]
      exact ⟨h.row, h.live⟩
    · rw [run_setSecret_of_ok hencrypt]
      split
      · exact h.set hcall
      · exact ⟨h.row, h.live⟩
  | delete callScope name now =>
    rw [Site.step, run_deleteSecret]
    split
    · split
      · exact h.delete hcall
      · exact h
    · exact h

/-- The listing has each name that is set in the scope, once, in order. -/
lemma Listed.listSecrets (h : Listed scope site)
    (order : IterOrder String ReplicatedSecret) :
    let names := (site.store.listSecrets order site.state scope).map SecretMetadata.name
    names.Pairwise (· < ·) ∧ ∀ name, name ∈ names ↔ (scope, name) ∈ site.live := by
  intro names
  let rows := (order.list site.state.secrets).filter fun row =>
    Str.startsWith row.2.storageKey (scope ++ ":") &&
      nodeAllowed site.store.nodeId row.2.nodeAffinity
  have hrows (entry : String × ReplicatedSecret) : entry ∈ rows ↔
      site.state.secrets[entry.1]? = some entry.2 ∧ Str.startsWith entry.1 (scope ++ ":") := by
    rw [mem_filter, order.mem_list]
    refine and_congr_right fun hrow => ?_
    rcases h.row _ _ hrow with ⟨hkey, haffinity, -⟩
    simp [hkey, haffinity, nodeAllowed]
  have hperm : names.Perm (rows.map fun row => row.2.metadata.name) := by
    have hsorted := (perm_insertionSort (fun a b : SecretMetadata => a.name ≤ b.name)
      (rows.map fun row => row.2.metadata)).map SecretMetadata.name
    rwa [map_map] at hsorted
  -- a key of the scope is determined by the name
  have hnodup : (rows.map fun row => row.2.metadata.name).Nodup := by
    refine Nodup.map_on (fun x hx y hy heq => ?_) ?_
    · have hkey : x.1 = y.1 := by
        rcases (hrows x).mp hx with ⟨hx, hxs⟩
        rcases (hrows y).mp hy with ⟨hy, hys⟩
        rw [((h.row _ _ hx).2.2 hxs).1, ((h.row _ _ hy).2.2 hys).1, heq]
      have hx := ((hrows x).mp hx).1
      rw [hkey, ((hrows y).mp hy).1] at hx
      exact Prod.ext hkey (Option.some.inj hx).symm
    · exact (order.keys_nodup _).of_map.filter _
  constructor
  · have hle : names.Pairwise (· ≤ ·) := by
      refine pairwise_map.mpr ?_
      exact pairwise_insertionSort _ _
    have hne : names.Pairwise (· ≠ ·) := hperm.nodup_iff.mpr hnodup
    exact (hle.and hne).imp fun h => lt_of_le_of_ne h.1 h.2
  · intro name
    rw [hperm.mem_iff, mem_map]
    constructor
    · rintro ⟨entry, hentry, rfl⟩
      rcases (hrows entry).mp hentry with ⟨hrow, hstarts⟩
      exact ((h.row _ _ hrow).2.2 hstarts).2
    · intro hlive
      have hmem := h.live name hlive
      rw [Std.ExtTreeMap.mem_iff_isSome_getElem?, Option.isSome_iff_exists] at hmem
      rcases hmem with ⟨row, hrow⟩
      have hstarts := startsWith_makeKey scope name
      refine ⟨(makeKey scope name, row), (hrows _).mpr ⟨hrow, hstarts⟩, ?_⟩
      exact (makeKey_inj ((h.row _ _ hrow).2.2 hstarts).1).symm

end Names

/-! ## Whole runs -/

/-- No call under another scope or name has the key of the secret. -/
def KeyApart (scope name : String) (call : SecretCall) : Prop :=
  call.key = makeKey scope name → call.scope = scope ∧ call.name = name

/-- No call under another scope has a key that starts with the scope. -/
def ScopeApart (scope : String) (call : SecretCall) : Prop :=
  Str.startsWith call.key (scope ++ ":") → call.scope = scope

instance (scope name : String) (call : SecretCall) : Decidable (KeyApart scope name call) :=
  inferInstanceAs (Decidable (_ → _))

instance (scope : String) (call : SecretCall) : Decidable (ScopeApart scope call) :=
  inferInstanceAs (Decidable (_ → _))

/-- A secret is what the calls with exactly its scope and name have made it, and a scope lists
exactly the names that are set in it, as long as no other call has a key that collides. -/
theorem scopes_isolated (c : Crypto) (utf8Error : Bytes → String) (node : RaftCoordinator)
    (order : IterOrder String ReplicatedSecret) (state : SecretsState)
    (store : RaftSecretsStore) (hempty : state.secrets = ∅) (calls : List SecretCall)
    (scope name : String) :
    let start : Site := ⟨state, store, ∅⟩
    let after := calls.foldl (Site.step c node) start
    let alone := (calls.filter fun call => call.scope = scope ∧ call.name = name).foldl
      (Site.step c node) start
    let names := (after.store.listSecrets order after.state scope).map SecretMetadata.name
    ((∀ call ∈ calls, KeyApart scope name call) →
      after.store.getSecret c utf8Error after.state scope name =
        alone.store.getSecret c utf8Error alone.state scope name) ∧
    ((∀ call ∈ calls, ScopeApart scope call) →
      names.Pairwise (· < ·) ∧ ∀ n, n ∈ names ↔ (scope, n) ∈ after.live) := by
  intro start after alone names
  constructor
  · intro hapart
    have hview : SameView c (makeKey scope name) after alone := by
      refine foldl_filter_related calls (fun call _ hrelevant site site' h => ?_)
        (fun call hcall hirrelevant site site' h => ?_) (SameView.refl start)
      · rcases of_decide_eq_true hrelevant with ⟨hscope, hname⟩
        exact h.step_same (by rw [SecretCall.key, hscope, hname])
      · refine h.step_other fun hkey => ?_
        exact of_decide_eq_false hirrelevant (hapart call hcall hkey)
    exact hview.getSecret utf8Error
  · intro hapart
    have hstart : Listed scope start := by
      refine ⟨fun key row hrow => ?_, fun n hn => absurd hn (Finset.notMem_empty _)⟩
      rw [show start.state.secrets = ∅ from hempty, Std.ExtTreeMap.getElem?_empty] at hrow
      cases hrow
    have hlisted : Listed scope after :=
      foldlRecOn calls (Site.step c node) hstart fun site h call hcall =>
        h.step (hapart call hcall)
    exact hlisted.listSecrets order

/-! ## Three scopes -/

namespace SecretScopesSample

open RaftCoordinator.Sample

def start : Site :=
  { state :=
      { SecretsState.default with
        wrappedDek := some
          { dekGeneration := 1
            wraps := ∅ } }
    store :=
      { nodePriv := key 1
        nodeId := "a"
        dekCache := some
          { generation := 1
            dek := key 7 } }
    live := ∅ }

def set (scope name value : String) : SecretCall :=
  .set scope name value (Vector.replicate 24 0) 0 0

def calls : List SecretCall :=
  [set "app" "db" "of the deployment", set "env:1" "db" "of the environment",
    .delete "env:1" "db" 0]

def after (calls : List SecretCall) : Site :=
  calls.foldl (Site.step Crypto.transparent leader) start

def get (site : Site) (scope name : String) : Except SecretsError String :=
  site.store.getSecret Crypto.transparent (fun _ => "") site.state scope name

def names (site : Site) (scope : String) : List String :=
  (site.store.listSecrets .byKey site.state scope).map SecretMetadata.name

end SecretScopesSample

open SecretScopesSample in
theorem scopes_isolated_app :
    get (after calls) "app" "db" = get (after [set "app" "db" "of the deployment"]) "app" "db" ∧
      ∀ n, n ∈ names (after calls) "app" ↔ ("app", n) ∈ (after calls).live := by
  have hisolated := scopes_isolated Crypto.transparent (fun _ => "") RaftCoordinator.Sample.leader
    .byKey start.state start.store rfl calls "app" "db"
  exact ⟨hisolated.1 (by decide +kernel), (hisolated.2 (by decide +kernel)).2⟩

open SecretScopesSample in
/-- A secret of an environment of a project is read as one of the project, and is listed there. -/
theorem scope_with_colon_leaks :
    get (after [set "project:p:env:e" "db" "x"]) "project:p" "env:e:db" = .ok "x" ∧
      get (after []) "project:p" "env:e:db" = .error (.notFound "env:e:db") ∧
      "db" ∈ names (after [set "project:p:env:e" "db" "x"]) "project:p" ∧
      ("project:p", "db") ∉ (after [set "project:p:env:e" "db" "x"]).live := by
  decide +kernel

end ZLayer.Scheduler
