import ZLayer.Secrets.ClusterSigner

/-!
# KeyTrust — which signing keys are trusted, and for how long

A `Succession` says what the keystore is for: the active key, and each key that was active before
it with the instant of its retirement and the grace it was given.  It never forgets a key.  The
keystore does: pruning drops keys.  `Mirrors` relates the two, given how late the clock has been
read; it is kept by every rotation and every pruning, and what the queries answer follows from it.
-/

namespace ZLayer.Secrets

open Lib List KeyStoreFile

/-! ## The succession of keys -/

structure Retirement where
  kid : String
  retiredAt : Nat
  grace : Nat
  deriving DecidableEq

structure Succession where
  active : String
  retired : List Retirement
  deriving DecidableEq

def kidOf (c : SignerCrates) (seed : Bytes32) : String := (ClusterSigner.fromSeed c seed).keyId c

namespace Succession

def start (c : SignerCrates) (seed : Bytes32) : Succession :=
  { active := kidOf c seed
    retired := [] }

def next (c : SignerCrates) (keys : Succession) : KeystoreCall → Succession
  | .rotate now grace (.ok seed) (.ok ()) =>
    { active := kidOf c seed
      retired :=
        { kid := keys.active
          retiredAt := now
          grace := grace } :: keys.retired }
  | _ => keys

def kids (keys : Succession) : List String := keys.active :: keys.retired.map Retirement.kid

lemma kid_ne_active {keys : Succession} (hdistinct : keys.kids.Nodup) {r : Retirement}
    (hr : r ∈ keys.retired) : r.kid ≠ keys.active := by
  intro hsame
  exact (nodup_cons.mp hdistinct).1 (hsame ▸ mem_map_of_mem hr)

/-- A call adds at most one key, in front. -/
lemma kids_suffix_next (c : SignerCrates) (keys : Succession) (call : KeystoreCall) :
    keys.kids <:+ (keys.next c call).kids := by
  rcases call with ⟨now, grace, _ | seed, _ | _⟩ | ⟨now, write⟩
  case rotate.ok.ok => exact suffix_cons _ _
  all_goals exact suffix_refl _

lemma kids_suffix_foldl (c : SignerCrates) (keys : Succession) (calls : List KeystoreCall) :
    keys.kids <:+ (calls.foldl (next c) keys).kids := by
  induction calls generalizing keys with
  | nil => exact suffix_refl _
  | cons call calls ih => exact (keys.kids_suffix_next c call).trans (ih _)

end Succession

/-- Readings of a clock that does not go back and has not come to the end of the calendar. -/
def ClockReadings (times : List Nat) : Prop :=
  times.Pairwise (· ≤ ·) ∧ ∀ t ∈ times, (t : DateTime) < maxUtc

/-! ## The end of the grace -/

/-- A duration that is cut reaches past the end of the calendar from any instant. -/
lemma previousGraceUntil_eq (t grace : Nat) :
    previousGraceUntil t grace = min (t + grace : Int) maxUtc := by
  have hmax : maxUtc < (chronoDurationMax : Int) := by decide
  rw [previousGraceUntil, checkedAddSigned]
  by_cases hle : (t : Int) + (min grace chronoDurationMax : Nat) ≤ maxUtc
  · rw [if_pos hle, Option.getD_some]
    unfold DateTime at *
    omega
  · rw [if_neg hle, Option.getD_none]
    unfold DateTime at *
    omega

lemma lt_previousGraceUntil_iff {now : Nat} (hnow : (now : DateTime) < maxUtc) (t grace : Nat) :
    (now : DateTime) < previousGraceUntil t grace ↔ now < t + grace := by
  rw [previousGraceUntil_eq, lt_min_iff]
  unfold DateTime at *
  omega

/-! ## What the queries answer -/

section Queries

variable {c : SignerCrates} {path : String} {store : KeyStoreFile} {now : Nat} {kid : String}

def KeyStoreFile.ids (store : KeyStoreFile) : List String := store.keys.map KeyEntry.id

/-- Every key has its own id, which is that of its seed. -/
structure KeyStoreFile.WellFormed (c : SignerCrates) (store : KeyStoreFile) : Prop where
  ids : store.ids.Nodup
  seeds : ∀ entry ∈ store.keys, ∃ seed : Bytes32,
    entry.seedB64 = c.encode seed.toList ∧ entry.id = kidOf c seed

def Trusted (c : SignerCrates) (path : String) (store : KeyStoreFile) (now : Nat) (kid : String) :
    Prop :=
  ∃ signer, loadSignerForKid c path store now kid = .ok (some signer)

variable {entry : KeyEntry} {seed : Bytes32}

lemma decodeSeed_encode
    (hcodec : ∀ seed : Bytes32, c.decode (c.encode seed.toList) = .ok seed.toList)
    (hentry : entry.seedB64 = c.encode seed.toList) : entry.decodeSeed c path = .ok seed := by
  rw [KeyEntry.decodeSeed, hentry, hcodec]
  have hlen : seed.toList.length = signingKeySeedLen := by simp [signingKeySeedLen]
  simp only [dif_pos hlen]
  congr 1

lemma mem_ids_of_mem (h : entry ∈ store.keys) : entry.id ∈ store.ids :=
  mem_map_of_mem h

lemma find?_id (hids : store.ids.Nodup) (hentry : entry ∈ store.keys) :
    (store.keys.find? fun k => k.id == entry.id) = some entry := by
  cases hfind : store.keys.find? fun k => k.id == entry.id with
  | none =>
    have hnone := find?_eq_none.mp hfind entry hentry
    simp at hnone
  | some found =>
    have hid : found.id = entry.id := by simpa using find?_some hfind
    rw [inj_on_of_nodup_map hids (mem_of_find?_eq_some hfind) hentry hid]

/-- A key that is not found or not valid is refused, and not with an error. -/
lemma loadSignerForKid_eq_none (h : ¬ (kid ∈ store.ids ∧ store.isValid now kid = true)) :
    loadSignerForKid c path store now kid = .ok none := by
  rw [loadSignerForKid]
  cases hfind : store.keys.find? fun k => k.id == kid with
  | none => rfl
  | some entry =>
    have hid : entry.id = kid := by simpa using find?_some hfind
    have hmem : kid ∈ store.ids := hid ▸ mem_ids_of_mem (mem_of_find?_eq_some hfind)
    have hvalid : store.isValid now kid = false := by simpa [hmem] using h
    simp [hvalid]

section

variable (hcodec : ∀ seed : Bytes32, c.decode (c.encode seed.toList) = .ok seed.toList)

include hcodec

/-- What is loaded for the key of a valid entry. -/
lemma loadSignerForKid_of_mem (hids : store.ids.Nodup) (hentry : entry ∈ store.keys)
    (hseed : entry.seedB64 = c.encode seed.toList) (hvalid : store.isValid now entry.id = true) :
    loadSignerForKid c path store now entry.id = .ok (some (ClusterSigner.fromSeed c seed)) := by
  rw [loadSignerForKid, find?_id hids hentry]
  simp only [hvalid, if_true, decodeSeed_encode hcodec hseed]
  rfl

lemma trusted_iff (hstore : store.WellFormed c) :
    Trusted c path store now kid ↔ kid ∈ store.ids ∧ store.isValid now kid = true := by
  constructor
  · rintro ⟨signer, hload⟩
    by_contra hnot
    rw [loadSignerForKid_eq_none hnot] at hload
    cases hload
  · rintro ⟨hmem, hvalid⟩
    rcases mem_map.mp hmem with ⟨entry, hentry, rfl⟩
    rcases hstore.seeds entry hentry with ⟨seed, hseed, -⟩
    exact ⟨_, loadSignerForKid_of_mem hcodec hstore.ids hentry hseed hvalid⟩

end

/-! ### The list of valid keys -/

/-- `list_valid_pubkeys` puts the entry among those in grace. -/
def KeyStoreFile.inGrace (store : KeyStoreFile) (now : Nat) (entry : KeyEntry) : Bool :=
  entry.id ≠ store.active ∧ store.isValid now entry.id

/-- `info` shows the key of `entry`. -/
def Shows (c : SignerCrates) (info : PubkeyInfo) (entry : KeyEntry) : Prop :=
  info.kid = entry.id ∧ ∃ seed : Bytes32, entry.seedB64 = c.encode seed.toList ∧
    info.publicKeyB64 = (ClusterSigner.fromSeed c seed).publicKeyB64 c

/-- What the loop over `entries` adds to what it has collected before. -/
def Collected (c : SignerCrates) (store : KeyStoreFile) (now : Nat) (entries : List KeyEntry)
    (activeInfo : Option PubkeyInfo) (graceInfos : List PubkeyInfo)
    (result : Except SecretsError (Option PubkeyInfo × List PubkeyInfo)) : Prop :=
  ∃ activeInfo' added, result = .ok (activeInfo', graceInfos ++ added) ∧
    activeInfo'.map PubkeyInfo.kid =
      (if store.active ∈ entries.map KeyEntry.id then some store.active
        else activeInfo.map PubkeyInfo.kid) ∧
    added.map PubkeyInfo.kid = (entries.filter (store.inGrace now)).map KeyEntry.id ∧
    ∀ info ∈ activeInfo'.toList ++ added,
      info ∈ activeInfo.toList ∨ ∃ entry ∈ entries, Shows c info entry

/-- An entry that leaves `shown` as the active key and adds `infos` to the keys in grace. -/
lemma Collected.cons {entry : KeyEntry} {entries : List KeyEntry}
    {activeInfo shown : Option PubkeyInfo} {graceInfos graceInfos' infos : List PubkeyInfo}
    {result : Except SecretsError (Option PubkeyInfo × List PubkeyInfo)}
    (hadd : graceInfos' = graceInfos ++ infos)
    (hkid : shown.map PubkeyInfo.kid =
      if entry.id = store.active then some store.active else activeInfo.map PubkeyInfo.kid)
    (hgrace : infos.map PubkeyInfo.kid = ([entry].filter (store.inGrace now)).map KeyEntry.id)
    (hfrom : ∀ info ∈ shown.toList ++ infos, info ∈ activeInfo.toList ∨ Shows c info entry)
    (h : Collected c store now entries shown graceInfos' result) :
    Collected c store now (entry :: entries) activeInfo graceInfos result := by
  rcases h with ⟨a, added, heq, ha, hadded, hall⟩
  have hentry (i : PubkeyInfo) (hi : i ∈ shown.toList ++ infos) :
      i ∈ activeInfo.toList ∨ ∃ e ∈ entry :: entries, Shows c i e :=
    (hfrom i hi).imp_right fun hshow => ⟨entry, mem_cons_self, hshow⟩
  refine ⟨a, infos ++ added, by rw [heq, hadd, append_assoc], ?_, ?_, fun i hi => ?_⟩
  · rw [ha, hkid]
    grind
  · rw [map_append, hgrace, hadded, ← map_append, ← filter_append, singleton_append]
  · have hcases : i ∈ infos ∨ i ∈ a.toList ++ added := by
      simp only [mem_append] at hi ⊢
      tauto
    rcases hcases with hi | hi
    · exact hentry i (mem_append_right _ hi)
    · rcases hall i hi with hi | ⟨e, he, hshows⟩
      · exact hentry i (mem_append_left _ hi)
      · exact .inr ⟨e, mem_cons_of_mem _ he, hshows⟩

lemma collectPubkeys_collected (hcodec : ∀ seed : Bytes32, c.decode (c.encode seed.toList) =
    .ok seed.toList) (entries : List KeyEntry)
    (hseeds : ∀ entry ∈ entries, ∃ seed : Bytes32, entry.seedB64 = c.encode seed.toList)
    (activeInfo : Option PubkeyInfo) (graceInfos : List PubkeyInfo) :
    Collected c store now entries activeInfo graceInfos
      (collectPubkeys c path store now entries activeInfo graceInfos) := by
  induction entries generalizing activeInfo graceInfos with
  | nil => exact ⟨activeInfo, [], by simp [collectPubkeys], by simp, by simp, by simp⟩
  | cons entry entries ih =>
    rcases hseeds entry (by simp) with ⟨seed, hseed⟩
    have hrest : ∀ e ∈ entries, ∃ seed : Bytes32, e.seedB64 = c.encode seed.toList :=
      fun e he => hseeds e (mem_cons_of_mem _ he)
    rw [collectPubkeys]
    simp only [decodeSeed_encode hcodec hseed]
    by_cases hactive : entry.id = store.active
    · simp only [if_pos hactive]
      refine .cons (append_nil _).symm ?_ ?_ (fun info hinfo => .inr ?_) (ih hrest _ _)
      · simp [hactive]
      · simp [inGrace, hactive]
      · obtain rfl := mem_singleton.mp hinfo
        exact ⟨rfl, seed, hseed, rfl⟩
    · have hskip (hvalid : store.isValid now entry.id = false) : Collected c store now
          (entry :: entries) activeInfo graceInfos
          (collectPubkeys c path store now entries activeInfo graceInfos) :=
        .cons (append_nil _).symm (by simp [hactive]) (by simp [inGrace, hvalid])
          (fun info hinfo => .inl (by simpa using hinfo)) (ih hrest _ _)
      simp only [if_neg hactive]
      cases hlookup : store.retiredGraceUntil[entry.id]? with
      | none => exact hskip (by simp [isValid, Ne.symm hactive, hlookup])
      | some expiresAt =>
        have hvalid : store.isValid now entry.id = decide ((now : DateTime) < expiresAt) := by
          simp [isValid, Ne.symm hactive, hlookup]
        by_cases hlt : (now : DateTime) < expiresAt
        · simp only [if_pos hlt]
          refine .cons rfl (by simp [hactive]) ?_ (fun info hinfo => ?_) (ih hrest _ _)
          · simp [inGrace, hactive, hvalid, hlt]
          · refine (mem_append.mp hinfo).imp_right fun hnew => ?_
            obtain rfl := mem_singleton.mp hnew
            exact ⟨rfl, seed, hseed, rfl⟩
        · simp only [if_neg hlt]
          exact hskip (by simp [hvalid, hlt])

/-- The answer of `list_valid_pubkeys`: the active key, then the keys in grace. -/
structure ListsTrusted (c : SignerCrates) (path : String) (store : KeyStoreFile) (now : Nat)
    (infos : List PubkeyInfo) : Prop where
  activeFirst : infos.head?.map PubkeyInfo.kid = some store.active
  once : (infos.map PubkeyInfo.kid).Nodup
  exactly : ∀ kid, kid ∈ infos.map PubkeyInfo.kid ↔ Trusted c path store now kid
  keys : ∀ info ∈ infos, ∃ signer,
    loadSignerForKid c path store now info.kid = .ok (some signer) ∧
      info.publicKeyB64 = signer.publicKeyB64 c

lemma listValidPubkeys_lists (hcodec : ∀ seed : Bytes32, c.decode (c.encode seed.toList) =
    .ok seed.toList) (hstore : store.WellFormed c) (hactive : store.active ∈ store.ids) :
    ∃ infos, listValidPubkeys c path store now = .ok infos ∧
      ListsTrusted c path store now infos := by
  have hseeds : ∀ entry ∈ store.keys, ∃ seed : Bytes32, entry.seedB64 = c.encode seed.toList := by
    intro entry hentry
    rcases hstore.seeds entry hentry with ⟨seed, hseed, -⟩
    exact ⟨seed, hseed⟩
  have hcollected : Collected c store now store.keys none []
      (collectPubkeys c path store now store.keys none []) :=
    collectPubkeys_collected hcodec store.keys hseeds none []
  rcases hcollected with ⟨activeInfo, graceInfos, heq, hkid, hgrace, hfrom⟩
  have hkid' : activeInfo.map PubkeyInfo.kid = some store.active := by
    rw [hkid]
    exact if_pos hactive
  rcases Option.map_eq_some_iff.mp hkid' with ⟨info, rfl, hinfo⟩
  generalize hsorted : graceInfos.insertionSort (fun a b => a.laterFirst b) = sorted
  have hperm : sorted.Perm graceInfos := hsorted ▸ perm_insertionSort _ _
  have hmem : ∀ kid, kid ∈ (info :: sorted).map PubkeyInfo.kid ↔
      kid ∈ store.ids ∧ store.isValid now kid = true := by
    intro kid
    rw [map_cons, mem_cons, hinfo, (hperm.map _).mem_iff, hgrace]
    simp only [mem_map, mem_filter, inGrace, ids]
    constructor
    · rintro (rfl | ⟨entry, ⟨hentry, hvalid⟩, rfl⟩)
      · exact ⟨mem_map.mp hactive, by simp [isValid]⟩
      · exact ⟨⟨entry, hentry, rfl⟩, by simpa using (of_decide_eq_true hvalid).2⟩
    · rintro ⟨⟨entry, hentry, rfl⟩, hvalid⟩
      by_cases hsame : entry.id = store.active
      · exact .inl hsame
      · exact .inr ⟨entry, ⟨hentry, by simp [hsame, hvalid]⟩, rfl⟩
  refine ⟨info :: sorted, ?_, ?_, ?_, ?_, ?_⟩
  · rw [listValidPubkeys, heq]
    simp only [Except.map, Option.toList_some, nil_append, hsorted, singleton_append]
  · rw [head?_cons, Option.map_some, hinfo]
  · rw [map_cons, nodup_cons, hinfo, (hperm.map _).mem_iff, (hperm.map _).nodup_iff,
      hgrace]
    refine ⟨?_, (filter_sublist.map _).nodup hstore.ids⟩
    simp only [mem_map, mem_filter, inGrace]
    rintro ⟨entry, ⟨-, hin⟩, hsame⟩
    exact (of_decide_eq_true hin).1 hsame
  · intro kid
    rw [hmem, trusted_iff hcodec hstore]
  · intro i hi
    have hvalid := ((hmem i.kid).mp (mem_map_of_mem hi)).2
    have hi' : i ∈ (some info).toList ++ graceInfos := by
      rcases mem_cons.mp hi with rfl | hi
      · simp
      · exact mem_append_right _ (hperm.mem_iff.mp hi)
    rcases hfrom i hi' with hnone | ⟨entry, hentry, hkid, seed, hseed, hpub⟩
    · exact absurd hnone (by simp)
    · rw [hkid] at hvalid ⊢
      exact ⟨_, loadSignerForKid_of_mem hcodec hstore.ids hentry hseed hvalid, hpub⟩

end Queries

/-! ## The keystore and the succession -/

section Mirrors

variable {c : SignerCrates} {path : String} {order : HashMap.IterOrder String DateTime}
  {store : KeyStoreFile} {keys : Succession} {seen now : Nat} {kid : String}

/-- The keystore still has the retired key and the end of its grace. -/
def Kept (store : KeyStoreFile) (r : Retirement) : Prop :=
  r.kid ∈ store.ids ∧
    store.retiredGraceUntil[r.kid]? = some (previousGraceUntil r.retiredAt r.grace)

/-- The retired key was dropped after the end of its grace. -/
def Dropped (store : KeyStoreFile) (seen : Nat) (r : Retirement) : Prop :=
  r.kid ∉ store.ids ∧ previousGraceUntil r.retiredAt r.grace ≤ seen

/-- The keystore after calls whose last reading of the clock was `seen`. -/
structure Mirrors (c : SignerCrates) (store : KeyStoreFile) (keys : Succession) (seen : Nat) :
    Prop where
  wellFormed : store.WellFormed c
  active : store.active = keys.active
  present : keys.active ∈ store.ids
  known : ∀ id ∈ store.ids, id ∈ keys.kids
  retired : ∀ r ∈ keys.retired, Kept store r ∨ Dropped store seen r

lemma Mirrors.later (h : Mirrors c store keys seen) (hle : seen ≤ now) :
    Mirrors c store keys now where
  wellFormed := h.wellFormed
  active := h.active
  present := h.present
  known := h.known
  retired r hr := by
    rcases h.retired r hr with hkept | ⟨hgone, hend⟩
    · exact .inl hkept
    · exact .inr ⟨hgone, hend.trans (by exact_mod_cast hle)⟩

lemma Mirrors.fresh (c : SignerCrates) (seed : Bytes32) (created : Nat) :
    Mirrors c (ClusterSigner.freshKeystore c seed created) (Succession.start c seed) created where
  wellFormed :=
    { ids := by simp [ids, ClusterSigner.freshKeystore]
      seeds := by
        intro entry hentry
        rw [ClusterSigner.freshKeystore, mem_singleton] at hentry
        exact ⟨seed, by rw [hentry], by rw [hentry]; rfl⟩ }
  active := rfl
  present := by simp [ids, ClusterSigner.freshKeystore, Succession.start, kidOf]
  known := by
    simp [ids, ClusterSigner.freshKeystore, Succession.start, Succession.kids, kidOf]
  retired := by simp [Succession.start]

/-! ### Trust in a mirrored keystore -/

lemma Mirrors.trusted_retired (h : Mirrors c store keys seen) (hcodec : ∀ seed : Bytes32,
    c.decode (c.encode seed.toList) = .ok seed.toList) (hdistinct : keys.kids.Nodup)
    (hseen : seen ≤ now) {r : Retirement} (hr : r ∈ keys.retired) :
    Trusted c path store now r.kid ↔
      (now : DateTime) < previousGraceUntil r.retiredAt r.grace := by
  rw [trusted_iff hcodec h.wellFormed]
  rcases h.retired r hr with ⟨hmem, hlookup⟩ | ⟨hgone, hend⟩
  · have hne : store.active ≠ r.kid := h.active ▸ (Succession.kid_ne_active hdistinct hr).symm
    simp [hmem, isValid, hne, hlookup]
  · have hpast : previousGraceUntil r.retiredAt r.grace ≤ (now : DateTime) :=
      hend.trans (by exact_mod_cast hseen)
    simp [hgone, hpast]

/-! ### Rotation -/

lemma rotateKeystore_error (c : SignerCrates) (now grace : Nat) (seed : Except String Bytes32)
    (e : SecretsError) (store : KeyStoreFile) :
    (rotateKeystore c now grace seed (.error e) store).1 = store := by
  cases seed with
  | error _ => rfl
  | ok seed =>
    simp only [rotateKeystore, writeKeystore]
    split <;> rfl

lemma Mirrors.rotated (h : Mirrors c store keys seen) {grace : Nat} {seed : Bytes32}
    (hdistinct : keys.kids.Nodup) (hnew : kidOf c seed ∉ keys.kids) (hseen : seen ≤ now) :
    Mirrors c (rotateKeystore c now grace (.ok seed) (.ok ()) store).1
      (keys.next c (.rotate now grace (.ok seed) (.ok ()))) now := by
  have hfresh : kidOf c seed ∉ store.ids := fun hmem => hnew (h.known _ hmem)
  have hnone : (store.keys.any fun k => k.id == kidOf c seed) = false := by
    rw [any_eq_false]
    intro entry hentry hsame
    exact hfresh (eq_of_beq hsame ▸ mem_ids_of_mem hentry)
  have hkid : hexShort c (c.sha256 (c.verifyingKey seed).toList) = kidOf c seed := rfl
  simp only [rotateKeystore, hkid, hnone, Bool.false_eq_true, if_false, writeKeystore]
  refine ⟨⟨?_, ?_⟩, rfl, ?_, ?_, ?_⟩
  · simpa [ids] using Nodup.concat hfresh h.wellFormed.ids
  · intro entry hentry
    rcases mem_append.mp hentry with hentry | hentry
    · exact h.wellFormed.seeds entry hentry
    · rw [mem_singleton] at hentry
      exact ⟨seed, by rw [hentry], by rw [hentry]⟩
  · simp [ids, Succession.next]
  · intro id hid
    have hcases : id ∈ store.ids ∨ id = kidOf c seed := by
      simpa [ids] using hid
    rcases hcases with hid | rfl
    · exact mem_cons_of_mem _ (h.known id hid)
    · exact mem_cons_self
  · intro r hr
    rcases mem_cons.mp hr with rfl | hr
    · -- the key that was active until now
      refine .inl ⟨?_, ?_⟩
      · have hmem := h.present
        simp only [ids, map_append, mem_append] at hmem ⊢
        exact .inl hmem
      · rw [h.active]
        exact Std.ExtTreeMap.getElem?_insert_self
    · have hne : store.active ≠ r.kid := h.active ▸ (Succession.kid_ne_active hdistinct hr).symm
      have hkid : r.kid ≠ kidOf c seed := by
        intro hsame
        exact hnew (hsame ▸ mem_cons_of_mem _ (mem_map_of_mem hr))
      rcases (h.later hseen).retired r hr with ⟨hmem, hlookup⟩ | ⟨hgone, hend⟩
      · refine .inl ⟨?_, ?_⟩
        · simp only [ids, map_append, mem_append] at hmem ⊢
          exact .inl hmem
        · rw [← hlookup]
          exact HashMap.lookup_insert_of_ne _ _ hne
      · refine .inr ⟨?_, hend⟩
        simp only [ids, map_append, mem_append] at hgone ⊢
        simp [hgone, hkid]

/-! ### Pruning -/

/-- The keystore without the expired keys, whatever the order in which they are dropped. -/
structure Pruned (kids : List String) (store remaining : KeyStoreFile) : Prop where
  active : remaining.active = store.active
  keys : remaining.keys = store.keys.filter fun k => k.id = store.active ∨ k.id ∉ kids
  grace : ∀ kid, kid = store.active ∨ kid ∉ kids →
    remaining.retiredGraceUntil[kid]? = store.retiredGraceUntil[kid]?

lemma foldl_pruneKey (kids : List String) (store : KeyStoreFile) :
    Pruned kids store (kids.foldl pruneKey store) := by
  induction kids generalizing store with
  | nil => exact ⟨rfl, by simp, fun _ _ => rfl⟩
  | cons kid kids ih =>
    have hrest := ih (pruneKey store kid)
    rw [foldl_cons]
    by_cases hactive : kid = store.active
    · have hsame : pruneKey store kid = store := by rw [pruneKey, if_pos hactive]
      rw [hsame] at hrest ⊢
      refine ⟨hrest.active, ?_, fun k hk => hrest.grace k ?_⟩
      · rw [hrest.keys]
        apply filter_congr
        intro entry _
        simp only [mem_cons, hactive]
        grind
      · exact hk.imp_right fun hnot hmem => hnot (mem_cons_of_mem _ hmem)
    · have hpruned : pruneKey store kid =
          { store with
            retiredGraceUntil := store.retiredGraceUntil.erase kid
            keys := store.keys.filter fun k => k.id != kid } := by
        rw [pruneKey, if_neg hactive]
      rw [hpruned] at hrest ⊢
      refine ⟨hrest.active, ?_, fun k hk => ?_⟩
      · rw [hrest.keys, filter_filter]
        apply filter_congr
        intro entry _
        simp only [mem_cons]
        grind
      · have hne : kid ≠ k := by
          rintro rfl
          rcases hk with hk | hk
          · exact hactive hk
          · exact hk mem_cons_self
        rw [hrest.grace k (hk.imp_right fun hnot hmem => hnot (mem_cons_of_mem _ hmem))]
        exact HashMap.lookup_erase_of_ne _ hne

lemma mem_expiredKids : kid ∈ expiredKids order now store ↔
    ∃ expires, store.retiredGraceUntil[kid]? = some expires ∧ expires ≤ (now : DateTime) := by
  rw [expiredKids, mem_filterMap]
  constructor
  · rintro ⟨⟨k, expires⟩, hmem, hsome⟩
    rcases Option.ite_none_right_eq_some.mp hsome with ⟨hle, hk⟩
    obtain rfl : k = kid := Option.some.inj hk
    exact ⟨expires, (order.mem_list _).mp hmem, hle⟩
  · rintro ⟨expires, hlookup, hle⟩
    exact ⟨(kid, expires), (order.mem_list _).mpr hlookup, by simp [hle]⟩

/-- Pruning leaves the keystore as it is, or drops every expired key. -/
lemma pruneExpiredGrace_cases (order : HashMap.IterOrder String DateTime) (now : Nat)
    (write : Except SecretsError Unit) (store : KeyStoreFile) :
    (pruneExpiredGrace order now write store).1 = store ∨
      Pruned (expiredKids order now store) store (pruneExpiredGrace order now write store).1 := by
  simp only [pruneExpiredGrace]
  split
  · exact .inl rfl
  · split
    · exact .inl rfl
    · cases write with
      | error e => exact .inl rfl
      | ok _ => exact .inr (foldl_pruneKey _ _)

section Pruned

variable {remaining : KeyStoreFile} {kids : List String}

lemma Pruned.mem_ids (h : Pruned kids store remaining) :
    kid ∈ remaining.ids ↔ kid ∈ store.ids ∧ (kid = store.active ∨ kid ∉ kids) := by
  simp only [ids, h.keys, mem_map, mem_filter, decide_eq_true_eq]
  constructor
  · rintro ⟨entry, ⟨hentry, hkeep⟩, rfl⟩
    exact ⟨⟨entry, hentry, rfl⟩, hkeep⟩
  · rintro ⟨⟨entry, hentry, rfl⟩, hkeep⟩
    exact ⟨entry, ⟨hentry, hkeep⟩, rfl⟩

lemma Pruned.wellFormed (h : Pruned kids store remaining) (hstore : store.WellFormed c) :
    remaining.WellFormed c where
  ids := by
    rw [ids, h.keys]
    exact (filter_sublist.map _).nodup hstore.ids
  seeds entry hentry := by
    rw [h.keys] at hentry
    exact hstore.seeds entry (mem_filter.mp hentry).1

/-- A key is found and valid after pruning if it was before: an expired key was not valid. -/
lemma Pruned.valid_iff (h : Pruned (expiredKids order now store) store remaining) {later : Nat}
    (hlater : now ≤ later) :
    kid ∈ remaining.ids ∧ remaining.isValid later kid = true ↔
      kid ∈ store.ids ∧ store.isValid later kid = true := by
  rw [h.mem_ids]
  by_cases hkeep : kid = store.active ∨ kid ∉ expiredKids order now store
  · simp only [hkeep, and_true, isValid, h.active, h.grace kid hkeep]
  · rcases not_or.mp hkeep with ⟨hactive, hexpired⟩
    rcases mem_expiredKids.mp (not_not.mp hexpired) with ⟨expires, hlookup, hle⟩
    have hpast : expires ≤ (later : DateTime) := hle.trans (by exact_mod_cast hlater)
    simp [hkeep, isValid, Ne.symm hactive, hlookup, hpast]

lemma Mirrors.pruned (h : Mirrors c store keys seen) (hdistinct : keys.kids.Nodup)
    (hseen : seen ≤ now) (hpruned : Pruned (expiredKids order now store) store remaining) :
    Mirrors c remaining keys now where
  wellFormed := hpruned.wellFormed h.wellFormed
  active := hpruned.active.trans h.active
  present := hpruned.mem_ids.mpr ⟨h.present, .inl h.active.symm⟩
  known id hid := h.known id (hpruned.mem_ids.mp hid).1
  retired r hr := by
    rcases (h.later hseen).retired r hr with ⟨hmem, hlookup⟩ | ⟨hgone, hend⟩
    · by_cases hexpired : r.kid ∈ expiredKids order now store
      · -- the grace has ended, and the key goes
        have hne : r.kid ≠ store.active := h.active ▸ Succession.kid_ne_active hdistinct hr
        rcases mem_expiredKids.mp hexpired with ⟨expires, hlookup', hle⟩
        obtain rfl : previousGraceUntil r.retiredAt r.grace = expires :=
          Option.some.inj (hlookup.symm.trans hlookup')
        refine .inr ⟨fun hmem => ?_, hle⟩
        rcases (hpruned.mem_ids.mp hmem).2 with hactive | hnot
        · exact hne hactive
        · exact hnot hexpired
      · exact .inl ⟨hpruned.mem_ids.mpr ⟨hmem, .inr hexpired⟩,
          (hpruned.grace r.kid (.inr hexpired)).trans hlookup⟩
    · exact .inr ⟨fun hmem => hgone (hpruned.mem_ids.mp hmem).1, hend⟩

end Pruned

/-! ### Every call, and every run -/

lemma Mirrors.next (h : Mirrors c store keys seen) (call : KeystoreCall)
    (hdistinct : (keys.next c call).kids.Nodup) (hseen : seen ≤ call.now) :
    Mirrors c (call.next c order store) (keys.next c call) call.now := by
  have hkids : keys.kids.Nodup := hdistinct.sublist (keys.kids_suffix_next c call).sublist
  rcases call with ⟨now, grace, seed, write⟩ | ⟨now, write⟩
  · cases write with
    | error e =>
      have hkeys : keys.next c (.rotate now grace seed (.error e)) = keys := by
        cases seed <;> rfl
      rw [hkeys, KeystoreCall.next, rotateKeystore_error]
      exact h.later hseen
    | ok _ =>
      cases seed with
      | error e => exact h.later hseen
      | ok seed => exact h.rotated hkids (nodup_cons.mp hdistinct).1 hseen
  · change Mirrors c (pruneExpiredGrace order now write store).1 keys now
    rcases pruneExpiredGrace_cases order now write store with hsame | hpruned
    · rw [hsame]
      exact h.later hseen
    · exact h.pruned hkids hseen hpruned

lemma Mirrors.run (calls : List KeystoreCall) (h : Mirrors c store keys seen)
    (hdistinct : (calls.foldl (Succession.next c) keys).kids.Nodup)
    (hclock : (seen :: calls.map KeystoreCall.now ++ [now]).Pairwise (· ≤ ·)) :
    Mirrors c (calls.foldl (KeystoreCall.next c order) store)
      (calls.foldl (Succession.next c) keys) now := by
  induction calls generalizing store keys seen with
  | nil => exact h.later (by simpa using hclock)
  | cons call calls ih =>
    have hkids : (keys.next c call).kids.Nodup :=
      hdistinct.sublist (Succession.kids_suffix_foldl c _ calls).sublist
    have hseen : seen ≤ call.now := (pairwise_cons.mp hclock).1 _ (by simp)
    exact ih (h.next call hkids hseen) hdistinct (pairwise_cons.mp hclock).2

end Mirrors

/-! ## Trust over rotations -/

/-- The keystore answers as the succession of its keys says. -/
structure TrustFollows (c : SignerCrates) (path : String)
    (order : HashMap.IterOrder String DateTime) (store : KeyStoreFile) (keys : Succession)
    (now : Nat) : Prop where
  active : store.active = keys.active ∧ keys.active ∈ store.ids ∧
    Trusted c path store now keys.active
  retired : ∀ r ∈ keys.retired, Trusted c path store now r.kid ↔ now < r.retiredAt + r.grace
  others : ∀ kid, kid ∉ keys.kids → ¬ Trusted c path store now kid
  refused : ∀ kid, ¬ Trusted c path store now kid →
    loadSignerForKid c path store now kid = .ok none
  listed : ∃ infos, listValidPubkeys c path store now = .ok infos ∧
    ListsTrusted c path store now infos
  pruning : ∀ write later kid, now ≤ later →
    (Trusted c path (pruneExpiredGrace order now write store).1 later kid ↔
      Trusted c path store later kid)

/-- After any rotations and prunings of a fresh keystore, read at any later instant. -/
theorem trust_follows_rotations (c : SignerCrates) (path : String)
    (order : HashMap.IterOrder String DateTime) (hcodec : ∀ seed : Bytes32,
      c.decode (c.encode seed.toList) = .ok seed.toList)
    (seed : Bytes32) (created now : Nat) (calls : List KeystoreCall)
    (hclock : ClockReadings (created :: calls.map KeystoreCall.now ++ [now]))
    (hdistinct : (calls.foldl (Succession.next c) (Succession.start c seed)).kids.Nodup) :
    TrustFollows c path order
      (calls.foldl (KeystoreCall.next c order) (ClusterSigner.freshKeystore c seed created))
      (calls.foldl (Succession.next c) (Succession.start c seed)) now := by
  have hmirrors : Mirrors c (calls.foldl (KeystoreCall.next c order) _) _ now :=
    (Mirrors.fresh c seed created).run calls hdistinct hclock.1
  have hnow : (now : DateTime) < maxUtc := hclock.2 now (by simp)
  generalize calls.foldl (Succession.next c) (Succession.start c seed) = keys at *
  generalize calls.foldl (KeystoreCall.next c order) _ = store at *
  refine ⟨⟨hmirrors.active, hmirrors.present, ?_⟩, ?_, ?_, ?_, ?_, ?_⟩
  · rw [trusted_iff hcodec hmirrors.wellFormed]
    exact ⟨hmirrors.present, by simp [isValid, hmirrors.active]⟩
  · intro r hr
    rw [hmirrors.trusted_retired hcodec hdistinct le_rfl hr]
    exact lt_previousGraceUntil_iff hnow _ _
  · intro kid hkid
    rw [trusted_iff hcodec hmirrors.wellFormed]
    exact fun htrusted => hkid (hmirrors.known kid htrusted.1)
  · intro kid hkid
    rw [trusted_iff hcodec hmirrors.wellFormed] at hkid
    exact loadSignerForKid_eq_none hkid
  · exact listValidPubkeys_lists hcodec hmirrors.wellFormed (hmirrors.active ▸ hmirrors.present)
  · intro write later kid hlater
    rcases pruneExpiredGrace_cases order now write store with hsame | hpruned
    · rw [hsame]
    · rw [trusted_iff hcodec hmirrors.wellFormed,
        trusted_iff hcodec (hpruned.wellFormed hmirrors.wellFormed)]
      exact hpruned.valid_iff hlater

/-! ### Two keys -/

def exampleSeed (b : UInt8) : Bytes32 := Vector.replicate 32 b

def examplePublicKey0 : Bytes32 :=
  #v[0x3b, 0x6a, 0x27, 0xbc, 0xce, 0xb6, 0xa4, 0x2d, 0x62, 0xa3, 0xa8, 0xd0,
    0x2a, 0x6f, 0x0d, 0x73, 0x65, 0x32, 0x15, 0x77, 0x1d, 0xe2, 0x43, 0xa6,
    0x3a, 0xc0, 0x48, 0xa1, 0x8b, 0x59, 0xda, 0x29]

def examplePublicKey1 : Bytes32 :=
  #v[0x8a, 0x88, 0xe3, 0xdd, 0x74, 0x09, 0xf1, 0x95, 0xfd, 0x52, 0xdb, 0x2d,
    0x3c, 0xba, 0x5d, 0x72, 0xca, 0x67, 0x09, 0xbf, 0x1d, 0x94, 0x12, 0x1b,
    0xf3, 0x74, 0x88, 0x01, 0xb4, 0x0f, 0x6f, 0x5c]

def exampleDigest0 : Bytes32 :=
  #v[0x13, 0x9e, 0x39, 0x40, 0xe6, 0x4b, 0x54, 0x91, 0x72, 0x20, 0x88, 0xd9,
    0xa0, 0xd7, 0x41, 0x62, 0x8f, 0xc8, 0x26, 0xe0, 0x94, 0x75, 0xd3, 0x41,
    0xa7, 0x80, 0xac, 0xde, 0x3c, 0x4b, 0x80, 0x70]

def exampleDigest1 : Bytes32 :=
  #v[0x34, 0x75, 0x0f, 0x98, 0xbd, 0x59, 0xfc, 0xfc, 0x94, 0x6d, 0xa4, 0x5a,
    0xaa, 0xbe, 0x93, 0x3b, 0xe1, 0x54, 0xa4, 0xb5, 0x09, 0x4e, 0x1c, 0x4a,
    0xbf, 0x42, 0x86, 0x65, 0x05, 0xf3, 0xc9, 0x7e]

def exampleHexByte (b : UInt8) : List Char :=
  [Nat.digitChar (b.toNat / 16), Nat.digitChar (b.toNat % 16)]

def exampleCrates : SignerCrates :=
  { verifyingKey := fun seed =>
      if seed = exampleSeed 0 then examplePublicKey0
      else if seed = exampleSeed 1 then examplePublicKey1
      else seed
    sha256 := fun bytes =>
      if bytes = examplePublicKey0.toList then exampleDigest0
      else if bytes = examplePublicKey1.toList then exampleDigest1
      else exampleSeed 2
    hexEncode := fun bytes => String.ofList (bytes.flatMap exampleHexByte)
    encode := fun bytes =>
      if bytes = (exampleSeed 0).toList then "AAAAAAAAAAAAAAAAAAAAAAAAAAAAAAAAAAAAAAAAAAA"
      else if bytes = (exampleSeed 1).toList then "AQEBAQEBAQEBAQEBAQEBAQEBAQEBAQEBAQEBAQEBAQE"
      else String.ofList ('!' :: bytes.map Char.ofUInt8)
    decode := fun text =>
      if text = "AAAAAAAAAAAAAAAAAAAAAAAAAAAAAAAAAAAAAAAAAAA" then .ok (exampleSeed 0).toList
      else if text = "AQEBAQEBAQEBAQEBAQEBAQEBAQEBAQEBAQEBAQEBAQE" then
        .ok (exampleSeed 1).toList
      else .ok (text.toList.tail.map Char.toUInt8) }

lemma exampleCrates_decode_encode (seed : Bytes32) :
    exampleCrates.decode (exampleCrates.encode seed.toList) = .ok seed.toList := by
  have hmark : ∀ (text : String) (bytes : Bytes), text.toList.head? ≠ some '!' →
      String.ofList ('!' :: bytes.map Char.ofUInt8) ≠ text := by
    rintro text bytes hhead rfl
    simp at hhead
  simp only [exampleCrates]
  by_cases hzero : seed.toList = (exampleSeed 0).toList
  · rw [if_pos hzero, if_pos rfl, hzero]
  · rw [if_neg hzero]
    by_cases hone : seed.toList = (exampleSeed 1).toList
    · rw [if_pos hone, if_neg (by decide), if_pos rfl, hone]
    · rw [if_neg hone, if_neg (hmark _ _ (by decide)), if_neg (hmark _ _ (by decide))]
      have hbyte : Char.toUInt8 ∘ Char.ofUInt8 = id := funext (by decide +kernel)
      simp [hbyte]

/-- The first key is retired at 100 with a grace of 50; at 120 it is still accepted. -/
theorem trust_follows_rotations_two_keys :
    TrustFollows exampleCrates "/var/lib/zlayer/cluster_signer.key" HashMap.IterOrder.byKey
      ([KeystoreCall.rotate 100 50 (.ok (exampleSeed 1)) (.ok ()), .prune 120 (.ok ())].foldl
        (KeystoreCall.next exampleCrates HashMap.IterOrder.byKey)
        (ClusterSigner.freshKeystore exampleCrates (exampleSeed 0) 7))
      ([KeystoreCall.rotate 100 50 (.ok (exampleSeed 1)) (.ok ()), .prune 120 (.ok ())].foldl
        (Succession.next exampleCrates) (Succession.start exampleCrates (exampleSeed 0))) 120 :=
  trust_follows_rotations exampleCrates _ HashMap.IterOrder.byKey exampleCrates_decode_encode
    (exampleSeed 0) 7 120 _ ⟨by decide, by decide⟩ (by decide +kernel)

end ZLayer.Secrets
