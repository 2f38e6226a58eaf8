import ZLayer.Secrets.Types

/-!
# ClusterDek — wrapping and using the cluster data-encryption key

The DEK is 32 random bytes.  It is sealed for every recipient node with that node's X25519 public
key, and encrypts the secrets with XChaCha20-Poly1305 under a random 24-byte nonce that is
prepended to the ciphertext.

The two cryptographic libraries are a parameter, `Crypto`.  `Crypto.Lawful` collects what the code
relies on: opening inverts sealing and decryption inverts encryption under the right key, both fail
under another key, and sealing and encrypting do not fail.  Random bytes drawn by the code are
arguments: seal seeds, nonces and fresh DEKs.
-/

namespace ZLayer.Secrets

open Lib HashMap

abbrev Nonce := Vector UInt8 24

def dekSize : Nat := 32

def nonceSize : Nat := 24

/-! ## The cryptographic libraries -/

/-- Sealed boxes (`crypto_box`) and the AEAD (`chacha20poly1305`). -/
structure Crypto where
  publicKey : Bytes32 → Bytes32
  /-- `PublicKey::seal`, with the random bytes it draws. -/
  sealRaw : (seed : Bytes32) → (plaintext : Bytes) → (recipient : Bytes32) → Option Bytes
  /-- `SecretKey::unseal`. -/
  openRaw : (ciphertext : Bytes) → (key : Bytes32) → Option Bytes
  aeadEncrypt : (key : Bytes32) → (nonce : Nonce) → (plaintext : Bytes) → Option Bytes
  aeadDecrypt : (key : Bytes32) → (nonce : Nonce) → (ciphertext : Bytes) → Option Bytes

structure Crypto.Lawful (c : Crypto) : Prop where
  exists_sealRaw : ∀ seed plaintext recipient, ∃ ct, c.sealRaw seed plaintext recipient = some ct
  openRaw_of_sealRaw : ∀ {seed plaintext key ct},
    c.sealRaw seed plaintext (c.publicKey key) = some ct → c.openRaw ct key = some plaintext
  openRaw_eq_none : ∀ {seed plaintext recipient key ct},
    c.sealRaw seed plaintext recipient = some ct → recipient ≠ c.publicKey key →
      c.openRaw ct key = none
  exists_encrypt : ∀ key nonce plaintext, ∃ ct, c.aeadEncrypt key nonce plaintext = some ct
  decrypt_of_encrypt : ∀ {key nonce plaintext ct},
    c.aeadEncrypt key nonce plaintext = some ct → c.aeadDecrypt key nonce ct = some plaintext
  decrypt_eq_none : ∀ {key key' nonce plaintext ct},
    c.aeadEncrypt key nonce plaintext = some ct → key' ≠ key → c.aeadDecrypt key' nonce ct = none

/-! ## Operations of the DEK -/

namespace ClusterDek

def wrap (c : Crypto) (seed dek recipient : Bytes32) : Except SecretsError Bytes :=
  match c.sealRaw seed dek.toList recipient with
  | some ct => .ok ct
  | none => .error (.encryption "DEK wrap failed: encryption failed")

def rewrapInto (c : Crypto) (seeds : String → Bytes32) (dek : Bytes32) :
    List (String × Bytes32) → HashMap String Bytes → Except SecretsError (HashMap String Bytes)
  | [], wraps => .ok wraps
  | (nodeId, pubkey) :: rest, wraps =>
    match wrap c (seeds nodeId) dek pubkey with
    | .ok wrapped => rewrapInto c seeds dek rest (wraps.insert nodeId wrapped)
    | .error e =>
      .error (.encryption ("DEK wrap failed for node " ++ nodeId ++ ": " ++ e.display))

/-- Wrap the DEK for every recipient; the seed drawn for a node is `seeds node`. -/
def rewrapForSet (c : Crypto) (seeds : String → Bytes32) (dek : Bytes32)
    (recipients : HashMap String Bytes32) (newGeneration : UInt64) :
    Except SecretsError WrappedDek :=
  match rewrapInto c seeds dek (entries recipients) ∅ with
  | .ok wraps => .ok { dekGeneration := newGeneration, wraps := wraps }
  | .error e => .error e

def unwrap (c : Crypto) (nodePriv : Bytes32) (wrapped : Bytes) : Except SecretsError Bytes32 :=
  match c.openRaw wrapped nodePriv with
  | none => .error (.decryption "DEK unwrap failed: decryption failed")
  | some plaintext =>
    if h : plaintext.length = dekSize then
      .ok ⟨plaintext.toArray, by simpa [dekSize] using h⟩
    else
      .error (.decryption ("Unwrapped DEK has wrong length: expected " ++ toString dekSize ++
        " bytes, got " ++ toString plaintext.length))

def encrypt (c : Crypto) (dek : Bytes32) (nonce : Nonce) (plaintext : Bytes) :
    Except SecretsError Bytes :=
  match c.aeadEncrypt dek nonce plaintext with
  | some ct => .ok (nonce.toList ++ ct)
  | none => .error (.encryption "Encryption failed: aead::Error")

def decrypt (c : Crypto) (dek : Bytes32) (blob : Bytes) : Except SecretsError Bytes :=
  if h : nonceSize ≤ blob.length then
    let nonce : Nonce := ⟨(blob.take nonceSize).toArray, by simp [nonceSize] at h ⊢; omega⟩
    match c.aeadDecrypt dek nonce (blob.drop nonceSize) with
    | some plaintext => .ok plaintext
    | none => .error (.decryption "Decryption failed: aead::Error")
  else
    .error (.decryption ("Data too short: expected at least " ++ toString nonceSize ++
      " bytes for nonce, got " ++ toString blob.length))

/-! ## What they guarantee -/

variable {c : Crypto}

def IsWrap (c : Crypto) (dek recipient : Bytes32) (wrapped : Bytes) : Prop :=
  ∃ seed, c.sealRaw seed dek.toList recipient = some wrapped

lemma wrap_ok (hc : c.Lawful) (seed dek recipient : Bytes32) :
    ∃ wrapped, wrap c seed dek recipient = .ok wrapped ∧ IsWrap c dek recipient wrapped := by
  rcases hc.exists_sealRaw seed dek.toList recipient with ⟨ct, hct⟩
  exact ⟨ct, by simp only [wrap, hct], seed, hct⟩

lemma unwrap_of_isWrap (hc : c.Lawful) {dek key : Bytes32} {wrapped : Bytes}
    (h : IsWrap c dek (c.publicKey key) wrapped) : unwrap c key wrapped = .ok dek := by
  rcases h with ⟨seed, hseal⟩
  have hlength : dek.toList.length = dekSize := by simp [dekSize]
  simp only [unwrap, hc.openRaw_of_sealRaw hseal, dif_pos hlength]
  rfl

lemma eq_of_unwrap_ok (hc : c.Lawful) {dek dek' recipient key : Bytes32} {wrapped : Bytes}
    (h : IsWrap c dek recipient wrapped) (hopen : unwrap c key wrapped = .ok dek') :
    dek' = dek ∧ recipient = c.publicKey key := by
  by_cases hkey : recipient = c.publicKey key
  · subst hkey
    have hdek := unwrap_of_isWrap hc h
    rw [hopen] at hdek
    exact ⟨by simpa using hdek, rfl⟩
  · rcases h with ⟨seed, hseal⟩
    simp [unwrap, hc.openRaw_eq_none hseal hkey] at hopen

lemma encrypt_ok (hc : c.Lawful) (dek : Bytes32) (nonce : Nonce) (plaintext : Bytes) :
    ∃ blob, encrypt c dek nonce plaintext = .ok blob := by
  rcases hc.exists_encrypt dek nonce plaintext with ⟨ct, hct⟩
  exact ⟨nonce.toList ++ ct, by simp only [encrypt, hct]⟩

def IsCiphertext (c : Crypto) (dek : Bytes32) (plaintext blob : Bytes) : Prop :=
  ∃ nonce, encrypt c dek nonce plaintext = .ok blob

/-- The nonce and the AEAD ciphertext of an encryption are found again by `decrypt`. -/
lemma decrypt_append (c : Crypto) (dek : Bytes32) (nonce : Nonce) (ct : Bytes) :
    decrypt c dek (nonce.toList ++ ct) =
      match c.aeadDecrypt dek nonce ct with
      | some plaintext => .ok plaintext
      | none => .error (.decryption "Decryption failed: aead::Error") := by
  have hlength : nonce.toList.length = nonceSize := by simp [nonceSize]
  have hle : nonceSize ≤ (nonce.toList ++ ct).length := by
    rw [List.length_append, hlength]
    omega
  have htake : (nonce.toList ++ ct).take nonceSize = nonce.toList := by
    rw [← hlength, List.take_left]
  have hdrop : (nonce.toList ++ ct).drop nonceSize = ct := by
    rw [← hlength, List.drop_left]
  simp only [decrypt, dif_pos hle, htake, hdrop]
  rfl

lemma IsCiphertext.exists_aead {dek : Bytes32} {plaintext blob : Bytes}
    (h : IsCiphertext c dek plaintext blob) :
    ∃ nonce ct, c.aeadEncrypt dek nonce plaintext = some ct ∧ nonce.toList ++ ct = blob := by
  rcases h with ⟨nonce, hencrypt⟩
  unfold encrypt at hencrypt
  cases hct : c.aeadEncrypt dek nonce plaintext with
  | none => simp [hct] at hencrypt
  | some ct => exact ⟨nonce, ct, hct, by simpa [hct] using hencrypt⟩

lemma decrypt_of_isCiphertext (hc : c.Lawful) {dek : Bytes32} {plaintext blob : Bytes}
    (h : IsCiphertext c dek plaintext blob) : decrypt c dek blob = .ok plaintext := by
  rcases h.exists_aead with ⟨nonce, ct, hct, rfl⟩
  rw [decrypt_append, hc.decrypt_of_encrypt hct]

lemma decrypt_other_key (hc : c.Lawful) {dek dek' : Bytes32} {plaintext blob : Bytes}
    (h : IsCiphertext c dek plaintext blob) (hne : dek' ≠ dek) :
    decrypt c dek' blob = .error (.decryption "Decryption failed: aead::Error") := by
  rcases h.exists_aead with ⟨nonce, ct, hct, rfl⟩
  rw [decrypt_append, hc.decrypt_eq_none hct hne]

lemma dek_eq_of_decrypt_ok (hc : c.Lawful) {dek dek' : Bytes32}
    {plaintext plaintext' blob : Bytes} (h : IsCiphertext c dek plaintext blob)
    (hok : decrypt c dek' blob = .ok plaintext') : dek' = dek := by
  by_contra hne
  simp [decrypt_other_key hc h hne] at hok

lemma rewrapInto_spec (hc : c.Lawful) (seeds : String → Bytes32) (dek : Bytes32)
    (recipients : List (String × Bytes32)) (hnodup : (recipients.map Prod.fst).Nodup)
    (wraps : HashMap String Bytes) :
    ∃ wraps', rewrapInto c seeds dek recipients wraps = .ok wraps' ∧
      (∀ n, n ∉ recipients.map Prod.fst → wraps'[n]? = wraps[n]?) ∧
      ∀ n pubkey, (n, pubkey) ∈ recipients →
        ∃ wrapped, wraps'[n]? = some wrapped ∧ IsWrap c dek pubkey wrapped := by
  induction recipients generalizing wraps with
  | nil => exact ⟨wraps, rfl, fun _ _ => rfl, fun n pubkey hmem => absurd hmem (by simp)⟩
  | cons recipient rest ih =>
    rcases recipient with ⟨m, pk⟩
    rcases List.nodup_cons.mp hnodup with ⟨hm, hrest⟩
    rcases wrap_ok hc (seeds m) dek pk with ⟨wrapped, hwrap, his⟩
    rcases ih hrest (wraps.insert m wrapped) with ⟨wraps', hok, hother, hin⟩
    refine ⟨wraps', by simp only [rewrapInto, hwrap, hok], ?_, ?_⟩
    · intro n hn
      have hne : m ≠ n := fun heq => hn (by simp [heq])
      have hn' : n ∉ rest.map Prod.fst := fun hmem => hn (by simp [hmem])
      rw [hother n hn', lookup_insert_of_ne _ _ hne]
    · intro n pubkey hmem
      rcases List.mem_cons.mp hmem with heq | htail
      · have hnm : n = m ∧ pubkey = pk := by simpa using heq
        rcases hnm with ⟨rfl, rfl⟩
        refine ⟨wrapped, ?_, his⟩
        rw [hother n hm, lookup_insert, if_pos rfl]
      · exact hin n pubkey htail

/-- The envelope of `rewrapForSet` has exactly one wrap per recipient, of the given DEK. -/
lemma rewrapForSet_spec (hc : c.Lawful) (seeds : String → Bytes32) (dek : Bytes32)
    (recipients : HashMap String Bytes32) (generation : UInt64) :
    ∃ envelope, rewrapForSet c seeds dek recipients generation = .ok envelope ∧
      envelope.dekGeneration = generation ∧
      ∀ n : String, Option.Rel (IsWrap c dek) recipients[n]? envelope.wraps[n]? := by
  rcases rewrapInto_spec hc seeds dek (entries recipients)
    (entries_keys_nodup recipients) ∅ with ⟨wraps, hok, hother, hin⟩
  refine ⟨{ dekGeneration := generation, wraps := wraps }, by simp only [rewrapForSet, hok], rfl,
    ?_⟩
  intro n
  cases hn : recipients[n]? with
  | none =>
    have hnot : n ∉ (entries recipients).map Prod.fst := by
      rw [mem_keys, mem_iff_exists_lookup]
      simp [hn]
    have hnone : wraps[n]? = none := by rw [hother n hnot]; simp
    rw [hnone]
    exact .none
  | some pubkey =>
    rcases hin n pubkey ((mem_entries recipients).mpr hn) with ⟨wrapped, hw, his⟩
    simp only [hw]
    exact .some his

end ClusterDek

/-! ## A transparent instance -/

/-- Sealing and encrypting only tag the plaintext with the key that opens it.  It keeps nothing
secret, and satisfies every law. -/
def Crypto.transparent : Crypto :=
  { publicKey := fun key => key
    sealRaw := fun _ plaintext recipient => some (recipient.toList ++ plaintext)
    openRaw := fun ciphertext key =>
      if ciphertext.take 32 = key.toList then some (ciphertext.drop 32) else none
    aeadEncrypt := fun key _ plaintext => some (key.toList ++ plaintext)
    aeadDecrypt := fun key _ ciphertext =>
      if ciphertext.take 32 = key.toList then some (ciphertext.drop 32) else none }

lemma take_key_append (key : Bytes32) (rest : Bytes) :
    (key.toList ++ rest).take 32 = key.toList :=
  List.take_left' (by simp)

lemma drop_key_append (key : Bytes32) (rest : Bytes) : (key.toList ++ rest).drop 32 = rest :=
  List.drop_left' (by simp)

lemma Crypto.transparent_lawful : Crypto.transparent.Lawful := by
  refine
    { exists_sealRaw := fun _ plaintext recipient => ⟨recipient.toList ++ plaintext, rfl⟩
      openRaw_of_sealRaw := ?_
      openRaw_eq_none := ?_
      exists_encrypt := fun key _ plaintext => ⟨key.toList ++ plaintext, rfl⟩
      decrypt_of_encrypt := ?_
      decrypt_eq_none := ?_ }
  · intro seed plaintext key ct hct
    have hblob : key.toList ++ plaintext = ct := Option.some.inj hct
    simp only [Crypto.transparent, ← hblob, take_key_append, drop_key_append, if_pos]
  · intro seed plaintext recipient key ct hct hne
    have hblob : recipient.toList ++ plaintext = ct := Option.some.inj hct
    have hkey : recipient.toList ≠ key.toList := fun heq => hne (Vector.toList_inj.mp heq)
    simp only [Crypto.transparent, ← hblob, take_key_append, if_neg hkey]
  · intro key nonce plaintext ct hct
    have hblob : key.toList ++ plaintext = ct := Option.some.inj hct
    simp only [Crypto.transparent, ← hblob, take_key_append, drop_key_append, if_pos]
  · intro key key' nonce plaintext ct hct hne
    have hblob : key.toList ++ plaintext = ct := Option.some.inj hct
    have hkey : key.toList ≠ key'.toList := fun heq => hne (Vector.toList_inj.mp heq).symm
    simp only [Crypto.transparent, ← hblob, take_key_append, if_neg hkey]

end ZLayer.Secrets
