import ZLayer.Lib.Codec

/-!
# Wire — codecs of bytes, numbers and texts

The primitives of compact binary formats: single bytes, natural numbers in base 128 with a
continuation bit, machine words as such numbers or in little-endian order, signed numbers folded
into the naturals, and UTF-8 texts after their length.
-/

namespace ZLayer.Lib

/-! ## UTF-8 -/

def utf8Bytes (value : String) : List UInt8 := value.toUTF8.data.toList

/-- The text with these bytes, if they are valid UTF-8. -/
def fromUtf8 (bytes : List UInt8) : Option String := String.fromUTF8? ⟨bytes.toArray⟩

@[simp] lemma fromUtf8_utf8Bytes (value : String) : fromUtf8 (utf8Bytes value) = some value := by
  have hbytes : (⟨(utf8Bytes value).toArray⟩ : ByteArray) = value.toByteArray := by
    simp [utf8Bytes]
  have hvalid : value.toByteArray.IsValidUTF8 := value.isValidUTF8
  unfold fromUtf8 String.fromUTF8?
  rw [hbytes]
  simp [String.fromUTF8, hvalid]

lemma utf8Bytes_of_fromUtf8 {bytes : List UInt8} {value : String}
    (h : fromUtf8 bytes = some value) : utf8Bytes value = bytes := by
  unfold fromUtf8 String.fromUTF8? at h
  split at h
  · rw [← Option.some.inj h]
    simp [utf8Bytes, String.fromUTF8]
  · cases h

namespace Wire

/-! ## Bytes -/

def byte : TightCodec UInt8 :=
  { enc := fun b => [b]
    dec := fun
      | [] => none
      | b :: rest => some (b, rest)
    safe := fun _ _ => rfl
    tight := by
      intro bytes rest b h
      cases bytes with
      | nil => cases h
      | cons first tail =>
        cases h
        exact (Nat.add_comm 1 rest.length).le }

/-! ## Numbers in base 128 -/

/-- Seven bits a byte, the lowest first, with the high bit set on every byte but the last.  The
first argument bounds the number of bytes. -/
def encodeVarint : Nat → Nat → List UInt8
  | 0, n => [UInt8.ofNat n]
  | fuel + 1, n =>
    if n < 128 then [UInt8.ofNat n]
    else UInt8.ofNat (n % 128 + 128) :: encodeVarint fuel (n / 128)

def decodeVarint : List UInt8 → Option (Nat × List UInt8)
  | [] => none
  | b :: rest =>
    if b.toNat < 128 then some (b.toNat, rest)
    else (decodeVarint rest).map fun (n, rest) => (b.toNat - 128 + 128 * n, rest)

lemma decodeVarint_encodeVarint {fuel n : Nat} (h : n ≤ fuel) (rest : List UInt8) :
    decodeVarint (encodeVarint fuel n ++ rest) = some (n, rest) := by
  induction fuel generalizing n with
  | zero =>
    obtain rfl : n = 0 := Nat.le_zero.mp h
    rfl
  | succ fuel ih =>
    by_cases hlast : n < 128
    · have hbyte : (UInt8.ofNat n).toNat = n := by
        rw [UInt8.toNat_ofNat']
        omega
      simp [encodeVarint, decodeVarint, hlast, hbyte]
    · have hbyte : (UInt8.ofNat (n % 128 + 128)).toNat = n % 128 + 128 := by
        rw [UInt8.toNat_ofNat']
        omega
      have hmore := ih (n := n / 128) (by omega)
      have hvalue : n % 128 + 128 * (n / 128) = n := Nat.mod_add_div n 128
      have hmark : ¬ n % 128 + 128 < 128 := by omega
      simp only [encodeVarint, if_neg hlast, List.cons_append, decodeVarint, hbyte, if_neg hmark,
        hmore, Option.map_some, Nat.add_sub_cancel, hvalue]

lemma length_encodeVarint_le {k : Nat} (fuel : Nat) {n : Nat} (h : n < 128 ^ (k + 1)) :
    (encodeVarint fuel n).length ≤ k + 1 := by
  induction fuel generalizing k n with
  | zero => simp [encodeVarint]
  | succ fuel ih =>
    by_cases hlast : n < 128
    · simp [encodeVarint, hlast]
    · cases k with
      | zero => exact absurd (by simpa using h) hlast
      | succ k =>
        have hquot : n / 128 < 128 ^ (k + 1) := by
          rw [Nat.div_lt_iff_lt_mul (by omega), ← Nat.pow_succ]
          exact h
        have htail := ih hquot
        simp only [encodeVarint, if_neg hlast, List.length_cons]
        omega

lemma lt_of_decodeVarint {bytes rest : List UInt8} {n : Nat}
    (h : decodeVarint bytes = some (n, rest)) :
    ∃ k, bytes.length = k + 1 + rest.length ∧ n < 128 ^ (k + 1) := by
  induction bytes generalizing n rest with
  | nil => cases h
  | cons b tail ih =>
    by_cases hlast : b.toNat < 128
    · have hout : b.toNat = n ∧ tail = rest := by simpa [decodeVarint, hlast] using h
      rcases hout with ⟨rfl, rfl⟩
      exact ⟨0, by simp [Nat.add_comm], by simpa using hlast⟩
    · simp only [decodeVarint, if_neg hlast] at h
      rcases Option.map_eq_some_iff.mp h with ⟨⟨m, rest'⟩, hread, hout⟩
      have hpair : b.toNat - 128 + 128 * m = n ∧ rest' = rest := by simpa using hout
      rcases hpair with ⟨rfl, rfl⟩
      rcases ih hread with ⟨k, hlength, hm⟩
      refine ⟨k + 1, by simp only [List.length_cons, hlength]; omega, ?_⟩
      have hb := b.toNat_lt
      have hpow : 128 ^ (k + 1 + 1) = 128 ^ (k + 1) * 128 := Nat.pow_succ ..
      omega

lemma length_encodeVarint_pos (fuel n : Nat) : 1 ≤ (encodeVarint fuel n).length := by
  cases fuel with
  | zero => simp [encodeVarint]
  | succ fuel =>
    simp only [encodeVarint]
    split <;> simp

lemma length_encodeVarint_mono {f g m n : Nat} (hmn : m ≤ n) (hn : n ≤ g) :
    (encodeVarint f m).length ≤ (encodeVarint g n).length := by
  induction f generalizing g m n with
  | zero => simpa [encodeVarint] using length_encodeVarint_pos g n
  | succ f ih =>
    by_cases hm : m < 128
    · simpa [encodeVarint, hm] using length_encodeVarint_pos g n
    · cases g with
      | zero => omega
      | succ g =>
        have htail := ih (g := g) (m := m / 128) (n := n / 128)
          (Nat.div_le_div_right hmn) (by omega)
        have hn' : ¬ n < 128 := by omega
        simpa [encodeVarint, hm, hn'] using htail

def varint : SizeCodec :=
  { enc := fun n => encodeVarint n n
    dec := decodeVarint
    safe := fun n rest => decodeVarint_encodeVarint (Nat.le_refl n) rest
    tight := by
      intro bytes rest n h
      rcases lt_of_decodeVarint h with ⟨k, hlength, hn⟩
      have hle := length_encodeVarint_le n hn
      omega
    mono := fun {_ n} hmn => length_encodeVarint_mono hmn (Nat.le_refl n) }

/-! ## Machine words -/

/-- A word of bounded size as a number; larger numbers are refused. -/
def word {α : Type} (bound : Nat) (toNat : α → Nat) (ofNat : Nat → α)
    (hlt : ∀ a, toNat a < bound) (hof : ∀ a, ofNat (toNat a) = a)
    (hto : ∀ {n}, n < bound → toNat (ofNat n) = n) : TightCodec α :=
  varint.toTightCodec.via toNat (fun n => if n < bound then some (ofNat n) else none)
    (by
      intro a
      rw [if_pos (hlt a), hof a])
    (by
      intro n a h
      by_cases hn : n < bound
      · rw [if_pos hn] at h
        rw [← Option.some.inj h, hto hn]
      · rw [if_neg hn] at h
        cases h)

def u16 : TightCodec UInt16 :=
  word (2 ^ 16) UInt16.toNat UInt16.ofNat UInt16.toNat_lt (fun _ => UInt16.ofNat_toNat)
    fun h => UInt16.toNat_ofNat_of_lt h

def u32 : TightCodec UInt32 :=
  word (2 ^ 32) UInt32.toNat UInt32.ofNat UInt32.toNat_lt (fun _ => UInt32.ofNat_toNat)
    fun h => UInt32.toNat_ofNat_of_lt h

def u64 : TightCodec UInt64 :=
  word (2 ^ 64) UInt64.toNat UInt64.ofNat UInt64.toNat_lt (fun _ => UInt64.ofNat_toNat)
    fun h => UInt64.toNat_ofNat_of_lt h

def encodeLe : Nat → Nat → List UInt8
  | 0, _ => []
  | k + 1, n => UInt8.ofNat (n % 256) :: encodeLe k (n / 256)

def decodeLe : Nat → Reader Nat
  | 0 => return 0
  | k + 1 => return (← byte.dec).toNat + 256 * (← decodeLe k)

lemma decodeLe_encodeLe {k n : Nat} (h : n < 256 ^ k) (rest : List UInt8) :
    decodeLe k (encodeLe k n ++ rest) = some (n, rest) := by
  induction k generalizing n with
  | zero =>
    obtain rfl : n = 0 := by simpa using h
    rfl
  | succ k ih =>
    have hquot : n / 256 < 256 ^ k := by
      rw [Nat.div_lt_iff_lt_mul (by omega), ← Nat.pow_succ]
      exact h
    have hbyte : (UInt8.ofNat (n % 256)).toNat = n % 256 := by
      rw [UInt8.toNat_ofNat']
      omega
    have hfirst : byte.dec (encodeLe (k + 1) n ++ rest) =
        some (UInt8.ofNat (n % 256), encodeLe k (n / 256) ++ rest) := rfl
    have hvalue : n % 256 + 256 * (n / 256) = n := Nat.mod_add_div n 256
    simp only [decodeLe, Reader.bind_apply, hfirst, Option.bind_some, ih hquot,
      Reader.pure_apply, hbyte, hvalue]

def le {α : Type} (k : Nat) (toNat : α → Nat) (ofNat : Nat → α)
    (hlt : ∀ a, toNat a < 256 ^ k) (hof : ∀ a, ofNat (toNat a) = a) : Codec α :=
  { enc := fun a => encodeLe k (toNat a)
    dec := return ofNat (← decodeLe k)
    safe := by
      intro a rest
      simp [decodeLe_encodeLe (hlt a), hof a] }

/-! ## Signed numbers -/

/-- Non-negative numbers go to the even numbers, negative ones to the odd numbers. -/
def zigzag : Int → Nat
  | .ofNat n => 2 * n
  | .negSucc n => 2 * n + 1

def unzigzag (n : Nat) : Int :=
  if n % 2 = 0 then .ofNat (n / 2) else .negSucc (n / 2)

lemma unzigzag_zigzag (i : Int) : unzigzag (zigzag i) = i := by
  cases i with
  | ofNat n =>
    have heven : 2 * n % 2 = 0 := by omega
    have hhalf : 2 * n / 2 = n := by omega
    simp only [zigzag, unzigzag, if_pos heven, hhalf]
  | negSucc n =>
    have hodd : ¬ (2 * n + 1) % 2 = 0 := by omega
    have hhalf : (2 * n + 1) / 2 = n := by omega
    simp only [zigzag, unzigzag, if_neg hodd, hhalf]

def int : Codec Int :=
  varint.toCodec.via zigzag (fun n => some (unzigzag n)) fun i => by rw [unzigzag_zigzag]

def i64 : Codec Int64 :=
  int.via Int64.toInt (fun i => some (Int64.ofInt i)) fun i => by rw [Int64.ofInt_toInt]

/-! ## Texts -/

def text : TightCodec String :=
  (byte.list varint).via utf8Bytes fromUtf8 fromUtf8_utf8Bytes utf8Bytes_of_fromUtf8

end Wire
end ZLayer.Lib
