import ZLayer.Lib.Str
import ZLayer.Lib.Wire

/-!
# HeaderMap — the header fields of an HTTP message

A field value is a sequence of bytes without control characters.  It can be read as a text when all
its bytes are visible ASCII characters, and a text can be made a value when its bytes are allowed.
A map has any number of values for a name; names are in lower case.  `insert` leaves one value for
its name, `remove` none.
-/

namespace ZLayer.Lib

open List

/-! ## Values -/

/-- The bytes a field value may have: no control characters, except for the tab. -/
def isFieldByte (b : UInt8) : Bool :=
  (32 ≤ b && b != 127) || b == 9

def isVisibleAscii (b : UInt8) : Bool :=
  (32 ≤ b && b < 127) || b == 9

structure HeaderValue where
  bytes : List UInt8
  valid : ∀ b ∈ bytes, isFieldByte b = true
  deriving DecidableEq

namespace HeaderValue

def toStr (v : HeaderValue) : Option String :=
  if v.bytes.all isVisibleAscii then fromUtf8 v.bytes else none

def parse (s : String) : Option HeaderValue :=
  if h : (utf8Bytes s).all isFieldByte = true then some ⟨utf8Bytes s, all_eq_true.mp h⟩
  else none

end HeaderValue

lemma isFieldByte_of_isVisibleAscii {b : UInt8} (h : isVisibleAscii b = true) :
    isFieldByte b = true := by
  simp only [isVisibleAscii, isFieldByte, Bool.or_eq_true, Bool.and_eq_true, decide_eq_true_eq,
    bne_iff_ne, beq_iff_eq] at h ⊢
  rcases h with ⟨hle, hlt⟩ | htab
  · exact .inl ⟨hle, fun heq => by simp [heq] at hlt⟩
  · exact .inr htab

/-- A text all of whose bytes are visible ASCII. -/
def IsAscii (s : String) : Prop :=
  ∀ b ∈ utf8Bytes s, isVisibleAscii b = true

lemma utf8Bytes_append (s t : String) : utf8Bytes (s ++ t) = utf8Bytes s ++ utf8Bytes t := by
  simp [utf8Bytes]

lemma IsAscii.append {s t : String} (hs : IsAscii s) (ht : IsAscii t) : IsAscii (s ++ t) := by
  intro b hb
  rw [utf8Bytes_append] at hb
  exact (mem_append.mp hb).elim (hs b) (ht b)

lemma isAscii_of_toStr {v : HeaderValue} {s : String} (h : v.toStr = some s) : IsAscii s := by
  unfold HeaderValue.toStr at h
  split at h
  · rename_i hall
    intro b hb
    rw [utf8Bytes_of_fromUtf8 h] at hb
    exact all_eq_true.mp hall b hb
  · cases h

lemma IsAscii.parse {s : String} (h : IsAscii s) :
    ∃ v, HeaderValue.parse s = some v ∧ v.toStr = some s ∧ v.bytes = utf8Bytes s := by
  have hvalid : (utf8Bytes s).all isFieldByte = true :=
    all_eq_true.mpr fun b hb => isFieldByte_of_isVisibleAscii (h b hb)
  refine ⟨⟨utf8Bytes s, all_eq_true.mp hvalid⟩, dif_pos hvalid, ?_, rfl⟩
  rw [HeaderValue.toStr, if_pos (all_eq_true.mpr h)]
  exact fromUtf8_utf8Bytes s

lemma utf8Bytes_eq_flatMap (s : String) :
    utf8Bytes s = s.toList.flatMap String.utf8EncodeChar := by
  have hencode : s.toByteArray = s.toList.utf8Encode := by
    conv_lhs => rw [← String.ofList_toList (s := s)]
    exact String.toByteArray_ofList
  rw [utf8Bytes, String.toUTF8_eq_toByteArray, hencode, utf8Encode]
  simp

lemma isAscii_of_chars {s : String} (h : ∀ c ∈ s.toList, 32 ≤ c.toNat ∧ c.toNat < 127) :
    IsAscii s := by
  intro b hb
  rw [utf8Bytes_eq_flatMap] at hb
  obtain ⟨c, hc, hmem⟩ := mem_flatMap.mp hb
  obtain ⟨hle, hlt⟩ := h c hc
  -- such a character is encoded by its number
  have hsize : c.utf8Size = 1 := by
    rw [Char.utf8Size_eq_one_iff, UInt32.le_iff_toNat_le]
    exact Nat.le_of_lt hlt
  rw [String.utf8EncodeChar_eq_singleton hsize, mem_singleton] at hmem
  subst hmem
  have hbyte : c.val.toUInt8.toNat = c.toNat := by
    rw [UInt32.toNat_toUInt8]
    exact Nat.mod_eq_of_lt (Nat.lt_trans hlt (by decide))
  simp only [isVisibleAscii, Bool.or_eq_true, Bool.and_eq_true, decide_eq_true_eq,
    UInt8.le_iff_toNat_le, UInt8.lt_iff_toNat_lt, hbyte]
  exact .inl ⟨hle, hlt⟩

/-! ## Maps -/

/-- The fields in the order they are iterated; the order of different names is not specified. -/
abbrev HeaderMap := List (String × HeaderValue)

namespace HeaderMap

def getAll (h : HeaderMap) (name : String) : List HeaderValue :=
  (h.filter fun field => field.1 == name).map Prod.snd

def get (h : HeaderMap) (name : String) : Option HeaderValue :=
  (h.getAll name).head?

def remove (h : HeaderMap) (name : String) : HeaderMap :=
  h.filter fun field => field.1 != name

/-- All values of the name are replaced by one. -/
def insert (h : HeaderMap) (name : String) (value : HeaderValue) : HeaderMap :=
  h.remove name ++ [(name, value)]

def insertAll (h source : HeaderMap) : HeaderMap :=
  source.foldl (fun h field => h.insert field.1 field.2) h

lemma getAll_remove (h : HeaderMap) (name m : String) :
    (h.remove name).getAll m = if m = name then [] else h.getAll m := by
  unfold getAll remove
  rw [filter_filter]
  split
  · rename_i heq
    subst heq
    simp
  · rename_i hne
    congr 1
    refine filter_congr fun field _ => ?_
    by_cases hfield : field.1 = m
    · simp [hfield, hne]
    · simp [hfield]

lemma getAll_append (h k : HeaderMap) (m : String) :
    HeaderMap.getAll (h ++ k) m = h.getAll m ++ k.getAll m := by
  simp [getAll]

lemma getAll_insert (h : HeaderMap) (name m : String) (value : HeaderValue) :
    (h.insert name value).getAll m = if m = name then [value] else h.getAll m := by
  unfold insert
  rw [getAll_append, getAll_remove]
  by_cases hm : m = name
  · simp [hm, getAll]
  · simp [hm, Ne.symm hm, getAll]

lemma getAll_insertAll (h source : HeaderMap) (m : String) : (h.insertAll source).getAll m =
      match (source.getAll m).getLast? with
      | some value => [value]
      | none => h.getAll m := by
  induction source using reverseRecOn with
  | nil => rfl
  | append_singleton source field ih =>
    rw [insertAll, foldl_concat, ← insertAll, getAll_insert, getAll_append]
    by_cases hm : m = field.1
    · simp [hm, getAll]
    · simpa [hm, Ne.symm hm, getAll] using ih

end HeaderMap

end ZLayer.Lib
