import Mathlib.Data.List.Basic
import Mathlib.Tactic.Ring

/-!
# BigEndian — numbers as bytes, the highest first, and slices of a byte string

Writing a number into `k` bytes keeps it modulo `256 ^ k`; every string of `k` bytes is the form of
exactly one number below that bound.
-/

namespace ZLayer.Lib
namespace BigEndian

open List

/-- The last `k` bytes of a number, the highest first. -/
def toBe : Nat → Nat → List UInt8
  | 0, _ => []
  | k + 1, n => UInt8.ofNat (n / 256 ^ k) :: toBe k n

def ofBe : List UInt8 → Nat
  | [] => 0
  | b :: bytes => b.toNat * 256 ^ bytes.length + ofBe bytes

@[simp] lemma length_toBe (k n : Nat) : (toBe k n).length = k := by
  induction k with
  | zero => rfl
  | succ k ih => simp [toBe, ih]

lemma ofBe_toBe (k n : Nat) : ofBe (toBe k n) = n % 256 ^ k := by
  induction k with
  | zero => simp [toBe, ofBe, Nat.mod_one]
  | succ k ih =>
    have hbyte : (UInt8.ofNat (n / 256 ^ k)).toNat = n / 256 ^ k % 256 := UInt8.toNat_ofNat'
    rw [toBe, ofBe, length_toBe, ih, hbyte, Nat.mod_pow_succ]
    ring

lemma ofBe_toBe_of_lt {k n : Nat} (h : n < 256 ^ k) : ofBe (toBe k n) = n := by
  rw [ofBe_toBe, Nat.mod_eq_of_lt h]

lemma ofBe_lt (bytes : List UInt8) : ofBe bytes < 256 ^ bytes.length := by
  induction bytes with
  | nil => simp [ofBe]
  | cons b bytes ih =>
    have hb : b.toNat + 1 ≤ 256 := b.toNat_lt
    calc b.toNat * 256 ^ bytes.length + ofBe bytes
        < b.toNat * 256 ^ bytes.length + 256 ^ bytes.length := Nat.add_lt_add_left ih _
      _ = (b.toNat + 1) * 256 ^ bytes.length := by ring
      _ ≤ 256 * 256 ^ bytes.length := Nat.mul_le_mul_right _ hb
      _ = 256 ^ (b :: bytes).length := by rw [length_cons, Nat.pow_succ]; ring

lemma toBe_mod (k n : Nat) : toBe k (n % 256 ^ k) = toBe k n := by
  have hinner : ∀ j ≤ k, toBe j (n % 256 ^ k) = toBe j n := by
    intro j
    induction j with
    | zero => intro _; rfl
    | succ j ih =>
      intro hj
      have hbyte : UInt8.ofNat (n % 256 ^ k / 256 ^ j) = UInt8.ofNat (n / 256 ^ j) := by
        apply UInt8.toNat_inj.mp
        have hpow : 256 ^ k = 256 ^ j * 256 ^ (k - j) := by
          rw [← Nat.pow_add, Nat.add_sub_cancel' (Nat.le_of_succ_le hj)]
        have hdvd : 256 ∣ 256 ^ (k - j) := dvd_pow_self 256 (by omega)
        rw [UInt8.toNat_ofNat', UInt8.toNat_ofNat', hpow, Nat.mod_mul_right_div_self,
          Nat.mod_mod_of_dvd _ hdvd]
      rw [toBe, toBe, hbyte, ih (Nat.le_of_succ_le hj)]
  exact hinner k (Nat.le_refl k)

lemma toBe_ofBe (bytes : List UInt8) : toBe bytes.length (ofBe bytes) = bytes := by
  induction bytes with
  | nil => rfl
  | cons b bytes ih =>
    have hlt := ofBe_lt bytes
    have hpos : 0 < 256 ^ bytes.length := Nat.pow_pos (by omega)
    have hhigh : (b.toNat * 256 ^ bytes.length + ofBe bytes) / 256 ^ bytes.length = b.toNat := by
      rw [Nat.mul_comm, Nat.mul_add_div hpos, Nat.div_eq_of_lt hlt, Nat.add_zero]
    have hlow : (b.toNat * 256 ^ bytes.length + ofBe bytes) % 256 ^ bytes.length =
        ofBe bytes := by
      rw [Nat.mul_comm, Nat.mul_add_mod, Nat.mod_eq_of_lt hlt]
    have htail : toBe bytes.length (b.toNat * 256 ^ bytes.length + ofBe bytes) = bytes := by
      rw [← toBe_mod, hlow, ih]
    rw [length_cons, toBe, ofBe, hhigh, htail, UInt8.ofNat_toNat]

/-! ## Slices -/

def slice (bytes : List UInt8) (offset n : Nat) : List UInt8 :=
  (bytes.drop offset).take n

variable {offset n : Nat} {bytes : List UInt8}

lemma length_slice (h : offset + n ≤ bytes.length) : (slice bytes offset n).length = n := by
  rw [slice, length_take, length_drop]
  omega

variable {before middle : List UInt8}

lemma slice_append (after : List UInt8) (hoffset : before.length = offset)
    (hn : middle.length = n) : slice (before ++ (middle ++ after)) offset n = middle := by
  rw [slice, drop_left' hoffset, take_left' hn]

lemma slice_zero (bytes : List UInt8) (n : Nat) : slice bytes 0 n = bytes.take n := rfl

lemma slice_of_isPrefix {bytes before middle after : List UInt8}
    (h : before ++ (middle ++ after) <+: bytes) (hoffset : before.length = offset)
    (hn : middle.length = n) : slice bytes offset n = middle := by
  rcases h with ⟨rest, rfl⟩
  rw [append_assoc, append_assoc]
  exact slice_append (after ++ rest) hoffset hn

lemma isPrefix_drop_iff {front : List UInt8} (hn : front.length = n)
    (hend : 0 < n ∨ offset ≤ bytes.length) :
    front <+: bytes.drop offset ↔ offset + n ≤ bytes.length ∧ slice bytes offset n = front := by
  rw [prefix_iff_eq_take, hn, slice, eq_comm]
  refine ⟨fun h => ⟨?_, h⟩, And.right⟩
  have hlength := congrArg List.length h
  rw [length_take, length_drop, hn] at hlength
  omega

lemma append_isPrefix_drop_iff {front rest : List UInt8} (hn : front.length = n) :
    front ++ rest <+: bytes.drop offset ↔
      front <+: bytes.drop offset ∧ rest <+: bytes.drop (offset + n) := by
  rw [← drop_drop, ← hn]
  constructor
  · rintro ⟨after, hafter⟩
    rw [← hafter, append_assoc]
    exact ⟨prefix_append .., by simp⟩
  · rintro ⟨⟨after, hafter⟩, hrest⟩
    rw [← hafter, drop_left] at hrest
    rw [← hafter]
    exact (prefix_append_right_inj front).mpr hrest

lemma slice_take {offset n p : Nat} (h : offset + n ≤ p) :
    slice (bytes.take p) offset n = slice bytes offset n := by
  rw [slice, slice, drop_take, take_take, Nat.min_eq_left (by omega)]

lemma slice_middle (after : List UInt8) (h : offset + n ≤ middle.length) :
    slice (before ++ (middle ++ after)) (before.length + offset) n = slice middle offset n := by
  rw [slice, slice, ← drop_drop, drop_left' rfl, drop_append_of_le_length (by omega),
    take_append_of_le_length (by rw [length_drop]; omega)]

lemma toBe_ofBe_slice (h : offset + n ≤ bytes.length) :
    toBe n (ofBe (slice bytes offset n)) = slice bytes offset n := by
  have hback := toBe_ofBe (slice bytes offset n)
  rwa [length_slice h] at hback

end BigEndian
end ZLayer.Lib
