import Mathlib.Algebra.Group.Nat.Defs
import Mathlib.Data.List.Infix
import Mathlib.Data.List.DropRight

/-!
# Str — string functions of the standard library

The `str` methods that parsers and matchers call, on the characters of a string.
-/

namespace ZLayer.Lib
namespace Str

open List

/-- Replace the places of a nonempty pattern, from the left, after the next `skip` characters. -/
def replaceChars (pattern replacement : List Char) : Nat → List Char → List Char
  | _, [] => []
  | skip + 1, _ :: rest => replaceChars pattern replacement skip rest
  | 0, c :: rest =>
    if pattern.isPrefixOf (c :: rest) then
      replacement ++ replaceChars pattern replacement (pattern.length - 1) rest
    else c :: replaceChars pattern replacement 0 rest

/-- `str::replace` of a nonempty pattern. -/
def replace (pattern replacement s : String) : String :=
  String.ofList (replaceChars pattern.toList replacement.toList 0 s.toList)

/-- `char::is_whitespace`: the characters with the `White_Space` property. -/
def isWhitespace (c : Char) : Bool :=
  let n := c.toNat
  (0x09 ≤ n && n ≤ 0x0d) || n = 0x20 || n = 0x85 || n = 0xa0 || n = 0x1680 ||
    (0x2000 ≤ n && n ≤ 0x200a) || n = 0x2028 || n = 0x2029 || n = 0x202f || n = 0x205f ||
    n = 0x3000

def trim (s : String) : String :=
  String.ofList ((s.toList.dropWhile isWhitespace).rdropWhile isWhitespace)

/-- The parts before and after the first `sep`. -/
def splitOnceAt (sep : Char) : List Char → Option (List Char × List Char)
  | [] => none
  | c :: rest =>
    if c = sep then some ([], rest)
    else (splitOnceAt sep rest).map fun parts => (c :: parts.1, parts.2)

def splitOnce (sep : Char) (s : String) : Option (String × String) :=
  (splitOnceAt sep s.toList).map fun parts => (String.ofList parts.1, String.ofList parts.2)

def stripSuffix (suffix s : String) : Option String :=
  if suffix.toList.isSuffixOf s.toList then
    some (String.ofList (s.toList.take (s.toList.length - suffix.toList.length)))
  else
    none

/-- `str::contains` with a string pattern. -/
def containsStr (s pattern : String) : Bool :=
  decide (pattern.toList <:+: s.toList)

def stripPrefix (pattern s : String) : Option String :=
  if pattern.toList.isPrefixOf s.toList then
    some (String.ofList (s.toList.drop pattern.toList.length))
  else
    none

def startsWith (s pattern : String) : Bool :=
  pattern.toList.isPrefixOf s.toList

def endsWith (s pattern : String) : Bool :=
  pattern.toList.isSuffixOf s.toList

def trimEndMatches (c : Char) (s : String) : String :=
  String.ofList (s.toList.rdropWhile (· == c))

def splitChars (sep : Char) : List Char → List (List Char)
  | [] => [[]]
  | c :: rest =>
    if c = sep then [] :: splitChars sep rest
    else
      match splitChars sep rest with
      | [] => [[c]]
      | part :: parts => (c :: part) :: parts

def split (sep : Char) (s : String) : List String :=
  (splitChars sep s.toList).map String.ofList

def toAsciiLowercase (s : String) : String :=
  String.ofList (s.toList.map Char.toLower)

def eqIgnoreAsciiCase (s t : String) : Bool :=
  s.toList.map Char.toLower == t.toList.map Char.toLower

/-- The number written by a list of decimal digits. -/
def digitsValue (cs : List Char) : Option Nat :=
  cs.foldlM (fun n c => if c.isDigit then some (n * 10 + (c.toNat - 48)) else none) 0

/-- `str::parse::<u64>`: one optional `+`, then digits; overflow is an error. -/
def parseU64 (s : String) : Option UInt64 :=
  let digits :=
    match s.toList with
    | '+' :: rest => rest
    | cs => cs
  if digits.isEmpty then none
  else
    match digitsValue digits with
    | some n => if n < 2 ^ 64 then some (UInt64.ofNat n) else none
    | none => none

def parseU32 (s : String) : Option UInt32 :=
  let digits :=
    match s.toList with
    | '+' :: rest => rest
    | cs => cs
  if digits.isEmpty then none
  else
    match digitsValue digits with
    | some n => if n < 2 ^ 32 then some (UInt32.ofNat n) else none
    | none => none

/-! ## The last part -/

variable {sep : Char} {cs : List Char}

lemma splitChars_of_not_mem (h : sep ∉ cs) : splitChars sep cs = [cs] := by
  induction cs with
  | nil => rfl
  | cons c rest ih =>
    obtain ⟨hne, hrest⟩ := not_or.mp (mt mem_cons.mpr h)
    simp [splitChars, Ne.symm hne, ih hrest]

lemma splitChars_append (front rest : List Char) (h : sep ∉ rest) :
    ∃ part parts, splitChars sep (front ++ sep :: rest) = part :: parts ++ [rest] := by
  induction front with
  | nil => exact ⟨[], [], by simp [splitChars, splitChars_of_not_mem h]⟩
  | cons c front ih =>
    obtain ⟨part, parts, hparts⟩ := ih
    rw [cons_append, splitChars, hparts]
    split
    · exact ⟨[], part :: parts, rfl⟩
    · exact ⟨c :: part, parts, rfl⟩

variable {s : String}

lemma trim_of_forall (h : ∀ c ∈ s.toList, isWhitespace c = false) : trim s = s := by
  have hleft : s.toList.dropWhile isWhitespace = s.toList := by
    cases hs : s.toList with
    | nil => rfl
    | cons c cs => simp [List.dropWhile, h c (by simp [hs])]
  have hright : s.toList.rdropWhile isWhitespace = s.toList :=
    rdropWhile_eq_self_iff.mpr fun hne => by simp [h _ (getLast_mem hne)]
  rw [trim, hleft, hright, String.ofList_toList]

lemma trim_space_append (h : ∀ c ∈ s.toList, isWhitespace c = false) :
    trim (String.ofList (' ' :: s.toList)) = s := by
  have hdrop : (' ' :: s.toList).dropWhile isWhitespace = s.toList.dropWhile isWhitespace := rfl
  rw [trim, String.toList_ofList, hdrop]
  exact trim_of_forall h

/-- The last element of a comma-separated text. -/
def lastElement (s : String) : Option String :=
  (split ',' s).getLast?.map trim

lemma lastElement_append (chain : String) (hcomma : ',' ∉ s.toList)
    (h : ∀ c ∈ s.toList, isWhitespace c = false) : lastElement (chain ++ ", " ++ s) = some s := by
  have hchars : (chain ++ ", " ++ s).toList = chain.toList ++ ',' :: ' ' :: s.toList := by
    simp [String.toList_append]
  obtain ⟨part, parts, hparts⟩ := splitChars_append chain.toList (' ' :: s.toList)
    (show ',' ∉ _ by simpa using hcomma)
  rw [lastElement, split, hchars, hparts, map_append, map_singleton,
    List.getLast?_concat, Option.map_some, trim_space_append h]

/-! ## Numbers of a fixed width -/

/-- `format!("{:0width$}", n)` for a number that fits in the width. -/
def zeroPadded : Nat → Nat → List Char
  | 0, _ => []
  | width + 1, n => zeroPadded width (n / 10) ++ [Nat.digitChar (n % 10)]

@[simp] lemma length_zeroPadded (width n : Nat) : (zeroPadded width n).length = width := by
  induction width generalizing n with
  | zero => rfl
  | succ width ih => simp [zeroPadded, ih]

lemma digitChar_inj : ∀ a < 10, ∀ b < 10, Nat.digitChar a = Nat.digitChar b → a = b := by
  decide

/-- Numbers that fit in the width are told apart by their padded text. -/
lemma zeroPadded_inj {width m n : Nat} (hm : m < 10 ^ width) (hn : n < 10 ^ width)
    (h : zeroPadded width m = zeroPadded width n) : m = n := by
  induction width generalizing m n with
  | zero => omega
  | succ width ih =>
    obtain ⟨hinit, hlast⟩ := append_inj' h rfl
    have hquot : m / 10 = n / 10 := by
      refine ih ?_ ?_ hinit
      · exact Nat.div_lt_of_lt_mul (by rwa [Nat.pow_succ, Nat.mul_comm] at hm)
      · exact Nat.div_lt_of_lt_mul (by rwa [Nat.pow_succ, Nat.mul_comm] at hn)
    have hrem : m % 10 = n % 10 :=
      digitChar_inj _ (Nat.mod_lt m (by decide)) _ (Nat.mod_lt n (by decide))
        (singleton_inj.mp hlast)
    calc
      m = 10 * (m / 10) + m % 10 := (Nat.div_add_mod m 10).symm
      _ = 10 * (n / 10) + n % 10 := by rw [hquot, hrem]
      _ = n := Nat.div_add_mod n 10

/-! ## File names -/

/-- `Path::extension` of a file name: what follows the last dot, if something precedes it. -/
def extension (name : String) : Option String :=
  match splitOnceAt '.' name.toList.reverse with
  | none => none
  | some (after, before) =>
    if before.isEmpty || name.toList = ['.', '.'] then none else some (String.ofList after.reverse)

lemma splitOnceAt_append {front : List Char} (h : sep ∉ front) (rest : List Char) :
    splitOnceAt sep (front ++ sep :: rest) = some (front, rest) := by
  induction front with
  | nil => simp [splitOnceAt]
  | cons c front ih =>
    obtain ⟨hne, hnot⟩ := not_or.mp (mt mem_cons.mpr h)
    simp [splitOnceAt, Ne.symm hne, ih hnot]

/-- A name with a stem and a nonempty extension without dots has that extension. -/
lemma extension_append (stem ext : List Char) (hstem : stem ≠ []) (hext : ext ≠ [])
    (hdot : '.' ∉ ext) :
    extension (String.ofList (stem ++ '.' :: ext)) = some (String.ofList ext) := by
  have hsplit : splitOnceAt '.' (stem ++ '.' :: ext).reverse =
      some (ext.reverse, stem.reverse) := by
    rw [reverse_append, reverse_cons, append_assoc]
    exact splitOnceAt_append (by simpa using hdot) _
  have hparent : stem ++ '.' :: ext ≠ ['.', '.'] := by
    intro hname
    have hlast : (stem ++ '.' :: ext).getLast? = some '.' := by rw [hname]; rfl
    rw [List.getLast?_append_cons, List.getLast?_cons_of_ne_nil hext] at hlast
    exact hdot (mem_of_getLast? hlast)
  unfold extension
  rw [String.toList_ofList, hsplit]
  simp only [isEmpty_reverse, isEmpty_eq_false_iff.mpr hstem, hparent, decide_false,
    Bool.or_self, Bool.false_eq_true, if_false, reverse_reverse]

/-! ## Splitting at a character, taking off a beginning -/

lemma splitOnceAt_of_not_mem (h : sep ∉ cs) : splitOnceAt sep cs = none := by
  induction cs with
  | nil => rfl
  | cons c cs ih =>
    obtain ⟨hne, hnot⟩ := not_or.mp (mt mem_cons.mpr h)
    simp [splitOnceAt, Ne.symm hne, ih hnot]

lemma splitOnce_eq_some {s front rest : String} (h : sep ∉ front.toList)
    (hs : s.toList = front.toList ++ sep :: rest.toList) :
    splitOnce sep s = some (front, rest) := by
  rw [splitOnce, hs, splitOnceAt_append h]
  simp

lemma stripPrefix_eq_some {pattern s rest : String}
    (hs : s.toList = pattern.toList ++ rest.toList) : stripPrefix pattern s = some rest := by
  have hstart : pattern.toList.isPrefixOf (pattern.toList ++ rest.toList) = true :=
    isPrefixOf_iff_prefix.mpr (prefix_append ..)
  rw [stripPrefix, hs, if_pos hstart, drop_left, String.ofList_toList]

lemma stripPrefix_eq_none {pattern s : String} (h : ¬ pattern.toList <+: s.toList) :
    stripPrefix pattern s = none := by
  rw [stripPrefix, if_neg (mt isPrefixOf_iff_prefix.mp h)]

end Str
end ZLayer.Lib
