import ZLayer.Lib.HeaderMap
import ZLayer.Overlay.Slices

/-!
# IpText — addresses as texts

The standard library's `Display` and `FromStr` of addresses.  The text of an address has digits,
letters up to `f`, dots and colons only, so it can stand in a header field, and it is one element
of a comma-separated list.
-/

namespace ZLayer.Overlay

open Lib List

/-! ## Writing -/

def IpAddr.toString : IpAddr → String
  | .v4 a => displayIpv4 a
  | .v6 a => displayIpv6 a

structure SocketAddr where
  ip : IpAddr
  port : UInt16
  deriving DecidableEq

def SocketAddr.toString (addr : SocketAddr) : String :=
  match addr.ip with
  | .v4 a => displayIpv4 a ++ ":" ++ ToString.toString addr.port.toNat
  | .v6 a => "[" ++ displayIpv6 a ++ "]:" ++ ToString.toString addr.port.toNat

/-! ## Reading -/

namespace IpText

def toDigit (radix : Nat) (c : Char) : Option Nat :=
  let n := c.toNat
  let value :=
    if 48 ≤ n && n ≤ 57 then n - 48
    else if 97 ≤ n && n ≤ 122 then n - 87
    else if 65 ≤ n && n ≤ 90 then n - 55
    else radix
  if value < radix then some value else none

/-- `Parser::read_number`: all digits that follow, of which there may be `maxDigits`. -/
def readNumber (radix maxDigits bound : Nat) (allowZeroPrefix : Bool) (cs : List Char) :
    Option (Nat × List Char) :=
  let digits := (cs.takeWhile fun c => (toDigit radix c).isSome).filterMap (toDigit radix)
  let value := digits.foldl (fun n d => n * radix + d) 0
  if digits = [] ∨ maxDigits < digits.length then none
  else if !allowZeroPrefix && digits.head? == some 0 && 1 < digits.length then none
  else if value < bound then some (value, cs.drop digits.length)
  else none

/-- `Parser::read_separator`: a separator comes before every part but the first. -/
def readSeparator {α : Type} (sep : Char) (index : Nat) (read : List Char → Option (α × List Char))
    (cs : List Char) : Option (α × List Char) :=
  match index, cs with
  | 0, cs => read cs
  | _ + 1, c :: rest => if c = sep then read rest else none
  | _ + 1, [] => none

/-- The octets from `index` on, after those whose value is `value`. -/
def readOctets (index value : Nat) : Nat → List Char → Option (Nat × List Char)
  | 0, cs => some (value, cs)
  | n + 1, cs =>
    match readSeparator '.' index (readNumber 10 3 256 false) cs with
    | some (octet, rest) => readOctets (index + 1) (value * 256 + octet) n rest
    | none => none

def readIpv4Addr (cs : List Char) : Option (BitVec 32 × List Char) :=
  (readOctets 0 0 4 cs).map fun read => (BitVec.ofNat 32 read.1, read.2)

/-- `read_groups`: up to `n` groups, and whether the last two were written as an IPv4 address. -/
def readGroups (index : Nat) : Nat → List Char → List Nat × Bool × List Char
  | 0, cs => ([], false, cs)
  | n + 1, cs =>
    -- an embedded IPv4 address needs room for two groups
    match if 0 < n then readSeparator ':' index readIpv4Addr cs else none with
    | some (v4, rest) => ([v4.toNat / 65536, v4.toNat % 65536], true, rest)
    | none =>
      match readSeparator ':' index (readNumber 16 4 65536 true) cs with
      | some (group, rest) =>
        let (groups, ipv4, rest') := readGroups (index + 1) n rest
        (group :: groups, ipv4, rest')
      | none => ([], false, cs)

def ofGroups (groups : List Nat) : BitVec 128 :=
  BitVec.ofNat 128 (groups.foldl (fun n group => n * 65536 + group) 0)

/-- `Parser::read_ipv6_addr`: eight groups, or fewer around one `::`. -/
def readIpv6Addr (cs : List Char) : Option (BitVec 128 × List Char) :=
  let (head, headIpv4, rest) := readGroups 0 8 cs
  if head.length = 8 then some (ofGroups head, rest)
  else if headIpv4 then none
  else
    match rest with
    | ':' :: ':' :: rest =>
      let (tail, _, rest') := readGroups 0 (7 - head.length) rest
      let zeros := replicate (8 - head.length - tail.length) 0
      some (ofGroups (head ++ zeros ++ tail), rest')
    | _ => none

end IpText

def IpAddr.parse (s : String) : Option IpAddr :=
  match IpText.readIpv4Addr s.toList with
  | some (a, rest) => if rest = [] then some (.v4 a) else none
  | none =>
    match IpText.readIpv6Addr s.toList with
    | some (a, rest) => if rest = [] then some (.v6 a) else none
    | none => none

example : IpAddr.parse "10.200.0.5" = some (.v4 0x0ac80005) := by decide

example : IpAddr.parse "fd00::ffff:1.2.3.4" =
    some (.v6 0xfd000000000000000000ffff01020304) := by decide

example : IpAddr.parse "10.200.0.05" = none := by decide

/-! ## The characters of an address -/

/-- Digits, letters up to `f`, the dot and the colon. -/
def isAddrChar (c : Char) : Bool :=
  (48 ≤ c.toNat && c.toNat ≤ 58) || (97 ≤ c.toNat && c.toNat ≤ 102) || c.toNat = 46

def IsAddrText (s : String) : Prop :=
  ∀ c ∈ s.toList, isAddrChar c = true

instance (s : String) : Decidable (IsAddrText s) :=
  decidableBAll (isAddrChar · = true) s.toList

lemma IsAddrText.append {s t : String} (hs : IsAddrText s) (ht : IsAddrText t) :
    IsAddrText (s ++ t) := by
  intro c hc
  rw [String.toList_append] at hc
  exact (mem_append.mp hc).elim (hs c) (ht c)

lemma isAddrChar_digitChar : ∀ d < 16, isAddrChar (Nat.digitChar d) = true := by
  decide

lemma isAddrChar_of_mem_toDigits {base : Nat} (hone : 1 < base) (hle : base ≤ 16) (n : Nat) :
    ∀ c ∈ Nat.toDigits base n, isAddrChar c = true := by
  induction n using Nat.strongRecOn with
  | ind n ih =>
    intro c hc
    rw [Nat.toDigits_eq_if hone] at hc
    split at hc
    · rename_i hlt
      rw [mem_singleton.mp hc]
      exact isAddrChar_digitChar n (Nat.lt_of_lt_of_le hlt hle)
    · rename_i hge
      have hpos : 0 < n := Nat.lt_of_lt_of_le (Nat.lt_trans Nat.zero_lt_one hone)
        (Nat.not_lt.mp hge)
      rcases mem_append.mp hc with hinit | hlast
      · exact ih (n / base) (Nat.div_lt_self hpos hone) c hinit
      · rw [mem_singleton.mp hlast]
        exact isAddrChar_digitChar _
          (Nat.lt_of_lt_of_le (Nat.mod_lt n (Nat.lt_trans Nat.zero_lt_one hone)) hle)

lemma isAddrText_toString (n : Nat) : IsAddrText (toString n) := by
  intro c hc
  rw [Nat.toString_eq_ofList_toDigits, String.toList_ofList] at hc
  exact isAddrChar_of_mem_toDigits (by decide) (by decide) n c hc

lemma isAddrText_intercalate {sep : String} (hsep : IsAddrText sep) (parts : List String)
    (hparts : ∀ part ∈ parts, IsAddrText part) : IsAddrText (sep.intercalate parts) := by
  induction parts with
  | nil =>
    intro c hc
    simp at hc
  | cons part rest ih =>
    obtain ⟨hpart, hrest⟩ := forall_mem_cons.mp hparts
    cases rest with
    | nil => simpa using hpart
    | cons next rest =>
      rw [String.intercalate_cons_cons]
      exact (hpart.append hsep).append (ih hrest)

lemma isAddrText_displayIpv4 (a : BitVec 32) : IsAddrText (displayIpv4 a) := by
  refine isAddrText_intercalate (by decide) _ fun part hpart => ?_
  obtain ⟨shift, -, rfl⟩ := mem_map.mp hpart
  exact isAddrText_toString _

lemma isAddrText_displaySegments (segments : List Nat) :
    IsAddrText (displaySegments segments) := by
  refine isAddrText_intercalate (by decide) _ fun part hpart => ?_
  obtain ⟨segment, -, rfl⟩ := mem_map.mp hpart
  intro c hc
  rw [String.toList_ofList] at hc
  exact isAddrChar_of_mem_toDigits (by decide) (by decide) segment c hc

lemma isAddrText_displayIpv6 (a : BitVec 128) : IsAddrText (displayIpv6 a) := by
  unfold displayIpv6
  simp only
  split
  · exact IsAddrText.append (by decide) (isAddrText_displayIpv4 _)
  · split
    · exact ((isAddrText_displaySegments _).append (by decide)).append
        (isAddrText_displaySegments _)
    · exact isAddrText_displaySegments _

lemma IpAddr.isAddrText (ip : IpAddr) : IsAddrText ip.toString := by
  cases ip with
  | v4 a => exact isAddrText_displayIpv4 a
  | v6 a => exact isAddrText_displayIpv6 a

namespace IsAddrText

variable {s : String}

lemma bounds {c : Char} (h : isAddrChar c = true) : 46 ≤ c.toNat ∧ c.toNat ≤ 102 := by
  simp only [isAddrChar, Bool.or_eq_true, Bool.and_eq_true, decide_eq_true_eq] at h
  omega

lemma isAscii (h : IsAddrText s) : IsAscii s := by
  refine isAscii_of_chars fun c hc => ?_
  have hbounds := bounds (h c hc)
  omega

/-- The text is one element of a comma-separated list. -/
lemma comma_not_mem (h : IsAddrText s) : ',' ∉ s.toList :=
  fun hmem => absurd (h ',' hmem) (by decide)

lemma not_whitespace (h : IsAddrText s) : ∀ c ∈ s.toList, Str.isWhitespace c = false := by
  intro c hc
  have hbounds := bounds (h c hc)
  simp only [Str.isWhitespace, Bool.or_eq_false_iff, Bool.and_eq_false_iff, decide_eq_false_iff_not]
  omega

end IsAddrText

end ZLayer.Overlay
