import ZLayer.Lib.HashMap

/-!
# Codec — positional binary formats

A format writes a value as bytes and reads one back from the front of its input, leaving the rest.
A value is safe in a format if it is read back unchanged in front of every suffix; a `Codec` is a
format in which every value is safe.  Records are written field after field with nothing between
the fields, so the safety of a record follows from that of its fields, one after the other.

An optional field may be left out when it is empty (`Format.skipNone`).  The reader still expects
it, so such a value is read back as something else or not at all.  `TightCodec` is what an argument
about that needs: reading a value consumes at least as many bytes as writing it produces.
-/

namespace ZLayer.Lib

open HashMap

/-- A reader takes one value from the front of its input and leaves the rest. -/
abbrev Reader (α : Type) := StateT (List UInt8) Option α

namespace Reader

variable {α β : Type}

@[simp] lemma pure_apply (a : α) (bytes : List UInt8) :
    (pure a : Reader α) bytes = some (a, bytes) := rfl

@[simp] lemma bind_apply (r : Reader α) (k : α → Reader β) (bytes : List UInt8) :
    (r >>= k) bytes = (r bytes).bind fun out => k out.1 out.2 := rfl

@[simp] lemma map_apply (f : α → β) (r : Reader α) (bytes : List UInt8) :
    (f <$> r) bytes = (r bytes).map fun out => (f out.1, out.2) := by
  change ((r bytes).bind fun out => some (f out.1, out.2)) = _
  cases r bytes <;> rfl

@[simp] lemma failure_apply (bytes : List UInt8) : (failure : Reader α) bytes = none := rfl

def ofOption (o : Option α) : Reader α :=
  fun bytes => o.map fun a => (a, bytes)

@[simp] lemma ofOption_some (a : α) (bytes : List UInt8) :
    ofOption (some a) bytes = some (a, bytes) := rfl

variable {bytes rest : List UInt8}

lemma ofOption_eq_some {o : Option α} {a : α} (h : ofOption o bytes = some (a, rest)) :
    o = some a ∧ bytes = rest := by
  cases o with
  | none => cases h
  | some b =>
    cases h
    exact ⟨rfl, rfl⟩

lemma bind_eq_some {r : Reader α} {k : α → Reader β} {b : β}
    (h : (r >>= k) bytes = some (b, rest)) :
    ∃ a middle, r bytes = some (a, middle) ∧ k a middle = some (b, rest) := by
  rcases Option.bind_eq_some_iff.mp h with ⟨⟨a, middle⟩, hfirst, hsecond⟩
  exact ⟨a, middle, hfirst, hsecond⟩

lemma pure_eq_some {a b : α} (h : (pure a : Reader α) bytes = some (b, rest)) :
    a = b ∧ bytes = rest := by
  simpa using h

end Reader

/-- A writer and a reader of values of one type. -/
structure Format (α : Type) where
  enc : α → List UInt8
  dec : Reader α

namespace Format

variable {α β : Type}

/-- The value is read back in front of every suffix. -/
def Safe (F : Format α) (a : α) : Prop :=
  ∀ rest, F.dec (F.enc a ++ rest) = some (a, rest)

/-- Decode a whole input; bytes after the value are ignored. -/
def fromBytes (F : Format α) (bytes : List UInt8) : Option α :=
  (F.dec bytes).map Prod.fst

def RoundTrips (F : Format α) (a : α) : Prop :=
  F.fromBytes (F.enc a) = some a

variable {F : Format α} {a : α}

lemma Safe.roundTrips (h : F.Safe a) : F.RoundTrips a := by
  have hdec := h []
  rw [List.append_nil] at hdec
  simp only [RoundTrips, fromBytes, hdec, Option.map_some]

lemma bind_of_safe (h : F.Safe a) (k : α → Reader β) (rest : List UInt8) :
    (F.dec >>= k) (F.enc a ++ rest) = k a rest := by
  rw [Reader.bind_apply, h rest]
  rfl

lemma exists_rest_of_roundTrips (h : F.RoundTrips a) :
    ∃ rest, F.dec (F.enc a) = some (a, rest) := by
  rcases Option.map_eq_some_iff.mp h with ⟨⟨a', rest⟩, hdec, rfl⟩
  exact ⟨rest, hdec⟩

lemma roundTrips_wrap_iff {F : Format β} {G : Format α} {c : α → β} (hc : Function.Injective c)
    (h : F.dec (F.enc (c a)) = (do return c (← G.dec) : Reader β) (G.enc a)) :
    F.RoundTrips (c a) ↔ G.RoundTrips a := by
  have hbytes : F.fromBytes (F.enc (c a)) = (G.fromBytes (G.enc a)).map c := by
    rw [fromBytes, h, fromBytes, Reader.bind_apply]
    cases G.dec (G.enc a) <;> rfl
  rw [RoundTrips, hbytes, RoundTrips]
  constructor
  · intro hmap
    exact Option.map_injective hc hmap
  · intro hread
    rw [hread, Option.map_some]

/-! ## Options -/

/-- A present or absent value: a tag byte, then the value. -/
def option (F : Format α) : Format (Option α) :=
  { enc := fun
      | none => [0]
      | some a => 1 :: F.enc a
    dec := fun
      | 0 :: rest => some (none, rest)
      | 1 :: rest => (F.dec rest).map fun (a, rest) => (some a, rest)
      | _ => none }

/-- As `option`, but an absent value is not written at all. -/
def skipNone (F : Format α) : Format (Option α) :=
  { enc := fun
      | none => []
      | some a => 1 :: F.enc a
    dec := F.option.dec }

lemma option_safe (h : ∀ a, F.Safe a) (o : Option α) : F.option.Safe o := by
  intro rest
  cases o with
  | none => rfl
  | some a =>
    have hdec : F.option.dec (1 :: (F.enc a ++ rest)) =
        (F.dec (F.enc a ++ rest)).map fun (a, rest) => (some a, rest) := rfl
    exact hdec.trans (by rw [h a rest]; rfl)

lemma skipNone_safe (h : F.Safe a) : F.skipNone.Safe (some a) := by
  intro rest
  have hdec : F.option.dec (1 :: (F.enc a ++ rest)) =
      (F.dec (F.enc a ++ rest)).map fun (a, rest) => (some a, rest) := rfl
  exact hdec.trans (by rw [h rest]; rfl)

/-! ## Sequences -/

def encAll (F : Format α) (values : List α) : List UInt8 :=
  values.flatMap F.enc

def decN (F : Format α) : Nat → Reader (List α)
  | 0 => return []
  | n + 1 => return (← F.dec) :: (← F.decN n)

lemma decN_encAll (values : List α) (h : ∀ a ∈ values, F.Safe a) (rest : List UInt8) :
    F.decN values.length (F.encAll values ++ rest) = some (values, rest) := by
  induction values with
  | nil => rfl
  | cons a values ih =>
    have hfirst := h a (by simp) (F.encAll values ++ rest)
    have htail := ih fun b hb => h b (by simp [hb])
    have henc : F.encAll (a :: values) ++ rest = F.enc a ++ (F.encAll values ++ rest) := by
      simp [encAll]
    simp [decN, henc, hfirst, htail]

lemma length_of_decN {n : Nat} {bytes rest : List UInt8} {values : List α}
    (h : F.decN n bytes = some (values, rest)) : values.length = n := by
  induction n generalizing bytes values rest with
  | zero =>
    rw [← (Reader.pure_eq_some h).1]
    rfl
  | succ n ih =>
    rcases Reader.bind_eq_some h with ⟨a, middle, -, h⟩
    rcases Reader.bind_eq_some h with ⟨tail, rest', htail, h⟩
    rw [← (Reader.pure_eq_some h).1, List.length_cons, ih htail]

end Format

/-! ## Codecs -/

/-- A format in which every value is safe. -/
structure Codec (α : Type) extends Format α where
  safe : ∀ a, toFormat.Safe a

/-- A codec whose reader consumes at least what the writer produces for the value it returns. -/
structure TightCodec (α : Type) extends Codec α where
  tight : ∀ {bytes rest : List UInt8} {a : α}, dec bytes = some (a, rest) →
    (enc a).length + rest.length ≤ bytes.length

/-- The codec of lengths: a smaller length does not take more bytes. -/
structure SizeCodec extends TightCodec Nat where
  mono : ∀ {m n : Nat}, m ≤ n → (enc m).length ≤ (enc n).length

namespace Codec

variable {α β : Type}

@[simp] lemma dec_enc (C : Codec α) (a : α) (rest : List UInt8) :
    C.dec (C.enc a ++ rest) = some (a, rest) :=
  C.safe a rest

/-- A field that was written is read, and the reader goes on with the bytes after it. -/
lemma bind_dec_enc (C : Codec α) (k : α → Reader β) (a : α) (rest : List UInt8) :
    (C.dec >>= k) (C.enc a ++ rest) = k a rest :=
  Format.bind_of_safe (C.safe a) k rest

lemma bind_dec_skipNone (C : Codec α) (k : Option α → Reader β) (a : α) (rest : List UInt8) :
    (C.skipNone.dec >>= k) (C.skipNone.enc (some a) ++ rest) = k (some a) rest :=
  Format.bind_of_safe (Format.skipNone_safe (C.safe a)) k rest

/-- A record: its fields, one after the other. -/
def record (enc : α → List UInt8) (dec : Reader α)
    (safe : ∀ a rest, dec (enc a ++ rest) = some (a, rest) := by
      intro a rest
      simp only [List.append_assoc, bind_dec_enc, Reader.pure_apply]) : Codec α :=
  { enc, dec, safe }

/-- Values that are written as values of another type; not every value read stands for one. -/
def via (C : Codec α) (f : β → α) (g : α → Option β) (h : ∀ b, g (f b) = some b) : Codec β :=
  { enc := fun b => C.enc (f b)
    dec := do Reader.ofOption (g (← C.dec))
    safe := by
      intro b rest
      simp [h b] }

def option (C : Codec α) : Codec (Option α) :=
  { C.toFormat.option with safe := Format.option_safe C.safe }

def pair (A : Codec α) (B : Codec β) : Codec (α × β) :=
  .record (fun v => A.enc v.1 ++ B.enc v.2) (return (← A.dec, ← B.dec))

/-- A sequence: its length, then its values. -/
def list (C : Codec α) (size : SizeCodec) : Codec (List α) :=
  { enc := fun values => size.enc values.length ++ C.encAll values
    dec := do C.decN (← size.dec)
    safe := by
      intro values rest
      have hvalues := Format.decN_encAll values (fun a _ => C.safe a) rest
      simp [hvalues] }

def vector (n : Nat) (C : Codec α) : Codec (Vector α n) :=
  { enc := fun v => C.encAll v.toList
    dec := fun bytes =>
      match h : C.decN n bytes with
      | some (values, rest) =>
        some (⟨values.toArray, by simpa using Format.length_of_decN h⟩, rest)
      | none => none
    safe := by
      intro v rest
      have hvalues := Format.decN_encAll v.toList (fun a _ => C.safe a) rest
      rw [Vector.length_toList] at hvalues
      dsimp only
      split
      · rename_i values rest' hsome
        rw [hvalues] at hsome
        cases hsome
        cases v
        rfl
      · rename_i hnone
        rw [hvalues] at hnone
        cases hnone }

end Codec

/-! ## Maps -/

namespace Format

variable {α β : Type} [Ord α] [Std.TransOrd α] [Std.LawfulEqOrd α]

def entry (K : Codec α) (F : Format β) : Format (α × β) :=
  { enc := fun kv => K.enc kv.1 ++ F.enc kv.2
    dec := return (← K.dec, ← F.dec) }

/-- A map: its length, then its entries in the order of iteration. -/
def map (size : SizeCodec) (order : IterOrder α β) (K : Codec α) (F : Format β) :
    Format (HashMap α β) :=
  { enc := fun m => size.enc (order.list m).length ++ (entry K F).encAll (order.list m)
    dec := return ofEntries (← (entry K F).decN (← size.dec)) }

variable [DecidableEq α]

lemma map_safe (size : SizeCodec) (order : IterOrder α β) (K : Codec α) {F : Format β}
    {m : HashMap α β} (h : ∀ (k : α) (v : β), m[k]? = some v → F.Safe v) :
    (map size order K F).Safe m := by
  intro rest
  have hentry : ∀ kv ∈ order.list m, (entry K F).Safe kv := by
    rintro ⟨k, v⟩ hmem rest
    have hv := h k v ((order.mem_list m).mp hmem) rest
    simp [entry, hv]
  have hall := decN_encAll (order.list m) hentry rest
  simp [map, hall, ofEntries_list]

end Format

/-- A map whose values are read back whatever they are. -/
def Codec.map {α β : Type} [Ord α] [Std.TransOrd α] [Std.LawfulEqOrd α] [DecidableEq α]
    (size : SizeCodec) (order : IterOrder α β) (K : Codec α) (V : Codec β) :
    Codec (HashMap α β) :=
  { Format.map size order K V.toFormat with
    safe := fun _ => Format.map_safe size order K fun _ v _ => V.safe v }

/-! ## How much a reader consumes -/

namespace TightCodec

variable {α β : Type}

/-- As `Codec.via`, where every value that is read stands for at most one. -/
def via (C : TightCodec α) (f : β → α) (g : α → Option β) (h : ∀ b, g (f b) = some b)
    (h' : ∀ {a b}, g a = some b → f b = a) : TightCodec β :=
  { C.toCodec.via f g h with
    tight := by
      intro bytes rest b hdec
      rcases Reader.bind_eq_some hdec with ⟨a, middle, hread, hvalue⟩
      rcases Reader.ofOption_eq_some hvalue with ⟨hg, rfl⟩
      have htight := C.tight hread
      rw [← h' hg] at htight
      exact htight }

variable {bytes rest : List UInt8}

/-- Reading an option consumes at least what writing it with its tag produces. -/
lemma option_tight (C : TightCodec α) {o : Option α}
    (h : C.toFormat.option.dec bytes = some (o, rest)) :
    (C.toFormat.option.enc o).length + rest.length ≤ bytes.length := by
  simp only [Format.option] at h
  split at h
  · cases h
    simp only [Format.option, List.length_cons, List.length_nil]
    omega
  · rcases Option.map_eq_some_iff.mp h with ⟨⟨a, rest'⟩, hdec, hpair⟩
    have ho : some a = o ∧ rest' = rest := by simpa using hpair
    rcases ho with ⟨rfl, rfl⟩
    have htight := C.tight hdec
    simp only [Format.option, List.length_cons]
    omega
  · cases h

lemma length_skipNone_lt (C : TightCodec α) :
    (C.skipNone.enc none).length < (C.toFormat.option.enc none).length := by
  simp [Format.skipNone, Format.option]

lemma length_skipNone_le (C : TightCodec α) (o : Option α) :
    (C.skipNone.enc o).length ≤ (C.toFormat.option.enc o).length := by
  cases o <;> simp [Format.skipNone, Format.option]

lemma decN_tight {F : Format α}
    (hF : ∀ {bytes rest : List UInt8} {a : α}, F.dec bytes = some (a, rest) →
      (F.enc a).length + rest.length ≤ bytes.length)
    {n : Nat} {values : List α} (h : F.decN n bytes = some (values, rest)) :
    (F.encAll values).length + rest.length ≤ bytes.length := by
  induction n generalizing bytes values rest with
  | zero =>
    rcases Reader.pure_eq_some h with ⟨rfl, rfl⟩
    simp [Format.encAll]
  | succ n ih =>
    rcases Reader.bind_eq_some h with ⟨a, middle, hfirst, h⟩
    rcases Reader.bind_eq_some h with ⟨tail, rest', htail, h⟩
    rcases Reader.pure_eq_some h with ⟨rfl, rfl⟩
    have hone := hF hfirst
    have hmore := ih htail
    simp only [Format.encAll, List.flatMap_cons, List.length_append] at hmore ⊢
    omega

def list (C : TightCodec α) (size : SizeCodec) : TightCodec (List α) :=
  { C.toCodec.list size with
    tight := by
      intro bytes rest values h
      rcases Reader.bind_eq_some h with ⟨n, middle, hsize, hvalues⟩
      have hstart := size.tight hsize
      have hread := decN_tight (F := C.toFormat) C.tight hvalues
      have hlength : values.length = n := Format.length_of_decN hvalues
      subst hlength
      simp only [Codec.list, List.length_append] at hread ⊢
      omega }

section Map

variable [Ord α] [Std.TransOrd α] [Std.LawfulEqOrd α]

/-- The entries of a map that was built from a list are among those of the list. -/
lemma subperm_of_ofEntries (order : IterOrder α β) (l : List (α × β)) :
    (order.list (ofEntries l)).Subperm l := by
  have hnodup : (order.list (ofEntries l)).Nodup :=
    (order.keys_nodup (ofEntries l)).of_map _
  refine hnodup.subperm ?_
  rintro ⟨k, v⟩ hmem
  exact mem_of_lookup_ofEntries ((order.mem_list _).mp hmem)

lemma map_tight (size : SizeCodec) (order : IterOrder α β) (K : TightCodec α)
    (V : TightCodec β) {bytes rest : List UInt8} {m : HashMap α β}
    (h : (Format.map size order K.toCodec V.toFormat).dec bytes = some (m, rest)) :
    ((Format.map size order K.toCodec V.toFormat).enc m).length + rest.length ≤ bytes.length := by
  rcases Reader.bind_eq_some h with ⟨n, middle, hsize, h⟩
  rcases Reader.bind_eq_some h with ⟨entries, rest', hentries, h⟩
  rcases Reader.pure_eq_some h with ⟨rfl, rfl⟩
  have hentry : ∀ {bytes rest : List UInt8} {kv : α × β},
      (Format.entry K.toCodec V.toFormat).dec bytes = some (kv, rest) →
        ((Format.entry K.toCodec V.toFormat).enc kv).length + rest.length ≤ bytes.length := by
    intro bytes rest kv hkv
    rcases Reader.bind_eq_some hkv with ⟨k, bytes₁, hk, hkv⟩
    rcases Reader.bind_eq_some hkv with ⟨v, bytes₂, hv, hkv⟩
    rcases Reader.pure_eq_some hkv with ⟨rfl, rfl⟩
    have hktight := K.tight hk
    have hvtight := V.tight hv
    simp only [Format.entry, List.length_append] at hvtight ⊢
    omega
  -- the map has no more entries than were read, and they are among those
  have hsub := subperm_of_ofEntries order entries
  have hlength : (order.list (ofEntries entries)).length ≤ n := by
    rw [← Format.length_of_decN hentries]
    exact hsub.length_le
  have hstart := size.tight hsize
  have hmono := size.mono hlength
  have hread := decN_tight hentry hentries
  have hfewer : ((Format.entry K.toCodec V.toFormat).encAll
      (order.list (ofEntries entries))).length ≤
        ((Format.entry K.toCodec V.toFormat).encAll entries).length := by
    rcases hsub with ⟨l, hperm, hsublist⟩
    calc
      _ = ((Format.entry K.toCodec V.toFormat).encAll l).length :=
          (hperm.symm.flatMap_right _).length_eq
      _ ≤ _ := (hsublist.flatMap _).length_le
  simp only [Format.map, List.length_append] at hread ⊢
  omega

end Map

end TightCodec

end ZLayer.Lib
