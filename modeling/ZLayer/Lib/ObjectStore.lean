import ZLayer.Lib.HashMap

/-!
# ObjectStore — keys, objects and multipart uploads

A bucket of an S3-compatible store.  An object can be put whole, or built from numbered parts: an
upload is created for a key, parts are sent in any order and any number of times, and completing
the upload with a list of parts publishes the concatenation of these parts under the key in one
step.  Parts are listed in the order of their numbers, at most 1000 at a time.

The second half is about a file that is cut into parts of equal size: what the first parts hold
together is the beginning of the file.
-/

namespace ZLayer.Lib

open List

structure ObjectStore.Part where
  eTag : String
  data : List UInt8
  deriving DecidableEq

structure ObjectStore.Upload where
  key : String
  parts : HashMap Nat ObjectStore.Part

structure ObjectStore where
  objects : HashMap String (List UInt8)
  /-- Open uploads by upload id. -/
  uploads : HashMap Nat ObjectStore.Upload
  /-- The next upload id. -/
  nextId : Nat

namespace ObjectStore

def empty : ObjectStore where
  objects := ∅
  uploads := ∅
  nextId := 0

variable (s : ObjectStore)

def putObject (key : String) (body : List UInt8) :
    ObjectStore × Except String Unit :=
  ({ s with objects := s.objects.insert key body }, .ok ())

def getObject (key : String) : ObjectStore × Except String (List UInt8) :=
  match s.objects[key]? with
  | some body => (s, .ok body)
  | none => (s, .error "NoSuchKey")

def createMultipartUpload (key : String) : ObjectStore × Except String Nat :=
  ({ s with
      uploads := s.uploads.insert s.nextId ⟨key, ∅⟩
      nextId := s.nextId + 1 },
    .ok s.nextId)

/-- The open upload with this id, if it was created for this key. -/
def find (id : Nat) (key : String) : Option Upload :=
  s.uploads[id]?.filter fun upload => upload.key = key

def uploadPart (id : Nat) (key : String) (number : Nat) (part : Part) :
    ObjectStore × Except String String :=
  match s.find id key with
  | some upload =>
    ({ s with
        uploads := s.uploads.insert id { upload with parts := upload.parts.insert number part } },
      .ok part.eTag)
  | none => (s, .error "NoSuchUpload")

def maxListed : Nat := 1000

def Upload.page (upload : Upload) : List (Nat × Part) :=
  (HashMap.entries upload.parts).take maxListed

def listParts (id : Nat) (key : String) :
    ObjectStore × Except String (List (Nat × String)) :=
  match s.find id key with
  | some upload => (s, .ok (upload.page.map fun p => (p.1, p.2.eTag)))
  | none => (s, .error "NoSuchUpload")

/-- The data of the listed parts, if every one is there with the tag that is given for it. -/
def assemble (parts : HashMap Nat Part) : List (Nat × String) → Option (List UInt8)
  | [] => some []
  | (number, eTag) :: rest => do
      let part ← parts[number]?
      guard (part.eTag = eTag)
      let data ← assemble parts rest
      return part.data ++ data

def Ascending (listed : List (Nat × String)) : Prop :=
  listed ≠ [] ∧ listed.Pairwise fun a b => a.1 < b.1

instance (listed : List (Nat × String)) : Decidable (Ascending listed) :=
  inferInstanceAs (Decidable (_ ∧ _))

def completeMultipartUpload (id : Nat) (key : String) (listed : List (Nat × String)) :
    ObjectStore × Except String Unit :=
  match s.find id key with
  | none => (s, .error "NoSuchUpload")
  | some upload =>
    if Ascending listed then
      match assemble upload.parts listed with
      | some data =>
        ({ s with
            objects := s.objects.insert key data
            uploads := s.uploads.erase id },
          .ok ())
      | none => (s, .error "InvalidPart")
    else
      (s, .error "InvalidPartOrder")

def abortMultipartUpload (id : Nat) (key : String) :
    ObjectStore × Except String Unit :=
  match s.find id key with
  | some _ => ({ s with uploads := s.uploads.erase id }, .ok ())
  | none => (s, .error "NoSuchUpload")

/-! ## Uploads -/

lemma find_eq_some {s : ObjectStore} {id : Nat} {key : String} {upload : Upload} :
    s.find id key = some upload ↔ s.uploads[id]? = some upload ∧ upload.key = key := by
  simp [find, Option.filter_eq_some_iff]

lemma assemble_listing (parts : HashMap Nat Part) (l : List (Nat × Part))
    (h : ∀ p ∈ l, parts[p.1]? = some p.2) :
    assemble parts (l.map fun p => (p.1, p.2.eTag)) = some (l.flatMap fun p => p.2.data) := by
  induction l with
  | nil => rfl
  | cons p l ih =>
    have htail := ih fun q hq => h q (mem_cons_of_mem p hq)
    simp [assemble, h p mem_cons_self, htail]

/-- If the data of every part is a function of its number, so is what is published. -/
lemma assemble_eq {parts : HashMap Nat Part} {f : Nat → List UInt8}
    (h : ∀ n part, parts[n]? = some part → part.data = f n) {listed : List (Nat × String)}
    {data : List UInt8} (hdata : assemble parts listed = some data) :
    data = (listed.map Prod.fst).flatMap f := by
  induction listed generalizing data with
  | nil =>
    cases hdata
    rfl
  | cons p listed ih =>
    rcases p with ⟨number, eTag⟩
    simp only [assemble, Option.bind_eq_bind, Option.bind_eq_some_iff] at hdata
    obtain ⟨part, hpart, -, -, rest, hrest, hjoin⟩ := hdata
    cases hjoin
    rw [h number part hpart, ih hrest]
    rfl

/-- The parts of a map stand in the listing in ascending order. -/
lemma pairwise_entries (parts : HashMap Nat Part) :
    (HashMap.entries parts).Pairwise fun a b => a.1 < b.1 := by
  have h := Std.ExtTreeMap.ordered_keys_toList (t := parts)
  refine h.imp ?_
  intro a b hab
  exact Nat.compare_eq_lt.mp hab

/-- Completing with a page of the listing publishes the data of its parts. -/
lemma completeMultipartUpload_page {s : ObjectStore} {id : Nat} {key : String}
    {upload : Upload} (hfind : s.find id key = some upload)
    (hparts : HashMap.entries upload.parts ≠ []) :
    s.completeMultipartUpload id key (upload.page.map fun p => (p.1, p.2.eTag)) =
      ({ s with
          objects := s.objects.insert key (upload.page.flatMap fun p => p.2.data)
          uploads := s.uploads.erase id },
        .ok ()) := by
  -- the listing is ascending, and every part is listed with its own tag
  have hascending : Ascending (upload.page.map fun p => (p.1, p.2.eTag)) := by
    refine ⟨?_, ?_⟩
    · simp [Upload.page, maxListed, hparts]
    · rw [pairwise_map]
      exact (pairwise_entries upload.parts).sublist (take_sublist _ _)
  have hassemble := assemble_listing upload.parts upload.page
    fun p hp => (HashMap.mem_entries _).mp (mem_of_mem_take hp)
  simp [completeMultipartUpload, hfind, hascending, hassemble]

end ObjectStore

/-! ## A file in parts -/

namespace Chunks

variable {α : Type}

/-- The part with the given number, counted from 1. -/
def chunk (size : Nat) (file : List α) (number : Nat) : List α :=
  (file.drop ((number - 1) * size)).take size

/-- `u64::div_ceil` -/
def count (size length : Nat) : Nat :=
  (length + size - 1) / size

lemma flatMap_chunk (size : Nat) (file : List α) (n : Nat) :
    (range' 1 n).flatMap (chunk size file) = file.take (n * size) := by
  induction n with
  | zero => simp
  | succ n ih =>
    rw [range'_1_concat, flatMap_append, ih, Nat.succ_mul, take_add]
    simp [chunk, Nat.add_comm 1 n]

/-- So many parts are enough, and fewer are not. -/
lemma length_le_mul_iff {size : Nat} (hsize : 0 < size) (length n : Nat) :
    length ≤ n * size ↔ count size length ≤ n := by
  rw [count, Nat.div_le_iff_le_mul_add_pred hsize, Nat.mul_comm]
  omega

lemma take_min_eq_chunk {size read : Nat} {file : List α} (h : min size file.length ≤ read)
    (number : Nat) : (file.drop ((number - 1) * size)).take (min size read) =
      chunk size file number := by
  rw [chunk, take_eq_take_iff, length_drop]
  omega

lemma flatMap_chunk_count {size : Nat} (hsize : 0 < size) (file : List α) :
    (range' 1 (count size file.length)).flatMap (chunk size file) = file := by
  rw [flatMap_chunk, take_of_length_le ((length_le_mul_iff hsize ..).mpr le_rfl)]

/-- Parts that are cut short give the file exactly when nothing is cut off. -/
lemma flatMap_take_eq_iff (size : Nat) (file : List α) (cut : Nat → Nat) (n : Nat) :
    ((range' 1 n).flatMap fun i => (chunk size file i).take (cut i)) = file ↔
      (∀ i ∈ range' 1 n, (chunk size file i).length ≤ cut i) ∧ file.length ≤ n * size := by
  have hwhole := congrArg length (flatMap_chunk size file n)
  rw [length_take, length_flatMap] at hwhole
  constructor
  · intro h
    have hlength := congrArg length h
    rw [length_flatMap] at hlength
    have hle : ∀ i ∈ range' 1 n,
        ((chunk size file i).take (cut i)).length ≤ (chunk size file i).length :=
      fun i _ => length_take_le' ..
    refine ⟨fun i hi => ?_, ?_⟩
    · by_contra hcut
      have hlt := sum_lt_sum _ _ hle ⟨i, hi, by rw [length_take]; omega⟩
      omega
    · have hsum := sum_le_sum hle
      omega
  · rintro ⟨hcut, hlength⟩
    rw [flatMap_congr fun i hi => take_of_length_le (hcut i hi), flatMap_chunk,
      take_of_length_le hlength]

end Chunks

end ZLayer.Lib
