import ZLayer.Lib.HashMap
import ZLayer.Lib.Str
import Mathlib.Data.List.Sort

/-!
# WriteCache — the local queue of WAL segments

`WriteCache` keeps the segments that wait for upload twice: in an in-memory queue with two
counters, and as one file per sequence number in the cache directory, from which `load` rebuilds
the queue after a crash.  `pop_oldest` takes an entry out of the queue and leaves its file;
`remove` deletes the file once the upload has succeeded.

`add` is not atomic.  It evicts old entries one by one, creates the file, fills it, and only then
takes the queue's lock, and other tasks (or a crash) can come between any two of these.
`addStep` is one of those steps, and `AddStage` says which is next.
-/

namespace ZLayer.Storage

open Lib List

/-- A cached WAL segment.  The sequence number is the frame count at the time of capture. -/
structure CacheEntry where
  sequence : UInt64
  data : List UInt8
  cachedAt : Int
  attempts : UInt32
  deriving DecidableEq, Repr

namespace CacheEntry

def new (now : Int) (sequence : UInt64) (data : List UInt8) : CacheEntry where
  sequence := sequence
  data := data
  cachedAt := now
  attempts := 0

def size (entry : CacheEntry) : Nat := entry.data.length

end CacheEntry

/-- The JSON form of an entry, as `serde_json` writes and reads it. -/
structure EntryJson where
  toVec : CacheEntry → List UInt8
  fromSlice : List UInt8 → Option CacheEntry
  fromSlice_toVec : ∀ entry, fromSlice (toVec entry) = some entry

namespace EntryJson

/-- An injective form for all entries but the one whose text is given. -/
def tagged (entry : CacheEntry) : List UInt8 :=
  replicate (Nat.pair entry.sequence.toNat
    (Nat.pair (Equiv.intEquivNat entry.cachedAt) entry.attempts.toNat)) 1 ++ 0 :: entry.data

def untag (bytes : List UInt8) : CacheEntry :=
  let number := (bytes.takeWhile (· = 1)).length
  { sequence := UInt64.ofNat number.unpair.1
    data := bytes.drop (number + 1)
    cachedAt := Equiv.intEquivNat.symm number.unpair.2.unpair.1
    attempts := UInt32.ofNat number.unpair.2.unpair.2 }

lemma untag_tagged (entry : CacheEntry) : untag (tagged entry) = entry := by
  have hdrop (n : Nat) (data : List UInt8) :
      (replicate n (1 : UInt8) ++ 0 :: data).drop (n + 1) = data := by
    simp [drop_append]
  simp [untag, tagged, hdrop]

def sample (known : CacheEntry) (text : List UInt8) (htext : text.head? ≠ some 0) : EntryJson where
  toVec entry := if entry = known then text else 0 :: tagged entry
  fromSlice bytes :=
    if bytes = text then some known
    else if bytes.head? = some 0 then some (untag bytes.tail) else none
  fromSlice_toVec entry := by
    by_cases h : entry = known
    · simp [h]
    · have hother : 0 :: tagged entry ≠ text := by
        rintro rfl
        exact htext rfl
      simp [h, hother, untag_tagged]

def firstText : List UInt8 :=
  ("\x7b\"sequence\":1,\"data\":[7]," ++
    "\"cached_at\":\"1970-01-01T00:00:00Z\",\"attempts\":0\x7d").toList.map
      fun c => UInt8.ofNat c.toNat

def first : EntryJson :=
  sample (CacheEntry.new 0 1 [7]) firstText (by decide)

end EntryJson

/-! ## File names -/

def cacheFileName (sequence : UInt64) : String :=
  String.ofList (Str.zeroPadded 20 sequence.toNat ++ ".cache".toList)

lemma cacheFileName_inj {s t : UInt64} (h : cacheFileName s = cacheFileName t) : s = t := by
  have hpadded : Str.zeroPadded 20 s.toNat = Str.zeroPadded 20 t.toNat :=
    append_cancel_right (String.ofList_injective h)
  -- twenty digits are enough for every 64-bit number
  have hfits (u : UInt64) : u.toNat < 10 ^ 20 := Nat.lt_trans u.toNat_lt (by decide)
  exact UInt64.toNat.inj (Str.zeroPadded_inj (hfits s) (hfits t) hpadded)

lemma extension_cacheFileName (sequence : UInt64) :
    Str.extension (cacheFileName sequence) = some "cache" := by
  refine Str.extension_append (Str.zeroPadded 20 sequence.toNat) "cache".toList
    ?_ (by decide) (by decide)
  intro hnil
  have hlength := congrArg length hnil
  rw [Str.length_zeroPadded] at hlength
  cases hlength

/-! ## The cache -/

/-- The contents of the cache directory, by file name. -/
abbrev CacheDir := HashMap String (List UInt8)

structure WriteCache where
  cacheDir : CacheDir
  maxSize : Nat
  entries : List CacheEntry
  currentSize : Nat
  entryCount : Nat

namespace WriteCache

def new (cacheDir : CacheDir) (maxSize : Nat) : WriteCache where
  cacheDir := cacheDir
  maxSize := maxSize
  entries := []
  currentSize := 0
  entryCount := 0

/-- The two counters say what is in the queue. -/
def Counted (c : WriteCache) : Prop :=
  c.currentSize = (c.entries.map CacheEntry.size).sum ∧ c.entryCount = c.entries.length

lemma counted_new (dir : CacheDir) (maxSize : Nat) : (new dir maxSize).Counted :=
  ⟨rfl, rfl⟩

/-- `entries.push_back(entry)` with the counters raised, under the queue's lock. -/
def pushBack (c : WriteCache) (entry : CacheEntry) : WriteCache :=
  { c with
    entries := c.entries ++ [entry]
    currentSize := c.currentSize + entry.size
    entryCount := c.entryCount + 1 }

variable {c : WriteCache}

lemma Counted.pushBack (h : c.Counted) (entry : CacheEntry) : (c.pushBack entry).Counted := by
  refine ⟨?_, ?_⟩
  · simp [WriteCache.pushBack, h.1]
  · simp [WriteCache.pushBack, h.2]

/-- The queue without its front; the file of the popped entry stays. -/
def popOldest (c : WriteCache) : Option CacheEntry × WriteCache :=
  match c.entries with
  | [] => (none, c)
  | entry :: rest =>
    (some entry,
      { c with
        entries := rest
        currentSize := c.currentSize - entry.size
        entryCount := c.entryCount - 1 })

lemma Counted.popOldest (h : c.Counted) : c.popOldest.2.Counted := by
  rcases h with ⟨hsize, hcount⟩
  unfold WriteCache.popOldest
  cases hentries : c.entries with
  | nil => exact ⟨hsize, hcount⟩
  | cons entry rest =>
    rw [hentries] at hsize hcount
    refine ⟨?_, ?_⟩
    · simp [hsize]
    · simp [hcount]

/-- Used by eviction; the body is that of `pop_oldest`. -/
def popOldestInternal (c : WriteCache) : Option CacheEntry × WriteCache :=
  c.popOldest

def removeFromDisk (c : WriteCache) (entry : CacheEntry) : WriteCache :=
  { c with cacheDir := c.cacheDir.erase (cacheFileName entry.sequence) }

def remove (c : WriteCache) (entry : CacheEntry) : WriteCache :=
  c.removeFromDisk entry

def writeFile (c : WriteCache) (name : String) (contents : List UInt8) : WriteCache :=
  { c with cacheDir := c.cacheDir.insert name contents }

/-! ## `load` -/

/-- One directory entry: other extensions, and files that do not parse, are passed over. -/
def loadFile (json : EntryJson) (c : WriteCache) (file : String × List UInt8) : WriteCache :=
  if Str.extension file.1 = some "cache" then
    match json.fromSlice file.2 with
    | some entry => c.pushBack entry
    | none => c
  else
    c

def sortEntries (c : WriteCache) : WriteCache :=
  { c with entries := c.entries.insertionSort (fun a b => a.sequence ≤ b.sequence) }

/-- The directory is read in the order the file system gives. -/
def load (json : EntryJson) (order : HashMap.IterOrder String (List UInt8)) (c : WriteCache) :
    WriteCache :=
  ((order.list c.cacheDir).foldl (loadFile json) c).sortEntries

lemma Counted.loadFile (h : c.Counted) (json : EntryJson) (file : String × List UInt8) :
    (c.loadFile json file).Counted := by
  unfold WriteCache.loadFile
  split
  · split
    · exact h.pushBack _
    · exact h
  · exact h

lemma Counted.sortEntries (h : c.Counted) : c.sortEntries.Counted := by
  have hperm : (c.entries.insertionSort (fun a b => a.sequence ≤ b.sequence)).Perm c.entries :=
    perm_insertionSort _ c.entries
  refine ⟨?_, ?_⟩
  · exact h.1.trans (hperm.map CacheEntry.size).sum_eq.symm
  · exact h.2.trans hperm.length_eq.symm

lemma Counted.load (h : c.Counted) (json : EntryJson)
    (order : HashMap.IterOrder String (List UInt8)) : (c.load json order).Counted :=
  (foldlRecOn (motive := fun c => Counted c) _ _ h
    fun _ hc file _ => hc.loadFile json file).sortEntries

lemma sorted_load (json : EntryJson) (order : HashMap.IterOrder String (List UInt8))
    (c : WriteCache) :
    (c.load json order).entries.Pairwise fun a b => a.sequence ≤ b.sequence := by
  have htotal : Std.Total fun a b : CacheEntry => a.sequence ≤ b.sequence :=
    ⟨fun a b => UInt64.le_total a.sequence b.sequence⟩
  have htrans : IsTrans CacheEntry fun a b => a.sequence ≤ b.sequence :=
    ⟨fun _ _ _ => UInt64.le_trans⟩
  exact pairwise_insertionSort _ _

variable {entry : CacheEntry} {json : EntryJson}

lemma mem_loadFile_of_mem (h : entry ∈ c.entries) (file : String × List UInt8) :
    entry ∈ (c.loadFile json file).entries := by
  unfold loadFile
  split
  · split
    · exact mem_append_left _ h
    · exact h
  · exact h

lemma mem_foldl_loadFile (files : List (String × List UInt8)) (c : WriteCache)
    (h : entry ∈ c.entries ∨ (cacheFileName entry.sequence, json.toVec entry) ∈ files) :
    entry ∈ (files.foldl (loadFile json) c).entries := by
  induction files generalizing c with
  | nil => simpa using h
  | cons file files ih =>
    refine ih _ ?_
    rcases h with hold | hmem
    · exact .inl (mem_loadFile_of_mem hold file)
    rcases mem_cons.mp hmem with rfl | hlater
    · refine .inl ?_
      simp [loadFile, extension_cacheFileName, json.fromSlice_toVec, pushBack]
    · exact .inr hlater

/-! ## `add` -/

inductive AddStage
  /-- The loop head `while current_size + entry_size > max_size`. -/
  | evicting
  /-- `remove_from_disk` of an entry the loop has popped. -/
  | dropping (evicted : CacheEntry)
  /-- `tokio::fs::write` opens the file: it is created, or cut to nothing. -/
  | creating
  /-- `tokio::fs::write` fills the file. -/
  | writing
  /-- `push_back` and the counters, under the queue's lock. -/
  | queueing
  deriving DecidableEq, Repr

structure Adding where
  entry : CacheEntry
  stage : AddStage
  deriving DecidableEq, Repr

/-- `CacheEntry::new`, then the loop head. -/
def Adding.start (now : Int) (sequence : UInt64) (data : List UInt8) : Adding where
  entry := CacheEntry.new now sequence data
  stage := .evicting

/-- One step of an `add` call; no stage is left when the call has returned. -/
def addStep (json : EntryJson) (c : WriteCache) (a : Adding) : WriteCache × Option Adding :=
  match a.stage with
  | .evicting =>
    if c.currentSize + a.entry.size > c.maxSize then
      match c.popOldestInternal with
      | (some evicted, c) => (c, some { a with stage := .dropping evicted })
      | (none, c) => (c, some { a with stage := .creating })
    else
      (c, some { a with stage := .creating })
  | .dropping evicted => (c.removeFromDisk evicted, some { a with stage := .evicting })
  | .creating => (c.writeFile (cacheFileName a.entry.sequence) [],
      some { a with stage := .writing })
  | .writing => (c.writeFile (cacheFileName a.entry.sequence) (json.toVec a.entry),
      some { a with stage := .queueing })
  | .queueing => (c.pushBack a.entry, none)

end WriteCache

end ZLayer.Storage
