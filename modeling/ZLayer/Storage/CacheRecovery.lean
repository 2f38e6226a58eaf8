import ZLayer.Lib.Machine
import ZLayer.Storage.WriteCache

/-!
# CacheRecovery — what `load` finds after a crash

One caller uses the write cache: it calls `add`, `pop_oldest` and `remove`, one after the other.
The process can stop between any two steps, also inside an `add`, and a fresh cache is then loaded
from the same directory.

Files are named by sequence number alone.  Two segments with the same number share one file, so
what is pending must never have two of them: this is what `Distinct` asks of the steps, and under
it each pending segment has its own file, filled with its own data.
-/

namespace ZLayer.Storage

open Lib WriteCache List

/-- The cache, the segments its caller has popped and not removed, and the call in progress. -/
structure CacheClient where
  cache : WriteCache
  popped : List CacheEntry
  call : Option Adding

namespace CacheClient

def start (cache : WriteCache) : CacheClient where
  cache := cache
  popped := []
  call := none

inductive Event
  | add (now : Int) (sequence : UInt64) (data : List UInt8)
  | popOldest
  | remove (entry : CacheEntry)
  /-- The `add` call in progress takes its next step. -/
  | addStep

/-- Calls follow one another: none begins before the last one has returned. -/
def next (json : EntryJson) (s : CacheClient) : Event → CacheClient
  | .add now sequence data =>
    match s.call with
    | none => { s with call := some (Adding.start now sequence data) }
    | some _ => s
  | .popOldest =>
    match s.call with
    | none =>
      { s with
        cache := s.cache.popOldest.2
        popped := s.popped ++ s.cache.popOldest.1.toList }
    | some _ => s
  | .remove entry =>
    match s.call with
    | none =>
      { s with
        cache := s.cache.remove entry
        popped := s.popped.filter (·.sequence ≠ entry.sequence) }
    | some _ => s
  | .addStep =>
    match s.call with
    | some call =>
      { s with
        cache := (s.cache.addStep json call).1
        call := (s.cache.addStep json call).2 }
    | none => s

def pending (s : CacheClient) : List CacheEntry :=
  s.popped ++ s.cache.entries

def reload (json : EntryJson) (order : HashMap.IterOrder String (List UInt8)) (s : CacheClient) :
    WriteCache :=
  (WriteCache.new s.cache.cacheDir s.cache.maxSize).load json order

/-- A fresh cache has everything that is pending, sorted, and all counters are right. -/
structure Recoverable (json : EntryJson) (order : HashMap.IterOrder String (List UInt8))
    (s : CacheClient) : Prop where
  contains : ∀ entry ∈ s.pending, entry ∈ (s.reload json order).entries
  sorted : (s.reload json order).entries.Pairwise fun a b => a.sequence ≤ b.sequence
  reloadCounted : (s.reload json order).Counted
  counted : s.cache.Counted

/-- A file is created only for a number that no pending segment has, and deleted only for one that
no queued segment has. -/
def Distinct (s : CacheClient) : Event → Prop
  | .addStep =>
    ∀ call ∈ s.call, call.stage = .creating →
      ∀ entry ∈ s.pending, entry.sequence ≠ call.entry.sequence
  | .remove removed =>
    s.call = none → ∀ entry ∈ s.cache.entries, entry.sequence ≠ removed.sequence
  | .add .. | .popOldest => True

instance (s : CacheClient) (event : Event) : Decidable (s.Distinct event) :=
  match event with
  | .addStep => inferInstanceAs (Decidable (∀ call ∈ s.call, _))
  | .remove _ => inferInstanceAs (Decidable (_ → _))
  | .add .. | .popOldest => isTrue trivial

/-! ## The invariant -/

def Stored (json : EntryJson) (c : WriteCache) (entry : CacheEntry) : Prop :=
  c.cacheDir[cacheFileName entry.sequence]? = some (json.toVec entry)

/-- What is known of the `add` call in progress: an evicted entry is no longer pending, and from
the moment its file is created, neither is another one with the number of the new entry. -/
def CallSound (json : EntryJson) (s : CacheClient) (call : Adding) : Prop :=
  match call.stage with
  | .evicting | .creating => True
  | .dropping evicted => ∀ entry ∈ s.pending, entry.sequence ≠ evicted.sequence
  | .writing => ∀ entry ∈ s.pending, entry.sequence ≠ call.entry.sequence
  | .queueing =>
    (∀ entry ∈ s.pending, entry.sequence ≠ call.entry.sequence) ∧
      Stored json s.cache call.entry

structure Sound (json : EntryJson) (s : CacheClient) : Prop where
  stored : ∀ entry ∈ s.pending, Stored json s.cache entry
  distinct : (s.pending.map CacheEntry.sequence).Nodup
  counted : s.cache.Counted
  callSound : ∀ call ∈ s.call, CallSound json s call

lemma Sound.recoverable {json : EntryJson} {s : CacheClient} (h : s.Sound json)
    (order : HashMap.IterOrder String (List UInt8)) : s.Recoverable json order where
  contains entry hentry := (mem_insertionSort _).mpr
    (mem_foldl_loadFile _ _ (.inr ((order.mem_list _).mpr (h.stored entry hentry))))
  sorted := sorted_load json order _
  reloadCounted := (counted_new _ _).load json order
  counted := h.counted

lemma sound_start (json : EntryJson) (dir : CacheDir) (maxSize : Nat) :
    (start (WriteCache.new dir maxSize)).Sound json where
  stored := fun _ hmem => absurd hmem not_mem_nil
  distinct := nodup_nil
  counted := counted_new dir maxSize
  callSound := fun _ hcall => absurd hcall (Option.not_mem_none _)

/-! ## Files of other segments -/

section Files

variable {json : EntryJson} {c : WriteCache} {entry : CacheEntry}

lemma Stored.removeFromDisk {removed : CacheEntry} (h : Stored json c entry)
    (hne : entry.sequence ≠ removed.sequence) : Stored json (c.removeFromDisk removed) entry := by
  have hname : cacheFileName removed.sequence ≠ cacheFileName entry.sequence :=
    fun heq => hne (cacheFileName_inj heq).symm
  exact (HashMap.lookup_erase_of_ne c.cacheDir hname).trans h

lemma Stored.writeFile {sequence : UInt64} (h : Stored json c entry)
    (hne : entry.sequence ≠ sequence) (contents : List UInt8) :
    Stored json (c.writeFile (cacheFileName sequence) contents) entry := by
  have hname : cacheFileName sequence ≠ cacheFileName entry.sequence :=
    fun heq => hne (cacheFileName_inj heq).symm
  exact (HashMap.lookup_insert_of_ne c.cacheDir contents hname).trans h

end Files

/-! ## The steps -/

section Steps

variable {json : EntryJson} {s : CacheClient}

lemma pending_popOldest (c : WriteCache) (popped : List CacheEntry) :
    (popped ++ c.popOldest.1.toList) ++ c.popOldest.2.entries = popped ++ c.entries := by
  unfold popOldest
  cases hentries : c.entries with
  | nil => simp [hentries]
  | cons entry rest => simp

lemma cacheDir_popOldest (c : WriteCache) : c.popOldest.2.cacheDir = c.cacheDir := by
  unfold popOldest
  cases c.entries <;> rfl

lemma Sound.popOldest (h : s.Sound json) (hcall : s.call = none) :
    (s.next json .popOldest).Sound json := by
  have hpending : (s.next json .popOldest).pending = s.pending := by
    simp only [CacheClient.next, hcall, pending, pending_popOldest]
  have hdir : (s.next json .popOldest).cache.cacheDir = s.cache.cacheDir := by
    simp only [CacheClient.next, hcall, cacheDir_popOldest]
  refine ⟨?_, ?_, ?_, ?_⟩
  · rw [hpending]
    intro entry hentry
    rw [Stored, hdir]
    exact h.stored entry hentry
  · rw [hpending]
    exact h.distinct
  · simp only [CacheClient.next, hcall]
    exact h.counted.popOldest
  · intro call hmem
    simp [CacheClient.next, hcall] at hmem

lemma Sound.remove (h : s.Sound json) (hcall : s.call = none) (removed : CacheEntry)
    (hqueued : ∀ entry ∈ s.cache.entries, entry.sequence ≠ removed.sequence) :
    (s.next json (.remove removed)).Sound json := by
  have hpending : (s.next json (.remove removed)).pending =
      s.popped.filter (·.sequence ≠ removed.sequence) ++ s.cache.entries := by
    simp [CacheClient.next, hcall, pending, WriteCache.remove, WriteCache.removeFromDisk]
  have hsub : ((s.next json (.remove removed)).pending).Sublist s.pending := by
    rw [hpending]
    exact filter_sublist.append_right _
  have hcache : (s.next json (.remove removed)).cache = s.cache.removeFromDisk removed := by
    simp only [CacheClient.next, hcall, WriteCache.remove]
  refine ⟨?_, ?_, ?_, ?_⟩
  · intro entry hentry
    rw [hcache]
    refine (h.stored entry (hsub.subset hentry)).removeFromDisk ?_
    rw [hpending] at hentry
    rcases mem_append.mp hentry with hheld | hqueue
    · exact of_decide_eq_true (mem_filter.mp hheld).2
    · exact hqueued entry hqueue
  · exact h.distinct.sublist (hsub.map CacheEntry.sequence)
  · rw [hcache]
    exact h.counted
  · intro call hmem
    simp [CacheClient.next, hcall] at hmem

/-- A state in which only the directory and the stage of the call have changed. -/
lemma Sound.of_files (h : s.Sound json) {cache : WriteCache} {call : Adding}
    (hentries : cache.entries = s.cache.entries) (hcounted : cache.Counted)
    (hstored : ∀ entry ∈ s.pending, Stored json cache entry)
    (hsound : CallSound json { s with cache := cache, call := some call } call) :
    Sound json { s with cache := cache, call := some call } where
  stored := by
    intro entry hentry
    refine hstored entry ?_
    simpa only [pending, hentries] using hentry
  distinct := by
    simpa only [pending, hentries] using h.distinct
  counted := hcounted
  callSound := by
    intro call' hcall'
    cases hcall'
    exact hsound

/-- The eviction loop leaves the evicted entry to `remove_from_disk`. -/
lemma Sound.evict (h : s.Sound json) (entry evicted : CacheEntry) (rest : List CacheEntry)
    (hentries : s.cache.entries = evicted :: rest) :
    Sound json
      { s with
        cache := s.cache.popOldest.2
        call := some ⟨entry, .dropping evicted⟩ } := by
  have hrest : s.cache.popOldest.2.entries = rest := by simp [WriteCache.popOldest, hentries]
  have hdir := cacheDir_popOldest s.cache
  have hsub : (s.popped ++ rest).Sublist s.pending := by
    rw [pending, hentries]
    exact (sublist_cons_self evicted rest).append_left s.popped
  have hnodup := h.distinct
  rw [pending, hentries, map_append, map_cons] at hnodup
  have hmiddle := (nodup_middle.mp hnodup)
  rw [← map_append, nodup_cons] at hmiddle
  refine ⟨?_, ?_, h.counted.popOldest, ?_⟩
  · intro e he
    rw [pending, hrest] at he
    rw [Stored, hdir]
    exact h.stored e (hsub.subset he)
  · rw [pending, hrest]
    exact hmiddle.2
  · intro call hcall
    cases hcall
    intro e he hsame
    rw [pending, hrest] at he
    exact hmiddle.1 (hsame ▸ mem_map_of_mem he)

lemma Sound.addStep (h : s.Sound json) (hdistinct : s.Distinct .addStep) :
    (s.next json .addStep).Sound json := by
  cases hcall : s.call with
  | none => simpa only [CacheClient.next, hcall] using h
  | some call =>
    have hsound := h.callSound call hcall
    rcases call with ⟨entry, stage⟩
    simp only [CacheClient.next, hcall]
    cases stage with
    | evicting =>
      simp only [WriteCache.addStep, popOldestInternal]
      split
      · cases hentries : s.cache.entries with
        | nil =>
          have hpop : s.cache.popOldest = (none, s.cache) := by
            simp [WriteCache.popOldest, hentries]
          simp only [hpop]
          exact h.of_files rfl h.counted h.stored trivial
        | cons evicted rest =>
          have hpop : s.cache.popOldest = (some evicted, s.cache.popOldest.2) := by
            simp [WriteCache.popOldest, hentries]
          rw [hpop]
          exact h.evict entry evicted rest hentries
      · exact h.of_files rfl h.counted h.stored trivial
    | dropping evicted =>
      exact h.of_files rfl h.counted
        (fun e he => (h.stored e he).removeFromDisk (hsound e he)) trivial
    | creating =>
      have hfresh := hdistinct ⟨entry, .creating⟩ hcall rfl
      exact h.of_files rfl h.counted (fun e he => (h.stored e he).writeFile (hfresh e he) _)
        hfresh
    | writing =>
      exact h.of_files rfl h.counted (fun e he => (h.stored e he).writeFile (hsound e he) _)
        ⟨hsound, by simp [Stored, WriteCache.addStep, WriteCache.writeFile]⟩
    | queueing =>
      rcases hsound with ⟨hfresh, hfile⟩
      have hpending : s.popped ++ (s.cache.pushBack entry).entries = s.pending ++ [entry] := by
        simp [pending, pushBack]
      refine ⟨?_, ?_, h.counted.pushBack entry, fun call hmem => by cases hmem⟩
      · intro e he
        rw [pending, WriteCache.addStep, hpending] at he
        rcases mem_append.mp he with hold | hnew
        · exact h.stored e hold
        · rw [mem_singleton.mp hnew]
          exact hfile
      · rw [pending, WriteCache.addStep, hpending, map_append]
        refine nodup_append'.mpr ⟨h.distinct, nodup_singleton _, ?_⟩
        intro sequence hold hnew
        rcases mem_map.mp hold with ⟨e, he, rfl⟩
        exact hfresh e he (mem_singleton.mp hnew)

lemma Sound.next (h : s.Sound json) (event : Event) (hdistinct : s.Distinct event) :
    (s.next json event).Sound json := by
  cases event with
  | addStep => exact h.addStep hdistinct
  | add now sequence data =>
    cases hcall : s.call with
    | some call => simpa only [CacheClient.next, hcall] using h
    | none =>
      simp only [CacheClient.next, hcall]
      exact h.of_files rfl h.counted h.stored trivial
  | popOldest =>
    cases hcall : s.call with
    | some call => simpa only [CacheClient.next, hcall] using h
    | none => exact h.popOldest hcall
  | remove removed =>
    cases hcall : s.call with
    | some call => simpa only [CacheClient.next, hcall] using h
    | none => exact h.remove hcall removed (hdistinct hcall)

end Steps

/-- While no two pending segments have the same number, everything pending survives a crash at any
point. -/
theorem recoverable_of_distinct (json : EntryJson) (order : HashMap.IterOrder String (List UInt8))
    (dir : CacheDir) (maxSize : Nat) (events : List Event)
    (h : Machine.Along (next json) Distinct (start (WriteCache.new dir maxSize)) events) :
    (events.foldl (next json) (start (WriteCache.new dir maxSize))).Recoverable json order := by
  have hend : (events.foldl (next json) (start (WriteCache.new dir maxSize))).Sound json :=
    h.invariant (I := fun s => s.Sound json) (fun s event hs hcond => hs.next event hcond)
      (sound_start json dir maxSize)
  exact hend.recoverable order

def addAlone (sequence : UInt64) (data : List UInt8) : List Event :=
  .add 0 sequence data :: List.replicate 4 .addStep

def addedAfterPop : List Event :=
  addAlone 1 [7] ++ [.popOldest] ++ addAlone 2 [8]

theorem recoverable_of_distinct_two :
    Machine.Along (next .first) Distinct (start (WriteCache.new ∅ 1)) addedAfterPop ∧
      (addedAfterPop.foldl (next .first)
        (start (WriteCache.new ∅ 1))).Recoverable .first .byKey :=
  have h : Machine.Along (next .first) Distinct (start (WriteCache.new ∅ 1)) addedAfterPop := by
    decide +kernel
  ⟨h, recoverable_of_distinct .first .byKey ∅ 1 _ h⟩

def numberRepeated : List Event :=
  addAlone 1 [7] ++ addAlone 1 [8]

/-- The file of the second segment has replaced that of the first. -/
theorem repeated_number_lost : CacheEntry.new 0 1 [7] ∈
        (numberRepeated.foldl (next .first) (start (WriteCache.new ∅ 100))).pending ∧
      CacheEntry.new 0 1 [7] ∉
        ((numberRepeated.foldl (next .first) (start (WriteCache.new ∅ 100))).reload
          .first .byKey).entries := by
  decide +kernel

end CacheClient

end ZLayer.Storage
