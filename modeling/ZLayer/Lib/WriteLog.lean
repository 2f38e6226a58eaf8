import ZLayer.Lib.HashMap

/-!
# WriteLog — a list of writes laid over a map

A write-ahead log holds writes in the order in which they were made; laying it over a map makes
them one after another.  What it leaves at a key is the last write to that key, so laying a log
over a map that already has its writes changes nothing.
-/

namespace ZLayer.Lib
namespace WriteLog

open Std HashMap

variable {α β : Type} [Ord α] [TransOrd α]

variable (m : HashMap α β) (writes : List (α × β))

def overlay : HashMap α β :=
  writes.foldl (fun m write => m.insert write.1 write.2) m

@[simp] lemma overlay_nil : overlay m [] = m := rfl

variable [DecidableEq α]

def lastWrite (key : α) : Option β :=
  (writes.reverse.find? fun write => write.1 = key).map Prod.snd

variable [LawfulEqOrd α]

lemma lookup_overlay (key : α) :
    (overlay m writes)[key]? = (lastWrite writes key).or m[key]? := by
  induction writes using List.reverseRecOn with
  | nil => rfl
  | append_singleton writes write ih =>
    have hstep : overlay m (writes ++ [write]) = (overlay m writes).insert write.1 write.2 := by
      simp [overlay]
    rw [hstep, lookup_insert, ih]
    by_cases hkey : write.1 = key
    · simp [lastWrite, hkey]
    · simp [lastWrite, hkey]

lemma overlay_idem :
    overlay (overlay m writes) writes = overlay m writes := by
  refine ExtTreeMap.ext_getElem? fun key => ?_
  rw [lookup_overlay, lookup_overlay]
  cases lastWrite writes key <;> rfl

/-- A second log that comes to the same as the first may be laid over its result. -/
lemma overlay_of_overlay_eq {m : HashMap α β} {first second : List (α × β)}
    (h : overlay m second = overlay m first) : overlay (overlay m first) second = overlay m first :=
  calc overlay (overlay m first) second
      = overlay (overlay m second) second := by rw [h]
    _ = overlay m second := overlay_idem m second
    _ = overlay m first := h

end WriteLog
end ZLayer.Lib
