import EventTracker.Proofs.Value.Entries
import EventTracker.Proofs.Value.Key
import EventTracker.Storage.Basic
import Mathlib.Logic.Function.Basic

/-!
# Storages in memory

Under what can be a key, an access to a storage in memory fails exactly if it is switched
off. A write that does not fail stores the value, a removal leaves nothing, and what fails
changes nothing.
-/

namespace EventTracker.Disk

variable {d : Disk} {items : Mapping} {off : List StorageAccess} {writes : Nat}

section Hashable

variable {key : Value} (memory : d.storage = .memory items off writes)
  (hashable : key.hashable = true)

include memory hashable

theorem get_of_hashable (on : .get ∉ off) : d.get key = .ok ((items.get? key).getD .null) := by
  rw [get, memory]
  simp only [if_neg on, if_pos hashable]

theorem set_of_hashable (on : .set ∉ off) (value : Value) :
    d.set key value =
      ({ d with storage := .memory (items.insert key value) off (writes + 1) }, none) := by
  rw [set, memory]
  simp only [if_neg on, if_pos hashable]

theorem remove_of_hashable (on : .remove ∉ off) :
    d.remove key = ({ d with storage := .memory (items.erase key) off writes }, none) := by
  rw [remove, memory]
  simp only [if_neg on, Mapping.discard, hashable, Bool.or_true, if_true]

end Hashable

theorem get_memory (memory : d.storage = .memory items off writes) (on : .get ∉ off)
    (key : Text) : d.get (.str key) = .ok ((items.get? (.str key)).getD .null) :=
  get_of_hashable memory rfl on

theorem set_memory (memory : d.storage = .memory items off writes) (on : .set ∉ off) (key : Text)
    (value : Value) :
    d.set (.str key) value =
      ({ d with storage := .memory (items.insert (.str key) value) off (writes + 1) }, none) :=
  set_of_hashable memory rfl on value

theorem set_memory_off (memory : d.storage = .memory items off writes) (switched : .set ∈ off)
    (key : Text) (value : Value) :
    d.set (.str key) value = (d, some (.refused (.storage (.switchedOff .set)))) := by
  rw [set, memory]
  simp only [if_pos switched]

theorem remove_memory (memory : d.storage = .memory items off writes) (on : .remove ∉ off)
    (key : Text) :
    d.remove (.str key) =
      ({ d with storage := .memory (items.erase (.str key)) off writes }, none) :=
  remove_of_hashable memory rfl on

theorem remove_memory_off (memory : d.storage = .memory items off writes)
    (switched : .remove ∈ off) (key : Text) :
    d.remove (.str key) = (d, some (.refused (.storage (.switchedOff .remove)))) := by
  rw [remove, memory]
  simp only [if_pos switched]

end EventTracker.Disk

namespace EventTracker.Mapping

theorem get?_insert_of_hashable (m : Mapping) {key : Value} (hashable : key.hashable = true)
    (value : Value) : (m.insert key value).get? key = some value := by
  rw [get?, insert, Entries.find?_put keyEquality_sameKey, if_pos (Value.sameKey_self hashable)]

theorem get?_insert (m : Mapping) (key : Text) (value : Value) :
    (m.insert (.str key) value).get? (.str key) = some value :=
  m.get?_insert_of_hashable rfl value

theorem get?_insert_text (m : Mapping) (key other : Text) (value : Value) :
    (m.insert (.str key) value).get? (.str other) =
      if key = other then some value else m.get? (.str other) := by
  simp only [get?, insert, Entries.find?_put keyEquality_sameKey, Value.sameKey_str,
    decide_eq_true_eq]

theorem get?_erase (m : Mapping) (key : Value) : (m.erase key).get? key = none := by
  refine Entries.find?_of_absent (Entries.has_eq_false_iff.2 fun entry mem => ?_)
  simpa using (List.mem_filter.1 mem).2

theorem get?_erase_text (m : Mapping) (key other : Text) :
    (m.erase (.str key)).get? (.str other) =
      if key = other then none else m.get? (.str other) := by
  split
  case isTrue here => rw [← here, get?_erase]
  case isFalse apart =>
    have respects : ∀ a b : Value, a.sameKey b = true →
        (!a.sameKey (.str key)) = !b.sameKey (.str key) := by
      intro a b same
      rw [keyEquality_sameKey.congr_left same]
    exact Entries.find?_filter_of_kept respects
      (by simpa using fun same : other = key => apart same.symm) m

/-- Items that hold, under text keys, the texts of a map. -/
def Keeps (texts : String → Option String) (items : Mapping) : Prop :=
  ∀ key : String, items.get? (.str key) = (texts key).map fun text => .str text

namespace Keeps

variable {texts : String → Option String} {items : Mapping}

theorem insert (keeps : items.Keeps texts) (key text : String) :
    (items.insert (.str key) (.str text)).Keeps (Function.update texts key (some text)) := by
  intro other
  rw [get?_insert_text, keeps other, Function.update_apply]
  by_cases here : other = key
  · rw [if_pos (congrArg _ here.symm), if_pos here]
    rfl
  · rw [if_neg fun same => here (Text.plain.inj same).symm, if_neg here]

theorem erase (keeps : items.Keeps texts) (key : String) :
    (items.erase (.str key)).Keeps (Function.update texts key none) := by
  intro other
  rw [get?_erase_text, keeps other, Function.update_apply]
  by_cases here : other = key
  · rw [if_pos (congrArg _ here.symm), if_pos here]
    rfl
  · rw [if_neg fun same => here (Text.plain.inj same).symm, if_neg here]

end Keeps

end EventTracker.Mapping
