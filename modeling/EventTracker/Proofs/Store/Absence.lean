import EventTracker.Proofs.Store.Layers

/-!
# Names that an event lacks

The keys of a mapping are read as texts only when an event is made of it, so a name may come
from bytes as well as from the text itself. A mapping lacks a name if none of its keys is
read as it, and an event has nothing under a name that all of its layers lack.
-/

namespace EventTracker

/-! ## Mappings -/

/-- Whether no key of a mapping is read as a name. -/
def Mapping.Lacks (m : Mapping) (name : Text) : Prop := ∀ entry ∈ m, checkText entry.1 ≠ .ok name

namespace Mapping

variable {m patch : Mapping} {name : Text}

/-- Under texts, the names that are lacked are those without a value. -/
theorem lacks_iff_of_texts (texts : Schema.hasTextKeys m = true) :
    m.Lacks name ↔ m.text? name = none := by
  constructor
  · intro lacks
    refine Entries.find?_of_absent (Entries.has_eq_false_iff.2 fun entry mem => ?_)
    refine eq_false_of_ne_true fun same => lacks entry mem ?_
    exact checkText_eq_ok_iff.2 (.inl (Value.sameKey_str_iff.1 same))
  · intro absent entry mem reads
    obtain ⟨text, key⟩ := Schema.hasTextKeys_iff.1 texts entry mem
    rw [key] at reads
    obtain rfl : text = name := Except.ok.inj reads
    have present : Entries.has Value.sameKey (.str text) m = true :=
      List.any_eq_true.2 ⟨entry, mem, by rw [key, Value.sameKey_str, decide_eq_true rfl]⟩
    rw [Entries.has_eq_isSome_find?, ← get?, ← text?, absent] at present
    cases present

theorem Lacks.overlay (lacks : m.Lacks name) (own : patch.Lacks name) :
    Lacks (m.overlay patch) name := fun entry mem =>
  (Entries.forall_overlay (P := fun key => checkText key ≠ .ok name) (Q := fun _ => True)
    (fun entry mem => ⟨lacks entry mem, trivial⟩) (fun entry mem => ⟨own entry mem, trivial⟩)
    entry mem).1

theorem Lacks.absorb (lacks : m.Lacks name) {source : Value} (own : source.offered.Lacks name) :
    Lacks (m.absorb source).1 name := fun entry mem =>
  (forall_absorb (P := fun key => checkText key ≠ .ok name) (Q := fun _ => True)
    (fun entry mem => ⟨lacks entry mem, trivial⟩) (fun entry mem => ⟨own entry mem, trivial⟩)
    entry mem).1

theorem Lacks.erase (lacks : m.Lacks name) (key : Value) : Lacks (m.erase key) name :=
  fun entry mem => lacks entry (Entries.mem_of_mem_erase mem)

/-- What a mapping lacks, the table that it is read as lacks too. -/
theorem ReadUnder.get?_eq_none {named : List (Text × Value)} (read : m.ReadUnder named)
    (lacks : m.Lacks name) : (Table.ofList named).get? name = none := by
  rw [Table.get?_ofList]
  refine Entries.find?_of_absent (Entries.has_eq_false_iff.2 fun pair mem => ?_)
  obtain ⟨place, within, rfl⟩ := List.getElem_of_mem (List.mem_reverse.1 mem)
  have within' : place < m.length := read.length_eq ▸ within
  refine decide_eq_false fun same => lacks _ (List.getElem_mem within') ?_
  rw [← same]
  exact (read.get within' within).1

end Mapping

theorem Table.lacks_asMapping {t : Table Value} {name : Text} (other : name ∉ t.map Prod.fst) :
    t.asMapping.Lacks name := by
  refine (Mapping.lacks_iff_of_texts (Schema.hasTextKeys_map (fun _ => ⟨_, rfl⟩) t)).2 ?_
  refine Entries.find?_of_absent (eq_false_of_ne_true fun named => other ?_)
  exact Table.contains_asMapping.1 named

/-! ## Events -/

namespace Store

variable {s s' : Store} {name token : Text} {environment : Option Environment}
  {event properties : Value} {e : Event}

theorem lacks_lowerLayers (bag : s.props.Lacks name) (foreign : name ∉ Environment.propertyNames)
    (own : properties.offered.Lacks name) (environment : Option Environment) :
    (s.lowerLayers environment properties).1.Lacks name := by
  have known := (Environment.defaultProperties_sublist environment).subset
  have base : (s.baseLayers environment).Lacks name :=
    (Table.lacks_asMapping fun mem => foreign (known mem)).overlay bag
  unfold lowerLayers
  split
  · exact base.absorb own
  · exact base

/-- An event has nothing under a name that neither the bag nor the caller gives, unless the
environment or the last layer does. -/
theorem get?_eq_none_of_compose (bag : s.props.Lacks name)
    (foreign : name ∉ Environment.propertyNames) (other : name ∉ lastNames)
    (own : properties.offered.Lacks name)
    (composed : s.compose token environment event properties = (s', .ok e)) :
    e.properties.get? name = none := by
  obtain ⟨lower, time, clock, layers, -, -, valid⟩ := exists_of_composeFor_eq_ok composed
  have lacks := lacks_lowerLayers bag foreign own environment
  rw [layers] at lacks
  obtain ⟨named, read, same⟩ := checkProperties_eq_ok_iff.1 (Event.ofValues_eq_ok_iff.1 valid).2
  rw [← same]
  refine read.get?_eq_none (lacks.overlay ?_)
  exact Table.lacks_asMapping (t := lastTable token s.distinctId time s.ids.insert.1) other

end Store

end EventTracker
