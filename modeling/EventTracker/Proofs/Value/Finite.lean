import EventTracker.Proofs.Value.Entries
import EventTracker.Proofs.Value.Induction
import EventTracker.Proofs.Wire.Truncation

/-!
# Values of finite numbers

A value is finite if no number in it is NaN or infinity, however deep. Cutting texts does
not change that, and merging mappings brings in no other values than are in them.
-/

namespace EventTracker

namespace Value

mutual

/-- Whether every double in a value is a finite number. Keys do not count. -/
def finite : Value → Bool
  | .float d => d.isFinite
  | .list items | .tuple items => itemsFinite items
  | .map entries => entriesFinite entries
  | _ => true

def itemsFinite : List Value → Bool
  | [] => true
  | v :: rest => finite v && itemsFinite rest

def entriesFinite : List (Value × Value) → Bool
  | [] => true
  | (_, v) :: rest => finite v && entriesFinite rest

end

theorem itemsFinite_iff {items : List Value} :
    itemsFinite items = true ↔ ∀ v ∈ items, v.finite = true := by
  induction items with
  | nil => simp [itemsFinite]
  | cons v rest ih => rw [itemsFinite, Bool.and_eq_true, ih, List.forall_mem_cons]

theorem entriesFinite_iff {entries : List (Value × Value)} :
    entriesFinite entries = true ↔ ∀ entry ∈ entries, entry.2.finite = true := by
  induction entries with
  | nil => simp [entriesFinite]
  | cons entry rest ih => rw [entriesFinite, Bool.and_eq_true, ih, List.forall_mem_cons]

theorem finite_truncate (length : Int) (v : Value) : (truncate length v).finite = v.finite := by
  have items {items : List Value} (each : ∀ v ∈ items, (truncate length v).finite = v.finite) :
      itemsFinite (truncateItems length items) = itemsFinite items := by
    apply Bool.eq_iff_iff.2
    rw [itemsFinite_iff, itemsFinite_iff, truncateItems_eq_map, List.forall_mem_map]
    exact forall₂_congr fun v mem => by rw [each v mem]
  induction v using containerInduction with
  | list _ ih | tuple _ ih =>
    rw [truncate, finite, finite]
    exact items ih
  | map entries ih =>
    rw [truncate, finite, finite]
    apply Bool.eq_iff_iff.2
    rw [entriesFinite_iff, entriesFinite_iff, truncateEntries_eq_map, List.forall_mem_map]
    exact forall₂_congr fun entry mem => by rw [ih entry mem]
  | _ => rfl

end Value

theorem Table.finite_toValue_iff {t : Table Value} :
    t.toValue.finite = true ↔ ∀ entry ∈ t, entry.2.finite = true := by
  rw [toValue, Value.finite, Value.entriesFinite_iff, List.forall_mem_map]

/-! ## Mappings -/

/-- A mapping of finite values. -/
def Mapping.Finite (m : Mapping) : Prop := ∀ entry ∈ m, entry.2.finite = true

/-- What is merged of a value, be it a mapping or a sequence of pairs, is finite. A pair may be
anything of two items, also a mapping of two keys. -/
def Value.FiniteEntries : Value → Prop
  | .map entries => Mapping.Finite entries
  | source => ∀ elements, source.items? = some elements → ∀ element ∈ elements, ∀ key value,
      Mapping.pair? element = .ok (key, value) → value.finite = true

theorem Value.FiniteEntries.offered {source : Value} (given : source.FiniteEntries) :
    ∀ entry ∈ source.offered, entry.2.finite = true := by
  unfold Value.offered
  split
  case h_1 entries => exact given
  case h_2 other =>
    intro entry mem
    cases listed : source.items? with
    | none =>
      rw [listed] at mem
      cases mem
    | some elements =>
      rw [listed] at mem
      obtain ⟨element, within, read⟩ := List.mem_filterMap.1 mem
      cases pair : Mapping.pair? element with
      | error kind =>
        rw [pair] at read
        cases read
      | ok one =>
        rw [pair] at read
        cases read
        cases source with
        | map entries => exact absurd rfl (other entries)
        | _ => exact given elements listed element within entry.1 entry.2 pair

namespace Mapping

variable {m patch : Mapping}

theorem finite_map_iff : (Value.map m).finite = true ↔ m.Finite := Value.entriesFinite_iff

theorem Finite.overlay (finite : m.Finite) (given : patch.Finite) : (m.overlay patch).Finite :=
  Entries.forall_value_overlay (Q := fun v : Value => v.finite = true) finite given

theorem Finite.absorb (finite : m.Finite) {source : Value} (given : source.FiniteEntries) :
    (m.absorb source).1.Finite := fun entry mem =>
  (forall_absorb (P := fun _ => True) (Q := fun v => v.finite = true)
    (fun entry mem => ⟨trivial, finite entry mem⟩)
    (fun entry mem => ⟨trivial, given.offered entry mem⟩) entry mem).2

theorem finite_ofValue {source : Value} (given : source.FiniteEntries)
    (read : ofValue source = .ok m) : m.Finite := by
  have absorbed : (absorb [] source).1.Finite := Finite.absorb (List.forall_mem_nil _) given
  unfold ofValue at read
  split at read
  case h_1 same =>
    cases read
    rwa [same] at absorbed
  case h_2 => cases read

end Mapping

end EventTracker
