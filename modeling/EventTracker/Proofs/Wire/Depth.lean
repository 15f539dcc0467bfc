import EventTracker.Proofs.Profile.Mutation
import EventTracker.Proofs.Store.Composition
import EventTracker.Proofs.Value.NormalForm

/-!
# How deep payloads are

The payload of an event lies two levels above the properties that are merged for it, and
the payload of a mutation one level above its operand. So what is not nested too deeply
for these levels makes payloads that can be copied.
-/

namespace EventTracker

variable {m : Mapping} {n : Nat}

theorem Table.depth_toValue_le {t : Table Value} (all : ∀ entry ∈ t, entry.2.depth ≤ n) :
    t.toValue.depth ≤ n + 1 := by
  rw [toValue, Value.depth, Nat.add_le_add_iff_right, Value.entriesDepth_le_iff]
  exact List.forall_mem_map.2 all

/-- The table of a mapping that passed holds what the check makes of the mapping's values. -/
theorem forall_of_checkTable {α : Type} {check : Value → Checked α} {P : α → Prop}
    {table : Table α} (all : ∀ entry ∈ m, ∀ a, check entry.2 = .ok a → P a)
    (checked : checkTable check (.map m) = .ok table) : ∀ entry ∈ table, P entry.2 := by
  obtain ⟨named, read, rfl⟩ := Checked.map_eq_ok_iff.1 checked
  have read := checkAll_eq_ok_iff.1 read
  refine Entries.forall_value_overlay (List.forall_mem_nil _) fun entry mem => ?_
  obtain ⟨place, within, rfl⟩ := List.getElem_of_mem mem
  have within' : place < m.length := read.length_eq ▸ within
  exact all _ (List.getElem_mem within') _ (checkEntry_eq_ok_iff.1 (read.get within' within)).2

theorem forall_of_checkProperties {P : Value → Prop} {table : Table Value}
    (all : ∀ entry ∈ m, P entry.2) (checked : checkProperties (.map m) = .ok table) :
    ∀ entry ∈ table, P entry.2 := by
  refine forall_of_checkTable (fun entry mem a same => ?_) checked
  cases same
  exact all entry mem

theorem Event.depth_wire_le {name : Value} {e : Event} (all : ∀ entry ∈ m, entry.2.depth ≤ n)
    (valid : Event.ofValues name m = .ok e) : e.wire.toValue.depth ≤ n + 2 := by
  have checked := (Event.ofValues_eq_ok_iff.1 valid).2
  have properties := Table.depth_toValue_le
    (forall_of_checkProperties (P := fun v => v.depth ≤ n) all checked)
  refine Table.depth_toValue_le (List.forall_mem_cons.2 ⟨Nat.zero_le _, ?_⟩)
  exact List.forall_mem_singleton.2 properties

/-! ## Mutations -/

theorem one_le_depth_of_checkTexts {v : Value} {names : List Text}
    (checked : checkTexts v = .ok names) : 1 ≤ v.depth := by
  cases v with
  | list items | tuple items => exact Nat.le_add_left 1 _
  | _ => cases checked

theorem depth_toValue_le_of_checkProperties {v : Value} {table : Table Value}
    (checked : checkProperties v = .ok table) : table.toValue.depth ≤ v.depth := by
  obtain ⟨entries, rfl⟩ := exists_of_checkTable checked
  rw [Value.depth]
  exact Table.depth_toValue_le (forall_of_checkProperties
    (P := fun v => v.depth ≤ Value.entriesDepth entries)
    (Value.entriesDepth_le_iff.1 (Nat.le_refl _)) checked)

theorem ProfileOperation.depth_add_le (amounts : Table Number) :
    (ProfileOperation.add amounts).operand.depth ≤ 1 := by
  refine Table.depth_toValue_le (List.forall_mem_map.2 fun amount _ => ?_)
  obtain ⟨name, number⟩ := amount
  cases number <;> exact Nat.le_refl 0

namespace ProfileMutation

/-- The operand of a mutation is no deeper than the values that the mutation is made of. -/
theorem depth_operand_le {input : Mapping} {mutation : ProfileMutation}
    (all : ∀ entry ∈ input, entry.2.depth ≤ n) (checked : schema.checkFields input = .ok mutation) :
    mutation.operation.operand.depth ≤ n := by
  have given {f : Field} {name : String} {v : Value} (found : f.find? input = some (name, v)) :
      v.depth ≤ n := by
    obtain ⟨-, key, mem, -⟩ := Field.exists_mem_of_find? found
    exact all (key, v) mem
  obtain ⟨token, id, operation⟩ := mutation
  cases givenBy_of_checkFields checked with
  | set found passed | setOnce found passed | append found passed =>
    exact Nat.le_trans (depth_toValue_le_of_checkProperties passed) (given found)
  | unset found passed =>
    have deep := Nat.le_trans (one_le_depth_of_checkTexts passed) (given found)
    have flat {names : List Text} : Value.itemsDepth (names.map .str) ≤ 0 :=
      Value.itemsDepth_le_iff.2 (List.forall_mem_map.2 fun _ _ => Nat.le_refl 0)
    exact Nat.le_trans (Nat.add_le_add_right flat 1) deep
  | add found passed =>
    obtain ⟨entries, rfl⟩ := exists_of_checkTable passed
    have deep : 1 ≤ n := Nat.le_trans (Nat.le_add_left 1 _) (given found)
    exact Nat.le_trans (ProfileOperation.depth_add_le _) deep

theorem depth_wire (mutation : ProfileMutation) :
    mutation.wire.toValue.depth = mutation.operation.operand.depth + 1 := by
  simp [wire, Table.toValue, Value.depth, Value.entriesDepth]

end ProfileMutation

/-! ## Layers -/

/-- What holds of each part of a table holds of the part that is there, if it is. -/
theorem Table.forall_getD {α : Type} {part : α → Table Value} {P : Text × Value → Prop}
    (all : ∀ a, ∀ entry ∈ part a, P entry) (o : Option α) :
    ∀ entry ∈ (o.map part).getD [], P entry := by
  cases o with
  | none => exact List.forall_mem_nil _
  | some a => exact all a

theorem Environment.flat_properties (e : Environment) :
    ∀ entry ∈ e.properties, entry.2.depth = 0 := by
  have agent (userAgent : String) : ∀ entry ∈ e.agentProperties userAgent, entry.2.depth = 0 := by
    simp only [agentProperties, List.forall_mem_cons]
    refine ⟨rfl, rfl, ?_, rfl, List.forall_mem_nil _⟩
    generalize (Browser.detect userAgent e.vendor e.opera).bind _ = version
    cases version <;> rfl
  simp only [properties, List.forall_mem_append]
  refine ⟨⟨⟨⟨Table.forall_getD agent _, Table.forall_getD ?_ _⟩, Table.forall_getD ?_ _⟩,
    Table.forall_getD ?_ _⟩, Table.forall_getD ?_ _⟩
  all_goals
    intro _
    simp [Value.depth]

theorem Environment.flat_defaultProperties (e : Option Environment) :
    ∀ entry ∈ defaultProperties e, entry.2.depth = 0 := by
  refine List.forall_mem_append.2 ⟨Table.forall_getD flat_properties e, ?_⟩
  simp [libraryProperties, Value.depth]

/-- The layers below the last are no deeper than the bag and the caller's layer. -/
theorem Store.forall_lowerLayers {s : Store} {environment : Option Environment}
    (bag : ∀ entry ∈ s.props, entry.2.depth ≤ n) {entries : Mapping}
    (given : ∀ entry ∈ entries, entry.2.depth ≤ n) :
    ∀ entry ∈ (s.lowerLayers environment (.map entries)).1, entry.2.depth ≤ n := by
  have base : ∀ entry ∈ s.baseLayers environment, entry.2.depth ≤ n := by
    refine Entries.forall_value_overlay (Q := fun v : Value => v.depth ≤ n) ?_ bag
    refine List.forall_mem_map.2 fun entry mem => Nat.le_trans ?_ (Nat.zero_le n)
    exact Nat.le_of_eq (Environment.flat_defaultProperties environment entry mem)
  unfold lowerLayers
  split
  · exact Entries.forall_value_overlay (Q := fun v : Value => v.depth ≤ n) base given
  · exact base

end EventTracker
