import EventTracker.Proofs.Profile.Mutation
import Mathlib.Data.List.Nodup
import Mathlib.Data.List.Pairwise

/-!
# The wire form of mutations

A mutation that is made of named fields has the one operation that the fields supply, under
whichever of its names. Its wire form has three entries, and made of these a mutation is the
same again.
-/

namespace EventTracker

/-! ## Inputs without extra fields -/

theorem Field.text?_of_find? {f : Field} {input : Mapping} {name : String} {v : Value}
    (found : f.find? input = some (name, v)) : input.text? name = some v := by
  obtain ⟨name, -, found⟩ := List.exists_of_findSome?_eq_some found
  obtain ⟨v, found, same⟩ := Option.map_eq_some_iff.1 found
  cases same
  exact found

/-- Where no input is extra, a field has what the input has under any of its names. -/
theorem Schema.find?_of_no_extras {fields : List Field} {input : Mapping}
    (clean : extraFlaws fields input = []) (apart : (fields.flatMap Field.names).Nodup) {f : Field}
    (mem : f ∈ fields) {name : String} (named : name ∈ f.names) {v : Value}
    (given : input.text? name = some v) : f.find? input = some (name, v) := by
  obtain ⟨front, key, back, split, same⟩ := Entries.exists_eq_append_of_find? given
  obtain rfl := Value.sameKey_str_iff.1 same
  have used : name ∈ fields.filterMap fun f => (f.find? input).map Prod.fst := by
    by_contra unused
    have flaws := List.flatMap_eq_nil_iff.1 clean (.str name, v)
      (split ▸ List.mem_append_right _ List.mem_cons_self)
    simp only [if_neg unused] at flaws
    cases flaws
  obtain ⟨g, other, picked⟩ := List.mem_filterMap.1 used
  obtain ⟨⟨_, u⟩, found, rfl⟩ := Option.map_eq_some_iff.1 picked
  have symmetric : Std.Symm (Function.onFun List.Disjoint Field.names) :=
    ⟨fun _ _ => List.disjoint_symm⟩
  obtain rfl : f = g := by
    by_contra different
    exact (List.nodup_flatMap.1 apart).2.forall mem other different named
      (Field.exists_mem_of_find? found).1
  obtain rfl : v = u := Option.some.inj (given.symm.trans (Field.text?_of_find? found))
  exact found

/-! ## Operations that are supplied -/

/-- Whether a mapping has anything but null under a name. -/
def Mapping.supplies (input : Mapping) (name : String) : Bool :=
  match input.text? name with
  | none | some .null => false
  | some _ => true

theorem Mapping.supplies_eq_true_iff {input : Mapping} {name : String} :
    input.supplies name = true ↔ ∃ v, input.text? name = some v ∧ v ≠ .null := by
  unfold supplies
  split <;> simp_all

/-- An optional field that may only stand under one name is supplied as often as it holds anything. -/
theorem Field.length_filter_supplies {α : Type} {f : Field} {input : Mapping}
    {check : Value → Checked α} {held : Option α} (nodup : f.names.Nodup)
    (only : ∀ name ∈ f.names, ∀ v, input.text? name = some v → f.find? input = some (name, v))
    (checked : f.withDefault input none (checkOptional check) = .ok held) :
    (f.names.filter input.supplies).length = held.toList.length := by
  have none_else {name : String} {v : Value} (here : f.find? input = some (name, v)) :
      ∀ other ∈ f.names, input.supplies other = true → other = name ∧ v ≠ .null := by
    intro other named supplied
    obtain ⟨u, given, present⟩ := Mapping.supplies_eq_true_iff.1 supplied
    obtain ⟨rfl, rfl⟩ := Prod.mk.inj (Option.some.inj ((only other named u given).symm.trans here))
    exact ⟨rfl, present⟩
  unfold withDefault at checked
  split at checked
  case h_1 name v found =>
    have passed := Checked.within_eq_ok_iff.1 checked
    unfold checkOptional at passed
    split at passed
    · cases passed
      rw [Option.toList_none, List.length_nil, List.length_eq_zero_iff, List.filter_eq_nil_iff]
      exact fun other named supplied => (none_else found other named supplied).2 rfl
    · next present =>
      obtain ⟨a, -, rfl⟩ := Checked.map_eq_ok_iff.1 passed
      have supplied : input.supplies name = true :=
        Mapping.supplies_eq_true_iff.2 ⟨_, text?_of_find? found, present⟩
      have same : ∀ other ∈ f.names, input.supplies other = (other == name) := by
        intro other named
        rw [Bool.eq_iff_iff, beq_iff_eq]
        exact ⟨fun supplied => (none_else found other named supplied).1, fun h => h ▸ supplied⟩
      rw [List.filter_congr same, List.filter_beq, List.length_replicate,
        List.count_eq_one_of_mem nodup (exists_mem_of_find? found).1]
      rfl
  case h_2 missing =>
    cases checked
    rw [Option.toList_none, List.length_nil, List.length_eq_zero_iff, List.filter_eq_nil_iff]
    intro other named supplied
    obtain ⟨u, given, -⟩ := Mapping.supplies_eq_true_iff.1 supplied
    cases missing.symm.trans (only other named u given)

namespace ProfileMutation

def operationFields : List Field := [setField, setOnceField, unsetField, addField, appendField]

/-- The names of operations under which a mapping has one. -/
def supplied (input : Mapping) : List String :=
  (operationFields.flatMap Field.names).filter input.supplies

/-- A draft without extra fields has one operation for each name that supplies one. -/
theorem length_operations {input : Mapping} {draft : Draft} (sound : schema.check input = .ok draft)
    (clean : extraFlaws schema.fields input = []) :
    draft.operations.length = (supplied input).length := by
  have only {f : Field} (mem : f ∈ schema.fields) (name : String) (named : name ∈ f.names) (v : Value)
      (given : input.text? name = some v) : f.find? input = some (name, v) :=
    Schema.find?_of_no_extras clean (by decide) mem named given
  obtain ⟨-, -, set, setOnce, unset, add, append⟩ := check_eq_ok_iff.1 sound
  have set := Field.length_filter_supplies (by decide) (only (by simp [schema])) set
  have setOnce := Field.length_filter_supplies (by decide) (only (by simp [schema])) setOnce
  have unset := Field.length_filter_supplies (by decide) (only (by simp [schema])) unset
  have add := Field.length_filter_supplies (by decide) (only (by simp [schema])) add
  have append := Field.length_filter_supplies (by decide) (only (by simp [schema])) append
  simp only [supplied, operationFields, List.flatMap_cons, List.flatMap_nil, List.filter_append,
    List.length_append, set, setOnce, unset, add, append, Draft.operations, Option.toList_map,
    List.length_map, List.filter_nil, List.length_nil]
  omega

/-! ## Wire forms -/

/-- The wire form of a draft: its token, its user, and whatever operations it has. -/
def Draft.wire (draft : Draft) : Table Value :=
  ("$token", .str draft.token) :: ("$distinct_id", .str draft.distinctId) ::
    draft.operations.map fun operation => (operation.wireName, operation.operand)

end ProfileMutation

/-- A table of what passes a check passes it as a whole, and is read as it stands. -/
theorem Table.checkTable_toValue {α : Type} {check : Value → Checked α} {back : α → Value}
    (kept : ∀ a, check (back a) = .ok a) {table : Table α}
    (distinct : Entries.Distinct (fun a b => decide (a = b)) table) :
    checkTable check (Table.toValue (table.map fun entry => (entry.1, back entry.2))) = .ok table := by
  refine Checked.map_eq_ok_iff.2 ⟨table, ?_, Entries.ofList_of_distinct distinct⟩
  rw [checkAll_eq_ok_iff, List.map_map, List.forall₂_map_left_iff]
  exact List.forall₂_same.2 fun entry _ =>
    checkEntry_eq_ok_iff.2 ⟨checkText_eq_ok_iff.2 (.inl rfl), kept entry.2⟩

theorem checkTexts_names (names : List Text) :
    checkTexts (.list (names.map .str)) = .ok names := by
  rw [checkTexts, checkAll_eq_ok_iff, List.zipIdx_map, List.forall₂_map_left_iff]
  nth_rewrite 2 [← List.zipIdx_map_fst 0 names]
  rw [List.forall₂_map_right_iff]
  exact List.forall₂_same.2 fun _ _ => rfl

/-- The tables of an operation have each name once. -/
def ProfileOperation.Distinct : ProfileOperation → Prop
  | .set properties | .setOnce properties | .append properties =>
    Entries.Distinct (fun a b => decide (a = b)) properties
  | .unset _ => True
  | .add amounts => Entries.Distinct (fun a b => decide (a = b)) amounts

theorem Table.distinct_of_checkTable {α : Type} {check : Value → Checked α} {v : Value}
    {table : Table α} (passed : checkTable check v = .ok table) :
    Entries.Distinct (fun a b => decide (a = b)) table := by
  obtain ⟨entries, rfl⟩ := exists_of_checkTable passed
  obtain ⟨named, -, rfl⟩ := Checked.map_eq_ok_iff.1 passed
  exact Entries.distinct_ofList named

theorem checkNumber_value (n : Number) : checkNumber n.value = .ok n := by
  cases n <;> rfl

theorem Table.checkProperties_toValue {table : Table Value}
    (distinct : Entries.Distinct (fun a b => decide (a = b)) table) :
    checkProperties table.toValue = .ok table := by
  have passed := checkTable_toValue (fun v => (rfl : Except.ok (id v) = .ok v)) distinct
  rwa [show table.map (fun entry => (entry.1, id entry.2)) = table from List.map_id _] at passed

namespace Field

variable {f : Field} {input : Mapping} {name : String}

theorem required_text {text : String} (found : f.find? input = some (name, .str (.plain text)))
    (nonempty : text ≠ "") : f.required input checkNonemptyText = .ok text := by
  have passed := checkNonemptyText_eq_ok_iff.2 ⟨checkPlainText_str_eq_ok_iff.2 rfl, nonempty⟩
  rw [required, found]
  simp only [passed]
  rfl

theorem ne_empty_of_required {text : String}
    (given : f.required input checkNonemptyText = .ok text) : text ≠ "" := by
  unfold required at given
  split at given
  · exact (checkNonemptyText_eq_ok_iff.1 (Checked.within_eq_ok_iff.1 given)).2
  · cases given

theorem withDefault_of_find? {α : Type} {check : Value → Checked α} {v : Value} {a : α}
    (found : f.find? input = some (name, v)) (present : v ≠ .null) (passed : check v = .ok a) :
    f.withDefault input none (checkOptional check) = .ok (some a) :=
  withDefault_eq_ok_some_iff.2 ⟨name, v, found, present, passed⟩

end Field

namespace ProfileMutation

/-- A mutation with a token and a user is made of its own wire form. -/
theorem validate_wire {m : ProfileMutation} (hasToken : m.token ≠ "") (known : m.distinctId ≠ "")
    (distinct : m.operation.Distinct) : schema.validate m.wire.toValue = .ok m := by
  obtain ⟨token, id, operation⟩ := m
  refine Schema.checkFields_eq_ok_iff.2 ?_
  cases operation with
  | set properties =>
    have passed := Table.checkProperties_toValue distinct
    exact ⟨⟨token, id, some properties, none, none, none, none⟩, check_eq_ok_iff.2
      ⟨Field.required_text rfl hasToken, Field.required_text rfl known,
        Field.withDefault_of_find? rfl nofun passed, rfl, rfl, rfl, rfl⟩, rfl, rfl⟩
  | setOnce properties =>
    have passed := Table.checkProperties_toValue distinct
    exact ⟨⟨token, id, none, some properties, none, none, none⟩, check_eq_ok_iff.2
      ⟨Field.required_text rfl hasToken, Field.required_text rfl known, rfl,
        Field.withDefault_of_find? rfl nofun passed, rfl, rfl, rfl⟩, rfl, rfl⟩
  | unset names =>
    exact ⟨⟨token, id, none, none, some names, none, none⟩, check_eq_ok_iff.2
      ⟨Field.required_text rfl hasToken, Field.required_text rfl known, rfl, rfl,
        Field.withDefault_of_find? rfl nofun (checkTexts_names names), rfl, rfl⟩, rfl, rfl⟩
  | add amounts =>
    have passed := Table.checkTable_toValue checkNumber_value distinct
    exact ⟨⟨token, id, none, none, none, some amounts, none⟩, check_eq_ok_iff.2
      ⟨Field.required_text rfl hasToken, Field.required_text rfl known, rfl, rfl, rfl,
        Field.withDefault_of_find? rfl nofun passed, rfl⟩, rfl, rfl⟩
  | append properties =>
    have passed := Table.checkProperties_toValue distinct
    exact ⟨⟨token, id, none, none, none, none, some properties⟩, check_eq_ok_iff.2
      ⟨Field.required_text rfl hasToken, Field.required_text rfl known, rfl, rfl, rfl, rfl,
        Field.withDefault_of_find? rfl nofun passed⟩, rfl, rfl⟩

theorem distinct_of_givenBy {input : Mapping} {operation : ProfileOperation}
    (given : GivenBy input operation) : operation.Distinct := by
  cases given with
  | unset => trivial
  | set _ passed | setOnce _ passed | add _ passed | append _ passed =>
    exact Table.distinct_of_checkTable passed

/-- A mutation that is made of named fields is the draft of these, has a token and a user, and is made
of its own wire form. -/
theorem wire_of_checkFields {input : Mapping} {m : ProfileMutation}
    (made : schema.checkFields input = .ok m) :
    (∃ draft, schema.check input = .ok draft ∧ draft.operations = [m.operation] ∧
      draft.wire = m.wire) ∧ m.token ≠ "" ∧ m.distinctId ≠ "" ∧
      schema.validate m.wire.toValue = .ok m := by
  obtain ⟨draft, sound, -, finished⟩ := Schema.checkFields_eq_ok_iff.1 made
  obtain ⟨one, token, id⟩ := finish_eq_ok_iff.1 finished
  obtain ⟨token', id', -⟩ := check_eq_ok_iff.1 sound
  have hasToken : m.token ≠ "" := token ▸ Field.ne_empty_of_required token'
  have known : m.distinctId ≠ "" := id ▸ Field.ne_empty_of_required id'
  refine ⟨⟨draft, sound, one, ?_⟩, hasToken, known,
    validate_wire hasToken known (distinct_of_givenBy (givenBy_of_checkFields made))⟩
  rw [Draft.wire, one, token, id]
  rfl

/-- The mapping supplies one operation, if a mutation is made of it. -/
theorem length_supplied {input : Mapping} {m : ProfileMutation}
    (made : schema.checkFields input = .ok m) : (supplied input).length = 1 := by
  obtain ⟨draft, sound, clean, finished⟩ := Schema.checkFields_eq_ok_iff.1 made
  rw [← length_operations sound clean, (finish_eq_ok_iff.1 finished).1]
  rfl

/-- What is made of a mapping of fields, under whichever names: a mutation has one operation, and its
wire form has three entries, of which the same mutation is made again. Where there is no operation, or
more than one, no mutation is made. -/
theorem mutations_have_one_operation (fields : Mapping) :
    (∀ m, schema.validate (.map fields) = .ok m ∨ schema.construct (.map fields) = .ok m →
      (∃ draft, schema.check fields = .ok draft ∧ draft.operations = [m.operation] ∧
        draft.wire = m.wire) ∧
      m.wire.map Prod.fst = ["$token", "$distinct_id", m.operation.wireName] ∧
      m.token ≠ "" ∧ m.distinctId ≠ "" ∧ schema.validate m.wire.toValue = .ok m) ∧
    ((supplied fields).length ≠ 1 →
      (∃ report, schema.validate (.map fields) = .error report) ∧
      ∃ error, schema.construct (.map fields) = .error error) := by
  have constructed {m : ProfileMutation} (made : schema.construct (.map fields) = .ok m) :
      schema.checkFields fields = .ok m := by
    unfold Schema.construct at made
    simp only at made
    split at made
    · cases checked : schema.checkFields fields with
      | ok m' => rw [checked] at made; exact congrArg Except.ok (Except.ok.inj made)
      | error report => rw [checked] at made; cases made
    · cases made
  refine ⟨fun m made => ?_, fun other => ⟨?_, ?_⟩⟩
  · obtain ⟨drafted, hasToken, known, again⟩ := wire_of_checkFields (made.elim id constructed)
    exact ⟨drafted, rfl, hasToken, known, again⟩
  · cases made : schema.validate (.map fields) with
    | ok m => exact absurd (length_supplied made) other
    | error report => exact ⟨report, rfl⟩
  · cases made : schema.construct (.map fields) with
    | ok m => exact absurd (length_supplied (constructed made)) other
    | error error => exact ⟨error, rfl⟩

/-- Flags, texts and bytes among the fields of a mutation that adds, and two operations. -/
theorem mutations_have_one_operation_mixed :
    let fields : Mapping := [(.str "token", .bytes [84]), (.str "$distinct_id", .str "u"),
      (.str "set_", .null), (.str "$add", .map [(.bytes [110], .bool true), (.str "m", .str "2")])]
    let m : ProfileMutation := ⟨"T", "u", .add [("n", .int 1), ("m", .int 2)]⟩
    schema.validate (.map fields) = .ok m ∧ schema.validate m.wire.toValue = .ok m ∧
      ∃ report, schema.validate (.map (fields ++ [(.str "unset", .list [])])) = .error report := by
  intro fields m
  have made : schema.validate (.map fields) = .ok m := rfl
  have again := ((mutations_have_one_operation fields).1 m (.inl made)).2.2.2.2
  exact ⟨made, again, ((mutations_have_one_operation _).2 (by decide)).1⟩

end ProfileMutation

end EventTracker
