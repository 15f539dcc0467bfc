import EventTracker.Proofs.Schema.Container
import EventTracker.Profile.Mutation

/-!
# What mutations are made of

A mutation holds what its fields have in the input it is made of: its user is the one that
the user's field names, and its operation is what the check of the operation's field makes
of the value there (`ProfileMutation.GivenBy`).
-/

namespace EventTracker

/-- Named fields make a record if each passes its check, none is extra, and the record has no flaw as
a whole. -/
theorem Schema.checkFields_eq_ok_iff {δ α : Type} {s : Schema δ α} {input : Mapping} {a : α} :
    s.checkFields input = .ok a ↔
      ∃ draft, s.check input = .ok draft ∧ extraFlaws s.fields input = [] ∧
        s.finish draft = .ok a := by
  unfold checkFields
  cases checked : s.check input with
  | error flaws => cases extras : extraFlaws s.fields input <;> simp [Except.map, Checked.apply]
  | ok draft =>
    cases extras : extraFlaws s.fields input with
    | nil => cases finished : s.finish draft <;> simp [Except.map, Except.mapError, finished]
    | cons flaw rest => simp [Except.map, Checked.apply]

theorem Schema.exists_of_checkFields_eq_ok {δ α : Type} {s : Schema δ α} {input : Mapping} {a : α}
    (checked : s.checkFields input = .ok a) :
    ∃ draft, s.check input = .ok draft ∧ s.finish draft = .ok a := by
  obtain ⟨draft, sound, -, finished⟩ := checkFields_eq_ok_iff.1 checked
  exact ⟨draft, sound, finished⟩

theorem checkPlainText_str_eq_ok_iff {t : Text} {text : String} :
    checkPlainText (.str t) = .ok text ↔ t = .plain text := by
  cases t with
  | plain s => simp [checkPlainText, textOf?]
  | rough parts => simp [checkPlainText, textOf?, Checked.flaw]

theorem checkNonemptyText_eq_ok_iff {v : Value} {text : String} :
    checkNonemptyText v = .ok text ↔ checkPlainText v = .ok text ∧ text ≠ "" := by
  unfold checkNonemptyText
  cases checkPlainText v with
  | error flaws => simp [Except.bind]
  | ok read =>
    by_cases empty : read = ""
    · simp only [Except.bind, if_pos empty, Checked.flaw, reduceCtorEq, Except.ok.injEq, false_iff]
      exact fun both => both.2 (both.1 ▸ empty)
    · simp only [Except.bind, if_neg empty, Except.ok.injEq]
      exact ⟨fun same => ⟨same, same ▸ empty⟩, And.left⟩

/-- What passes the check of a mapping is one. -/
theorem exists_of_checkTable {α : Type} {check : Value → Checked α} {v : Value} {table : Table α}
    (checked : checkTable check v = .ok table) : ∃ entries, v = .map entries := by
  cases v with
  | map entries => exact ⟨entries, rfl⟩
  | _ => cases checked

namespace Field

variable {f : Field} {input : Mapping}

/-- What a field has in the input is the value of one of its names. -/
theorem exists_mem_of_find? {name : String} {v : Value} (found : f.find? input = some (name, v)) :
    name ∈ f.names ∧ ∃ key, (key, v) ∈ input ∧ Value.sameKey key (.str name) = true := by
  obtain ⟨name, named, found⟩ := List.exists_of_findSome?_eq_some found
  obtain ⟨v, found, same⟩ := Option.map_eq_some_iff.1 found
  cases same
  obtain ⟨front, key, back, rfl, same⟩ := Entries.exists_eq_append_of_find? found
  exact ⟨named, key, List.mem_append_right _ List.mem_cons_self, same⟩

/-- What an optional field holds is what its check makes of what the input has, unless that is null. -/
theorem withDefault_eq_ok_some_iff {α : Type} {check : Value → Checked α} {a : α} :
    f.withDefault input none (checkOptional check) = .ok (some a) ↔
      ∃ name v, f.find? input = some (name, v) ∧ v ≠ .null ∧ check v = .ok a := by
  unfold withDefault
  cases f.find? input with
  | none => simp
  | some found =>
    obtain ⟨name, v⟩ := found
    simp only [Checked.within_eq_ok_iff, Option.some.injEq, Prod.mk.injEq]
    constructor
    · intro passed
      unfold checkOptional at passed
      split at passed
      · cases passed
      · next present =>
        obtain ⟨b, checked, same⟩ := Checked.map_eq_ok_iff.1 passed
        cases same
        exact ⟨_, _, ⟨rfl, rfl⟩, present, checked⟩
    · rintro ⟨_, _, ⟨rfl, rfl⟩, present, checked⟩
      rw [checkOptional]
      · exact Checked.map_eq_ok_iff.2 ⟨a, checked, rfl⟩
      · exact present

end Field

namespace ProfileMutation

/-- What a draft is made of, field by field. -/
theorem check_eq_ok_iff {input : Mapping} {draft : Draft} :
    schema.check input = .ok draft ↔
      tokenField.required input checkNonemptyText = .ok draft.token ∧
      distinctIdField.required input checkNonemptyText = .ok draft.distinctId ∧
      setField.withDefault input none (checkOptional checkProperties) = .ok draft.set ∧
      setOnceField.withDefault input none (checkOptional checkProperties) = .ok draft.setOnce ∧
      unsetField.withDefault input none (checkOptional checkTexts) = .ok draft.unset ∧
      addField.withDefault input none (checkOptional (checkTable checkNumber)) = .ok draft.add ∧
      appendField.withDefault input none (checkOptional checkProperties) = .ok draft.append := by
  simp only [schema, Checked.apply_eq_ok_iff]
  constructor
  · rintro ⟨_, append, ⟨_, add, ⟨_, unset, ⟨_, setOnce, ⟨_, set, ⟨_, id, ⟨_, token, ⟨rfl⟩,
      token', rfl⟩, id', rfl⟩, set', rfl⟩, setOnce', rfl⟩, unset', rfl⟩, add', rfl⟩, append', rfl⟩
    exact ⟨token', id', set', setOnce', unset', add', append'⟩
  · rintro ⟨token, id, set, setOnce, unset, add, append⟩
    exact ⟨_, _, ⟨_, _, ⟨_, _, ⟨_, _, ⟨_, _, ⟨_, _, ⟨_, _, rfl, token, rfl⟩, id, rfl⟩, set, rfl⟩,
      setOnce, rfl⟩, unset, rfl⟩, add, rfl⟩, append, rfl⟩

/-- A draft makes a mutation if it has one operation. -/
theorem finish_eq_ok_iff {draft : Draft} {mutation : ProfileMutation} :
    schema.finish draft = .ok mutation ↔
      draft.operations = [mutation.operation] ∧ draft.token = mutation.token ∧
        draft.distinctId = mutation.distinctId := by
  unfold schema
  simp only
  split
  case h_1 operation only =>
    obtain ⟨token, id, operation'⟩ := mutation
    rw [only]
    simp [and_comm, and_assoc]
  case h_2 many =>
    constructor
    · rintro ⟨⟩
    · rintro ⟨only, -, -⟩
      exact absurd only (many _)

/-- An operation that an input gives: what its field has there passed the check of the field. -/
inductive GivenBy (input : Mapping) : ProfileOperation → Prop where
  | set {name : String} {v : Value} {properties : Table Value}
    (found : setField.find? input = some (name, v))
    (checked : checkProperties v = .ok properties) : GivenBy input (.set properties)
  | setOnce {name : String} {v : Value} {properties : Table Value}
    (found : setOnceField.find? input = some (name, v))
    (checked : checkProperties v = .ok properties) : GivenBy input (.setOnce properties)
  | unset {name : String} {v : Value} {names : List Text}
    (found : unsetField.find? input = some (name, v))
    (checked : checkTexts v = .ok names) : GivenBy input (.unset names)
  | add {name : String} {v : Value} {amounts : Table Number}
    (found : addField.find? input = some (name, v))
    (checked : checkTable checkNumber v = .ok amounts) : GivenBy input (.add amounts)
  | append {name : String} {v : Value} {properties : Table Value}
    (found : appendField.find? input = some (name, v))
    (checked : checkProperties v = .ok properties) : GivenBy input (.append properties)

/-- The operation of a mutation is given by the input. -/
theorem givenBy_of_checkFields {input : Mapping} {mutation : ProfileMutation}
    (checked : schema.checkFields input = .ok mutation) : GivenBy input mutation.operation := by
  obtain ⟨draft, sound, finished⟩ := Schema.exists_of_checkFields_eq_ok checked
  obtain ⟨-, -, checkedSet, checkedSetOnce, checkedUnset, checkedAdd, checkedAppend⟩ :=
    check_eq_ok_iff.1 sound
  have mem : mutation.operation ∈ draft.operations := by
    rw [(finish_eq_ok_iff.1 finished).1]
    exact List.mem_singleton_self _
  simp only [Draft.operations, List.mem_append, Option.mem_toList, Option.map_eq_some_iff] at mem
  rcases mem with (((⟨properties, held, same⟩ | ⟨properties, held, same⟩) | ⟨names, held, same⟩) |
    ⟨amounts, held, same⟩) | ⟨properties, held, same⟩ <;> rw [← same]
  · obtain ⟨name, v, found, -, checked⟩ := Field.withDefault_eq_ok_some_iff.1 (held ▸ checkedSet)
    exact .set found checked
  · obtain ⟨name, v, found, -, checked⟩ := Field.withDefault_eq_ok_some_iff.1 (held ▸ checkedSetOnce)
    exact .setOnce found checked
  · obtain ⟨name, v, found, -, checked⟩ := Field.withDefault_eq_ok_some_iff.1 (held ▸ checkedUnset)
    exact .unset found checked
  · obtain ⟨name, v, found, -, checked⟩ := Field.withDefault_eq_ok_some_iff.1 (held ▸ checkedAdd)
    exact .add found checked
  · obtain ⟨name, v, found, -, checked⟩ := Field.withDefault_eq_ok_some_iff.1 (held ▸ checkedAppend)
    exact .append found checked

/-- Only the token's field gives the token. -/
theorem token_of_checkFields {token id : Text} {operation : Field} {operand : Value}
    {m : ProfileMutation} (other : operation.name ≠ "$token")
    (checked : schema.checkFields [(.str tokenField.name, .str token),
      (.str distinctIdField.name, .str id), (.str operation.name, operand)] = .ok m) :
    token = .plain m.token := by
  obtain ⟨draft, sound, finished⟩ := Schema.exists_of_checkFields_eq_ok checked
  have found : tokenField.find? [(.str tokenField.name, .str token),
      (.str distinctIdField.name, .str id), (.str operation.name, operand)] =
        some ("token", .str token) := by
    simp [Field.find?, Field.names, distinctIdField, tokenField, Mapping.text?, Mapping.get?,
      Entries.find?_cons, Entries.find?_nil, other]
  have given := (check_eq_ok_iff.1 sound).1
  rw [Field.required, found] at given
  rw [← (finish_eq_ok_iff.1 finished).2.1]
  exact checkPlainText_str_eq_ok_iff.1
    (checkNonemptyText_eq_ok_iff.1 (Checked.within_eq_ok_iff.1 given)).1

/-- Only the user's field names the user. -/
theorem distinctId_of_checkFields {token id : Text} {operation : Field} {operand : Value}
    {m : ProfileMutation} (other : operation.name ≠ "$distinct_id")
    (checked : schema.checkFields [(.str tokenField.name, .str token),
      (.str distinctIdField.name, .str id), (.str operation.name, operand)] = .ok m) :
    id = .plain m.distinctId := by
  obtain ⟨draft, sound, finished⟩ := Schema.exists_of_checkFields_eq_ok checked
  have found : distinctIdField.find? [(.str tokenField.name, .str token),
      (.str distinctIdField.name, .str id), (.str operation.name, operand)] =
        some ("distinct_id", .str id) := by
    simp [Field.find?, Field.names, distinctIdField, tokenField, Mapping.text?, Mapping.get?,
      Entries.find?_cons, Entries.find?_nil, other]
  have user := (check_eq_ok_iff.1 sound).2.1
  rw [Field.required, found] at user
  rw [← (finish_eq_ok_iff.1 finished).2.2]
  exact checkPlainText_str_eq_ok_iff.1
    (checkNonemptyText_eq_ok_iff.1 (Checked.within_eq_ok_iff.1 user)).1

end ProfileMutation

end EventTracker
