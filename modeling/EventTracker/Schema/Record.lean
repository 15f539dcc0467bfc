import EventTracker.Schema.Container
import EventTracker.Value.Mapping

/-!
# Checks of records

A record has named fields, some with a wire name that takes precedence over the name. A
`Schema` puts the checks of all fields together; inputs that are no field's are flaws,
which follow those of the fields. `Schema.validate` takes any value as the input,
`Schema.construct` named fields only.
-/

namespace EventTracker

/-- A field of a record. -/
structure Field where
  name : String
  wireName : Option String

namespace Field

/-- The names under which a field is looked up, the first found taking precedence. -/
def names (f : Field) : List String := f.wireName.toList ++ [f.name]

/-- The name a field goes by where it is missing. -/
def publicName (f : Field) : String := f.wireName.getD f.name

/-- The name and value under which an input has the field. -/
def find? (f : Field) (input : Mapping) : Option (String × Value) :=
  f.names.findSome? fun name => (input.text? (.plain name)).map (name, ·)

variable {α : Type}

/-- A field that must be present. -/
def required (f : Field) (input : Mapping) (check : Value → Checked α) : Checked α :=
  match f.find? input with
  | some (name, v) => (check v).within (.name name)
  | none => (Checked.flaw .missing).within (.name f.publicName)

/-- A field that has a value where it is missing. -/
def withDefault (f : Field) (input : Mapping) (default : α) (check : Value → Checked α) :
    Checked α :=
  match f.find? input with
  | some (name, v) => (check v).within (.name name)
  | none => .ok default

end Field

/-- The flaws of the inputs that are no field's. -/
def extraFlaws (fields : List Field) (input : Mapping) : List Flaw :=
  let used := fields.filterMap fun f => (f.find? input).map Prod.fst
  input.flatMap fun (key, _) =>
    match key with
    | .str (.plain s) => if s ∈ used then [] else [⟨.extra, [.name s]⟩]
    | .str (.rough _) => [⟨.badTextBytes, []⟩]
    | key => [⟨.badFieldName, [stepOfKey key]⟩]

/-- How inputs are checked for a record: by way of a draft, which holds its sound fields. -/
structure Schema (δ α : Type) where
  record : String
  fields : List Field
  check : Mapping → Checked δ
  /-- Makes the record of its draft, or finds a flaw in it as a whole. -/
  finish : δ → Except FlawKind α

/-- Why a record cannot be constructed. -/
inductive ConstructError where
  | misuse (kind : Misuse)
  | invalid (report : Report)
  deriving DecidableEq

namespace Schema

variable {δ α : Type}

/-- Checks named fields. -/
def checkFields (s : Schema δ α) (input : Mapping) : Except Report α :=
  let extras := extraFlaws s.fields input
  let rest : Checked Unit := if extras.isEmpty then .ok () else .error extras
  match Checked.apply ((s.check input).map fun draft (_ : Unit) => draft) rest with
  | .error flaws => .error ⟨s.record, flaws⟩
  | .ok draft => (s.finish draft).mapError fun kind => ⟨s.record, [⟨kind, []⟩]⟩

/-- Checks any value. -/
def validate (s : Schema δ α) (input : Value) : Except Report α :=
  match input with
  | .map entries => s.checkFields entries
  | _ => .error ⟨s.record, [⟨.notRecord s.record, []⟩]⟩

/-- Whether all keys of a mapping are texts. -/
def hasTextKeys (m : Mapping) : Bool :=
  m.all fun (key, _) => match key with
    | .str _ => true
    | _ => false

/-- Checks the named fields that a mapping gives. -/
def construct (s : Schema δ α) (input : Value) : Except ConstructError α :=
  match input with
  | .map entries =>
    if hasTextKeys entries then (s.checkFields entries).mapError .invalid
    else .error (.misuse .wrongType)
  | _ => .error (.misuse .wrongType)

end Schema

end EventTracker
