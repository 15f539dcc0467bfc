import EventTracker.Value.Shown

/-!
# Flaws of an input

A check of an input either yields a checked value or every flaw it finds, in order.
`Checked` is that outcome; `Checked.apply` puts checks together so that the flaws of all
parts are kept. A `Report` names the record that was checked and renders its flaws as
text.
-/

namespace EventTracker

/-- A step of the way to the place of a flaw. -/
inductive Step where
  | name (text : String)
  | index (n : Int)
  deriving DecidableEq

/-- What is wrong at a place. -/
inductive FlawKind where
  | notText
  | badTextBytes
  | emptyText
  | notFlag
  | unreadableFlag
  | notInteger
  | unreadableInteger
  | fractionalInteger
  | hugeInteger
  | notFinite
  | notNumber
  | unreadableNumber
  | negative
  | notMapping
  | notList
  | missing
  | extra
  /-- The input for a record is not a mapping. -/
  | notRecord (record : String)
  /-- A field name is not a text. -/
  | badFieldName
  /-- A profile mutation has `count` operations instead of one. -/
  | operationCount (count : Nat)
  deriving DecidableEq

namespace FlawKind

/-- The identifier of a kind of flaw. -/
def tag : FlawKind → String
  | .notText => "string_type"
  | .badTextBytes => "string_unicode"
  | .emptyText => "string_too_short"
  | .notFlag => "bool_type"
  | .unreadableFlag => "bool_parsing"
  | .notInteger => "int_type"
  | .unreadableInteger => "int_parsing"
  | .fractionalInteger => "int_from_float"
  | .hugeInteger => "int_parsing_size"
  | .notFinite => "finite_number"
  | .notNumber => "float_type"
  | .unreadableNumber => "float_parsing"
  | .negative => "greater_than_equal"
  | .notMapping => "dict_type"
  | .notList => "list_type"
  | .missing => "missing"
  | .extra => "extra_forbidden"
  | .notRecord _ => "model_type"
  | .badFieldName => "invalid_key"
  | .operationCount _ => "value_error"

def message : FlawKind → String
  | .notText => "Input should be a valid string"
  | .badTextBytes => "Input should be a valid string, unable to parse raw data as a unicode string"
  | .emptyText => "String should have at least 1 character"
  | .notFlag => "Input should be a valid boolean"
  | .unreadableFlag => "Input should be a valid boolean, unable to interpret input"
  | .notInteger => "Input should be a valid integer"
  | .unreadableInteger => "Input should be a valid integer, unable to parse string as an integer"
  | .fractionalInteger => "Input should be a valid integer, got a number with a fractional part"
  | .hugeInteger => "Unable to parse input string as an integer, exceeded maximum size"
  | .notFinite => "Input should be a finite number"
  | .notNumber => "Input should be a valid number"
  | .unreadableNumber => "Input should be a valid number, unable to parse string as a number"
  | .negative => "Input should be greater than or equal to 0"
  | .notMapping => "Input should be a valid dictionary"
  | .notList => "Input should be a valid list"
  | .missing => "Field required"
  | .extra => "Extra inputs are not permitted"
  | .notRecord record => s!"Input should be a valid dictionary or instance of {record}"
  | .badFieldName => "Keys should be strings"
  | .operationCount count => s!"Value error, exactly one profile operation required, got {count}"

end FlawKind

/-- A flaw and the way to its place. -/
structure Flaw where
  kind : FlawKind
  place : List Step
  deriving DecidableEq

/-- A flaw of a part, seen from the whole that the part is a step away from. -/
def Flaw.within (step : Step) (f : Flaw) : Flaw := ⟨f.kind, step :: f.place⟩

/-- The flaws found in the input for a record. -/
structure Report where
  record : String
  flaws : List Flaw
  deriving DecidableEq

/-- A step in the text of a report; names with a point in them are set off. -/
def Step.text : Step → String
  | .name text => if text.toList.contains '.' then "\x60" ++ text ++ "\x60" else text
  | .index n => String.ofList (integerText n)

/-- The lines of a flaw: its place unless that is the whole input, and what is wrong. -/
def Flaw.lines (f : Flaw) : List String :=
  (if f.place.isEmpty then [] else [".".intercalate (f.place.map Step.text)]) ++
    [s!"  {f.kind.message} [type={f.kind.tag}]"]

/-- The text of a report. -/
def Report.text (r : Report) : String :=
  let count := r.flaws.length
  let errors := if count = 1 then "error" else "errors"
  "\n".intercalate (s!"{count} validation {errors} for {r.record}" :: r.flaws.flatMap Flaw.lines)

/-- A checked value, or the flaws found. -/
abbrev Checked (α : Type) := Except (List Flaw) α

namespace Checked

variable {α β : Type}

/-- The outcome of finding one flaw in the whole input. -/
def flaw (kind : FlawKind) : Checked α := .error [⟨kind, []⟩]

/-- A check of a part, seen from the whole that the part is a step away from. -/
def within (step : Step) : Checked α → Checked α
  | .ok a => .ok a
  | .error flaws => .error (flaws.map (Flaw.within step))

/-- Puts two checks together and keeps the flaws of both, those of the first in front. -/
def apply : Checked (α → β) → Checked α → Checked β
  | .ok f, .ok a => .ok (f a)
  | .ok _, .error flaws => .error flaws
  | .error flaws, .ok _ => .error flaws
  | .error flaws, .error more => .error (flaws ++ more)

/-- The flaws of a check. -/
def flaws : Checked α → List Flaw
  | .ok _ => []
  | .error flaws => flaws

@[simp] theorem within_ok (step : Step) (a : α) : within step (.ok a) = .ok a := rfl

@[simp] theorem apply_ok (f : α → β) (a : α) : apply (.ok f) (.ok a) = .ok (f a) := rfl

theorem apply_eq_ok_iff {f : Checked (α → β)} {a : Checked α} {b : β} :
    f.apply a = .ok b ↔ ∃ g x, f = .ok g ∧ a = .ok x ∧ g x = b := by
  cases f <;> cases a <;> simp [apply]

end Checked

end EventTracker
