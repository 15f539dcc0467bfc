import EventTracker.Value.Key

/-!
# Mappings

Look-up, insertion and merging of mappings whose keys are compared by `Value.sameKey`.
`Mapping.absorb` merges a value that need not be a mapping: pairs of a sequence are taken
as entries, and what was merged before a failure stays.
-/

namespace EventTracker.Mapping

/-- The value of a key. -/
def get? (m : Mapping) (key : Value) : Option Value := Entries.find? Value.sameKey key m

/-- The value of a text key. -/
def text? (m : Mapping) (key : Text) : Option Value := m.get? (.str key)

def contains (m : Mapping) (key : Value) : Bool := Entries.has Value.sameKey key m

def insert (m : Mapping) (key value : Value) : Mapping := Entries.put Value.sameKey key value m

def erase (m : Mapping) (key : Value) : Mapping := Entries.erase Value.sameKey key m

/-- Inserts the entries of `patch` in order. -/
def overlay (m patch : Mapping) : Mapping := Entries.overlay Value.sameKey m patch

/-- The mapping of a list of entries, of which later ones win. -/
def ofList (entries : List (Value × Value)) : Mapping := Entries.ofList Value.sameKey entries

/-- The key and value of an element of a sequence of pairs. -/
def pair? (element : Value) : Except Misuse (Value × Value) :=
  match element.items? with
  | none => .error .wrongType
  | some [key, value] => if key.hashable then .ok (key, value) else .error .wrongType
  | some _ => .error .badValue

/-- Inserts pairs up to the first element that is not one. -/
def absorbPairs (m : Mapping) : List Value → Mapping × Option Misuse
  | [] => (m, none)
  | element :: rest =>
    match pair? element with
    | .ok (key, value) => absorbPairs (m.insert key value) rest
    | .error misuse => (m, some misuse)

/-- Merges a mapping or a sequence of pairs. -/
def absorb (m : Mapping) (source : Value) : Mapping × Option Misuse :=
  match source with
  | .map entries => (m.overlay entries, none)
  | other =>
    match other.items? with
    | some elements => m.absorbPairs elements
    | none => (m, some .wrongType)

/-- A mapping of its own with the entries of a mapping or of a sequence of pairs. -/
def ofValue (source : Value) : Except Misuse Mapping :=
  match absorb [] source with
  | (m, none) => .ok m
  | (_, some misuse) => .error misuse

/-- Removes a key; what cannot be a key is a misuse, unless there is nothing to remove from. -/
def discard (m : Mapping) (key : Value) : Except Misuse Mapping :=
  if m.isEmpty || key.hashable then .ok (m.erase key) else .error .wrongType

/-- Looks a key up; what cannot be a key is a misuse. -/
def lookup (m : Mapping) (key : Value) : Except Misuse (Option Value) :=
  if key.hashable then .ok (m.get? key) else .error .wrongType

end EventTracker.Mapping
