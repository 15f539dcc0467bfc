import EventTracker.Schema.Scalar
import EventTracker.Value.Entries

/-!
# Checks of lists and mappings

`checkTexts` takes lists and tuples of texts, `checkTable` mappings from texts to what
another check accepts. Keys in bytes are read as text; of keys with the same text the
last value wins and the first place counts.
-/

namespace EventTracker

/-- Values under text keys, in order of first insertion. -/
abbrev Table (α : Type) := Entries Text α

namespace Table

variable {α : Type}

def get? (t : Table α) (key : Text) : Option α := Entries.find? (fun a b => decide (a = b)) key t

def insert (t : Table α) (key : Text) (value : α) : Table α :=
  Entries.put (fun a b => decide (a = b)) key value t

def overlay (t patch : Table α) : Table α := Entries.overlay (fun a b => decide (a = b)) t patch

def ofList (entries : List (Text × α)) : Table α :=
  Entries.ofList (fun a b => decide (a = b)) entries

/-- A table as a value. -/
def toValue (t : Table Value) : Value := .map (t.map fun (k, v) => (.str k, v))

end Table

/-- The step to the entry of a key: a text or a small number as it is, any other key as shown.
Surrogates are marked. -/
def stepOfKey : Value → Step
  | .str t => .name t.lossy
  | .bool b => .index (if b then 1 else 0)
  | .int n =>
    if fitsWord n then .index n else .name (shownOrType (.int n))
  | key => .name (shownOrType key)
where
  shownOrType (key : Value) : String :=
    match key.shown with
    | .ok text => text
    | .error _ => s!"<unprintable {key.typeName} object>"

/-- An entry: first the flaws of the key, then those of the value. -/
def checkEntry {α : Type} (check : Value → Checked α) (entry : Value × Value) :
    Checked (Text × α) :=
  let step := stepOfKey entry.1
  let key := ((checkText entry.1).within (.name "[key]")).within step
  Checked.apply (key.map Prod.mk) ((check entry.2).within step)

/-- All items of a list, with the flaws of each. -/
def checkAll {α β : Type} (check : α → Checked β) : List α → Checked (List β)
  | [] => .ok []
  | a :: rest => Checked.apply ((check a).map List.cons) (checkAll check rest)

/-- A mapping from texts. -/
def checkTable {α : Type} (check : Value → Checked α) (v : Value) : Checked (Table α) :=
  match v with
  | .map entries => (checkAll (checkEntry check) entries).map Table.ofList
  | _ => .flaw .notMapping

/-- A mapping from texts to values of any kind. -/
def checkProperties (v : Value) : Checked (Table Value) := checkTable .ok v

/-- A list or tuple of texts. -/
def checkTexts (v : Value) : Checked (List Text) :=
  match v with
  | .list items | .tuple items =>
    checkAll (fun (item, i) => (checkText item).within (.index i)) items.zipIdx
  | _ => .flaw .notList

/-- Null, or what another check accepts. -/
def checkOptional {α : Type} (check : Value → Checked α) (v : Value) : Checked (Option α) :=
  match v with
  | .null => .ok none
  | v => (check v).map some

end EventTracker
