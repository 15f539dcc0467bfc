/-!
# Entries in order of first insertion

`Entries κ ν` lists keys with their values. Under an equality `same` of keys, `put`
overwrites the value of a present key where it stands and appends an absent one, so the
order is that of first insertion. `find?` is the view: each operation has one equation
about what it finds.
-/

namespace EventTracker

/-- Keys with values, in order of first insertion. -/
abbrev Entries (κ ν : Type) := List (κ × ν)

namespace Entries

variable {κ ν : Type} (same : κ → κ → Bool)

/-- The value of a key. -/
def find? (key : κ) (entries : Entries κ ν) : Option ν :=
  (List.find? (fun entry => same entry.1 key) entries).map Prod.snd

/-- Whether a key is present. -/
def has (key : κ) (entries : Entries κ ν) : Bool :=
  entries.any fun entry => same entry.1 key

/-- Gives a key a value: in place if it is present, keeping the key as first written, else at the
end. -/
def put (key : κ) (value : ν) : Entries κ ν → Entries κ ν
  | [] => [(key, value)]
  | entry :: rest =>
    if same entry.1 key then (entry.1, value) :: rest else entry :: put key value rest

/-- Removes a key. -/
def erase (key : κ) (entries : Entries κ ν) : Entries κ ν :=
  entries.filter fun entry => !same entry.1 key

/-- Puts the entries of `patch` one after another. -/
def overlay (entries patch : Entries κ ν) : Entries κ ν :=
  patch.foldl (fun all entry => put same entry.1 entry.2 all) entries

/-- The entries of a list in which later values win and first positions count. -/
def ofList (entries : List (κ × ν)) : Entries κ ν := overlay same [] entries

theorem find?_nil (key : κ) : find? same key ([] : Entries κ ν) = none := rfl

theorem find?_cons (key : κ) (entry : κ × ν) (rest : Entries κ ν) :
    find? same key (entry :: rest) =
      if same entry.1 key then some entry.2 else find? same key rest := by
  cases h : same entry.1 key <;> simp [find?, h]

theorem has_eq_isSome_find? (key : κ) (entries : Entries κ ν) :
    has same key entries = (find? same key entries).isSome := by
  induction entries with
  | nil => rfl
  | cons entry rest ih =>
    rw [find?_cons, has, List.any_cons]
    rw [has] at ih
    cases h : same entry.1 key <;> simp [ih]

theorem overlay_cons (entries : Entries κ ν) (entry : κ × ν) (patch : Entries κ ν) :
    overlay same entries (entry :: patch) = overlay same (put same entry.1 entry.2 entries) patch :=
  rfl

theorem overlay_append (entries patch more : Entries κ ν) :
    overlay same entries (patch ++ more) = overlay same (overlay same entries patch) more :=
  List.foldl_append

end Entries

end EventTracker
