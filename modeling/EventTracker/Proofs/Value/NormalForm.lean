import EventTracker.Json.Printer
import EventTracker.Proofs.Json.Number
import EventTracker.Proofs.Value.Entries
import EventTracker.Proofs.Value.Induction

/-!
# Values that JSON can carry, and what it makes of them

`Value.writable` tells the values that have a JSON text: they hold no bytes, callbacks or
foreign objects, their integers are within the digit limit, and their keys are texts,
numbers, truth values or null. `Value.normal` is what such a value is after it went
through JSON: tuples are lists, dates are their ISO text, keys are spelled out, of keys
with the same spelling the later value stands at the earlier place, and in texts two
surrogates that stand for a character are joined to it. Plain data is left as it is.
-/

namespace EventTracker.Value

/-- The text that a key is spelled as in JSON. -/
def keySpelling : Value → Text
  | .str t => t
  | .null => "null"
  | .bool b => if b then "true" else "false"
  | .int n => toString n
  | .float d => String.ofList (Json.doubleText d)
  | _ => ""

/-- Whether a key can be spelled in JSON. -/
def spellable : Value → Bool
  | .str _ | .null | .bool _ | .float _ => true
  | .int n => !exceedsDigitLimit n
  | _ => false

mutual

/-- Whether a value can be written as JSON, however deep it is. -/
def writable : Value → Bool
  | .null | .bool _ | .float _ | .str _ | .date _ | .datetime _ => true
  | .int n => !exceedsDigitLimit n
  | .list items | .tuple items => itemsWritable items
  | .map entries => entriesWritable entries
  | .bytes _ | .callback _ | .foreign _ => false

def itemsWritable : List Value → Bool
  | [] => true
  | v :: rest => writable v && itemsWritable rest

def entriesWritable : List (Value × Value) → Bool
  | [] => true
  | (k, v) :: rest => spellable k && writable v && entriesWritable rest

end

mutual

/-- What a value is read back as after it was written as JSON. -/
def normal : Value → Value
  | .list items | .tuple items => .list (normalItems items)
  | .map entries => .map (Entries.latest sameKey (normalEntries entries))
  | .date d => .str (String.ofList d.isoText)
  | .datetime t => .str (String.ofList t.isoText)
  | .float d => .float d.readBack
  | .null => .null
  | .bool b => .bool b
  | .int n => .int n
  | .str t => .str t.joined
  | .bytes bs => .bytes bs
  | .callback c => .callback c
  | .foreign f => .foreign f

def normalItems : List Value → List Value
  | [] => []
  | v :: rest => normal v :: normalItems rest

/-- The entries under the spellings of their keys. -/
def normalEntries : List (Value × Value) → List (Value × Value)
  | [] => []
  | (k, v) :: rest => (.str (keySpelling k).joined, normal v) :: normalEntries rest

end

mutual

/-- Whether a value is made of null, truth values, integers, texts without pairs of surrogates,
lists, and mappings under distinct such texts. -/
def isPlain : Value → Bool
  | .null | .bool _ | .int _ => true
  | .str t => t.joined == t
  | .list items => itemsPlain items
  | .map entries => entriesPlain entries
  | _ => false

def itemsPlain : List Value → Bool
  | [] => true
  | v :: rest => isPlain v && itemsPlain rest

def entriesPlain : List (Value × Value) → Bool
  | [] => true
  | (.str t, v) :: rest =>
    t.joined == t && isPlain v && !Entries.has sameKey (.str t) rest && entriesPlain rest
  | _ :: _ => false

end

theorem itemsWritable_iff {items : List Value} :
    itemsWritable items = true ↔ ∀ v ∈ items, v.writable = true := by
  induction items with
  | nil => simp [itemsWritable]
  | cons v rest ih => simp [itemsWritable, ih]

theorem entriesWritable_iff {entries : List (Value × Value)} :
    entriesWritable entries = true ↔
      ∀ entry ∈ entries, entry.1.spellable = true ∧ entry.2.writable = true := by
  induction entries with
  | nil => simp [entriesWritable]
  | cons entry rest ih => simp [entriesWritable, ih]

theorem normalItems_eq_map (items : List Value) : normalItems items = items.map normal := by
  induction items with
  | nil => rfl
  | cons v rest ih => rw [normalItems, ih, List.map_cons]

theorem normalEntries_eq_map (entries : List (Value × Value)) :
    normalEntries entries =
      entries.map fun entry => (.str (keySpelling entry.1).joined, normal entry.2) := by
  induction entries with
  | nil => rfl
  | cons entry rest ih => rw [normalEntries, ih, List.map_cons]

theorem itemsDepth_le_iff {items : List Value} {n : Nat} :
    itemsDepth items ≤ n ↔ ∀ v ∈ items, v.depth ≤ n := by
  induction items with
  | nil => simp [itemsDepth]
  | cons v rest ih => rw [itemsDepth, Nat.max_le, List.forall_mem_cons, ih]

theorem entriesDepth_le_iff {entries : List (Value × Value)} {n : Nat} :
    entriesDepth entries ≤ n ↔ ∀ entry ∈ entries, entry.2.depth ≤ n := by
  induction entries with
  | nil => simp [entriesDepth]
  | cons entry rest ih => rw [entriesDepth, Nat.max_le, List.forall_mem_cons, ih]

/-- Plain data is its own normal form. -/
theorem normal_of_isPlain {v : Value} (plain : v.isPlain = true) : v.normal = v := by
  induction v using containerInduction with
  | list items ih =>
    rw [isPlain] at plain
    have same : normalItems items = items := by
      induction items with
      | nil => rfl
      | cons v rest ihRest =>
        rw [itemsPlain, Bool.and_eq_true] at plain
        rw [normalItems, ih v List.mem_cons_self plain.1,
          ihRest (fun w mem => ih w (List.mem_cons_of_mem _ mem)) plain.2]
    rw [normal, same]
  | map entries ih =>
    rw [isPlain] at plain
    have same : normalEntries entries = entries ∧ Entries.Distinct sameKey entries := by
      induction entries with
      | nil => exact ⟨rfl, List.Pairwise.nil⟩
      | cons entry rest ihRest =>
        match entry, plain with
        | (.str t, v), plain =>
          simp only [entriesPlain, Bool.and_eq_true, Bool.not_eq_true', beq_iff_eq] at plain
          obtain ⟨⟨⟨key, here⟩, absent⟩, plain⟩ := plain
          obtain ⟨same, distinct⟩ := ihRest (fun w mem => ih w (List.mem_cons_of_mem _ mem)) plain
          refine ⟨?_, List.pairwise_cons.2 ⟨fun other mem => ?_, distinct⟩⟩
          · rw [normalEntries, same, ih (.str t, v) List.mem_cons_self here, keySpelling, key]
          · rw [sameKey_symm]
            exact Entries.has_eq_false_iff.1 absent other mem
    rw [normal, same.1, ← Entries.ofList_eq_latest keyEquality_sameKey,
      Entries.ofList_of_distinct same.2]
  | null => rfl
  | bool _ => rfl
  | int _ => rfl
  | str t =>
    rw [isPlain, beq_iff_eq] at plain
    rw [normal, plain]
  | float _ => cases plain
  | bytes _ => cases plain
  | date _ => cases plain
  | datetime _ => cases plain
  | tuple _ _ => cases plain
  | callback _ => cases plain
  | foreign _ => cases plain

end EventTracker.Value
