import EventTracker.Proofs.Value.NormalForm
import Mathlib.Logic.Basic

/-!
# Which values have a JSON text

Printing succeeds exactly for writable values that are not nested deeper than there is room
for (`exists_print_iff`). The text of a value begins with neither a blank nor a closing
bracket.
-/

namespace EventTracker.Json

theorem toList_toString_int (n : Int) : (toString n).toList = integerText n := by
  unfold integerText
  cases n with
  | ofNat m =>
    have : ¬(Int.ofNat m < 0) := by simp
    rw [if_neg this]
    exact Nat.toList_repr
  | negSucc m =>
    rw [if_pos (Int.negSucc_lt_zero m)]
    have text : toString (Int.negSucc m) = "-" ++ Nat.repr (m + 1) := rfl
    rw [text, String.toList_append, Nat.toList_repr]
    rfl

theorem intText_of_within {n : Int} (small : exceedsDigitLimit n = false) :
    intText n = .ok (integerText n) := by
  simp [intText, limitedIntegerText?, small]

/-- A key that can be spelled is written as its spelling. -/
theorem keyText_of_spellable {key : Value} (h : key.spellable = true) :
    keyText key = .ok key.keySpelling := by
  cases key with
  | str t => rfl
  | null => rfl
  | bool b => cases b <;> rfl
  | int n =>
    rw [Value.spellable, Bool.not_eq_true'] at h
    rw [keyText, intText_of_within h, Value.keySpelling, ← toList_toString_int]
    simp only [Except.map, String.ofList_toList]
  | float d => rfl
  | _ => cases h

theorem spellable_of_keyText {key : Value} {t : Text} (h : keyText key = .ok t) :
    key.spellable = true := by
  cases key with
  | int n =>
    rw [Value.spellable]
    cases small : exceedsDigitLimit n with
    | false => rfl
    | true => simp [keyText, intText, limitedIntegerText?, small, Except.map] at h
  | str t => rfl
  | null => rfl
  | bool b => rfl
  | float d => rfl
  | _ => cases h

/-! ## The steps of printing -/

section Steps

variable {ascii : Bool} {room : Nat}

theorem map_eq_ok_iff {ε α β : Type} {f : α → β} {x : Except ε α} {b : β} :
    x.map f = .ok b ↔ ∃ a, x = .ok a ∧ f a = b := by
  cases x <;> simp [Except.map]

theorem exists_map_eq_ok_iff {ε α β : Type} {f : α → β} {x : Except ε α} :
    (∃ b, x.map f = .ok b) ↔ ∃ a, x = .ok a := by
  cases x <;> simp [Except.map]

theorem printItems_cons_iff {v : Value} {rest : List Value} {parts : List (List Char)} :
    printItems ascii room (v :: rest) = .ok parts ↔
      ∃ first others, print ascii room v = .ok first ∧ printItems ascii room rest = .ok others ∧
        parts = first :: others := by
  rw [printItems]
  cases print ascii room v <;> cases printItems ascii room rest <;>
    simp [bind, Except.bind, eq_comm]

theorem printEntries_cons_iff {k v : Value} {rest : List (Value × Value)} {parts : List (List Char)} :
    printEntries ascii room ((k, v) :: rest) = .ok parts ↔
      ∃ value others, k.spellable = true ∧ print ascii room v = .ok value ∧
        printEntries ascii room rest = .ok others ∧
        parts = (quoted ascii k.keySpelling.points ++ ':' :: value) :: others := by
  rw [printEntries]
  cases spellable : k.spellable with
  | true =>
    rw [keyText_of_spellable spellable]
    cases print ascii room v <;> cases printEntries ascii room rest <;>
      simp [bind, Except.bind, eq_comm]
  | false =>
    cases text : keyText k with
    | ok t => rw [spellable_of_keyText text] at spellable; cases spellable
    | error cause => simp [bind, Except.bind]

theorem exists_printItems_iff {items : List Value} :
    (∃ parts, printItems ascii room items = .ok parts) ↔
      ∀ v ∈ items, ∃ cs, print ascii room v = .ok cs := by
  induction items with
  | nil => simp [printItems]
  | cons v rest ih =>
    simp only [printItems_cons_iff, List.forall_mem_cons, ← ih]
    constructor
    · rintro ⟨_, first, others, here, later, -⟩
      exact ⟨⟨first, here⟩, others, later⟩
    · rintro ⟨⟨first, here⟩, others, later⟩
      exact ⟨_, first, others, here, later, rfl⟩

theorem exists_printEntries_iff {entries : List (Value × Value)} :
    (∃ parts, printEntries ascii room entries = .ok parts) ↔
      ∀ entry ∈ entries, entry.1.spellable = true ∧ ∃ cs, print ascii room entry.2 = .ok cs := by
  induction entries with
  | nil => simp [printEntries]
  | cons entry rest ih =>
    obtain ⟨k, v⟩ := entry
    simp only [printEntries_cons_iff, List.forall_mem_cons, ← ih]
    constructor
    · rintro ⟨_, value, others, key, here, later, -⟩
      exact ⟨⟨key, value, here⟩, others, later⟩
    · rintro ⟨⟨key, value, here⟩, others, later⟩
      exact ⟨_, value, others, key, here, later, rfl⟩

end Steps

/-- A value has a JSON text exactly if it is writable and not too deep. -/
theorem exists_print_iff (ascii : Bool) (room : Nat) (v : Value) :
    (∃ cs, print ascii room v = .ok cs) ↔ v.writable = true ∧ v.depth ≤ room := by
  induction v using Value.containerInduction generalizing room with
  | list items ih =>
    cases room with
    | zero => simp [print, Value.depth]
    | succ room =>
      rw [print, exists_map_eq_ok_iff, exists_printItems_iff, Value.writable, Value.depth,
        Nat.add_le_add_iff_right, Value.itemsWritable_iff, Value.itemsDepth_le_iff, ← forall₂_and]
      exact forall₂_congr fun v mem => ih v mem room
  | tuple items ih =>
    cases room with
    | zero => simp [print, Value.depth]
    | succ room =>
      rw [print, exists_map_eq_ok_iff, exists_printItems_iff, Value.writable, Value.depth,
        Nat.add_le_add_iff_right, Value.itemsWritable_iff, Value.itemsDepth_le_iff, ← forall₂_and]
      exact forall₂_congr fun v mem => ih v mem room
  | map entries ih =>
    cases room with
    | zero => simp [print, Value.depth]
    | succ room =>
      rw [print, exists_map_eq_ok_iff, exists_printEntries_iff, Value.writable, Value.depth,
        Nat.add_le_add_iff_right, Value.entriesWritable_iff, Value.entriesDepth_le_iff, ← forall₂_and]
      refine forall₂_congr fun entry mem => ?_
      rw [ih entry mem room, and_assoc]
  | int n =>
    cases small : exceedsDigitLimit n <;>
      simp [print, intText, limitedIntegerText?, small, Value.writable, Value.depth]
  | null => simp [print, Value.writable, Value.depth]
  | bool b => simp [print, Value.writable, Value.depth]
  | float d => simp [print, Value.writable, Value.depth]
  | str s => simp [print, Value.writable, Value.depth]
  | date d => simp [print, Value.writable, Value.depth]
  | datetime t => simp [print, Value.writable, Value.depth]
  | bytes bs => simp [print, Value.writable]
  | callback c => simp [print, Value.writable]
  | foreign mark => simp [print, Value.writable]

/-! ## How texts begin -/

/-- Text that begins a value inside an array: neither with a blank nor with a closing bracket. -/
def StartsValue (cs : List Char) : Prop := ∃ c rest, cs = c :: rest ∧ isSpace c = false ∧ c ≠ ']'

theorem StartsValue.skipSpace {cs : List Char} (starts : StartsValue cs) (rest : List CodePoint) :
    skipSpace (CodePoint.ofChars cs ++ rest) = CodePoint.ofChars cs ++ rest := by
  obtain ⟨c, cs, rfl, visible, -⟩ := starts
  simp [Json.skipSpace, CodePoint.ofChars_cons, CodePoint.char?, visible]

/-- Text that begins a number or a word. -/
def StartsScalar (cs : List Char) : Prop :=
  ∃ c rest, cs = c :: rest ∧ (c.isDigit = true ∨ c ∈ ['-', 'n', 't', 'f', 'N', 'I'])

/-- The first character of a number or a word is none that has a meaning of its own. -/
theorem StartsScalar.head_ne {cs : List Char} (starts : StartsScalar cs) :
    ∃ c rest, cs = c :: rest ∧ ∀ special ∈ [' ', '\t', '\n', '\r', '"', '[', ']', '\x7b'], c ≠ special := by
  obtain ⟨c, rest, rfl, digit | letter⟩ := starts
  · refine ⟨c, rest, rfl, ?_⟩
    rintro special mem rfl
    simp only [List.mem_cons, List.not_mem_nil, or_false] at mem
    rcases mem with rfl | rfl | rfl | rfl | rfl | rfl | rfl | rfl <;> cases digit
  · refine ⟨c, rest, rfl, ?_⟩
    simp only [List.mem_cons, List.not_mem_nil, or_false] at letter
    rcases letter with rfl | rfl | rfl | rfl | rfl | rfl <;> simp

theorem StartsScalar.startsValue {cs : List Char} (starts : StartsScalar cs) : StartsValue cs := by
  obtain ⟨c, rest, rfl, ne⟩ := starts.head_ne
  simp only [List.mem_cons, List.not_mem_nil, or_false, forall_eq_or_imp, forall_eq] at ne
  refine ⟨c, rest, rfl, ?_, ne.2.2.2.2.2.2.1⟩
  simp only [isSpace, Bool.or_eq_false_iff, beq_eq_false_iff_ne]
  exact ⟨⟨⟨ne.1, ne.2.1⟩, ne.2.2.1⟩, ne.2.2.2.1⟩

theorem startsScalar_integerText (n : Int) : StartsScalar (integerText n) := by
  obtain ⟨c, cs, text⟩ := List.exists_cons_of_ne_nil (Nat.toDigits_ne_nil (n := n.natAbs) (b := 10))
  have digit : c.isDigit = true := allDigits_toDigits n.natAbs c (text ▸ List.mem_cons_self)
  unfold integerText
  split
  case isTrue => exact ⟨'-', _, rfl, Or.inr (by decide)⟩
  case isFalse => exact ⟨c, cs, text, Or.inl digit⟩

theorem startsScalar_doubleText (d : Double) : StartsScalar (doubleText d) := by
  cases d with
  | nan payload => exact ⟨'N', _, rfl, Or.inr (by decide)⟩
  | signed negative rank =>
    cases negative with
    | true => exact ⟨'-', _, rfl, Or.inr (by decide)⟩
    | false =>
      have text : doubleText (.signed false rank) = if rank.1 < infinityRank then
          Double.magnitudeText rank.1 else ['I', 'n', 'f', 'i', 'n', 'i', 't', 'y'] := rfl
      rw [text]
      split
      case isTrue finite =>
        obtain ⟨c, cs, text, digit⟩ := exists_magnitudeText_cons (Nat.le_of_lt finite)
        exact ⟨c, cs, text, Or.inl digit⟩
      case isFalse => exact ⟨'I', _, rfl, Or.inr (by decide)⟩

theorem startsScalar_nullText : StartsScalar nullText := ⟨'n', _, rfl, Or.inr (by decide)⟩

theorem startsScalar_boolText (b : Bool) : StartsScalar (boolText b) := by
  cases b with
  | false => exact ⟨'f', _, rfl, Or.inr (by decide)⟩
  | true => exact ⟨'t', _, rfl, Or.inr (by decide)⟩

theorem intText_eq_ok_iff {n : Int} {cs : List Char} :
    intText n = .ok cs ↔ exceedsDigitLimit n = false ∧ cs = integerText n := by
  unfold intText limitedIntegerText?
  cases exceedsDigitLimit n <;> simp [eq_comm]

theorem startsValue_quoted {ascii : Bool} (ps : List CodePoint) : StartsValue (quoted ascii ps) :=
  ⟨'"', _, rfl, rfl, by decide⟩

theorem startsValue_print {ascii : Bool} {room : Nat} {v : Value} {cs : List Char}
    (printed : print ascii room v = .ok cs) : StartsValue cs := by
  cases v with
  | null =>
    rw [print] at printed
    exact Except.ok.inj printed ▸ startsScalar_nullText.startsValue
  | bool b =>
    rw [print] at printed
    exact Except.ok.inj printed ▸ (startsScalar_boolText b).startsValue
  | int n =>
    rw [print] at printed
    obtain ⟨-, rfl⟩ := intText_eq_ok_iff.1 printed
    exact (startsScalar_integerText n).startsValue
  | float d =>
    rw [print] at printed
    exact Except.ok.inj printed ▸ (startsScalar_doubleText d).startsValue
  | str s | date d | datetime t =>
    rw [print] at printed
    exact Except.ok.inj printed ▸ startsValue_quoted _
  | list items | tuple items =>
    cases room with
    | zero => rw [print] at printed; cases printed
    | succ room =>
      rw [print] at printed
      obtain ⟨parts, -, rfl⟩ := map_eq_ok_iff.1 printed
      exact ⟨'[', _, rfl, rfl, by decide⟩
  | map entries =>
    cases room with
    | zero => rw [print] at printed; cases printed
    | succ room =>
      rw [print] at printed
      obtain ⟨parts, -, rfl⟩ := map_eq_ok_iff.1 printed
      exact ⟨'\x7b', _, rfl, rfl, by decide⟩
  | bytes bs | callback c | foreign mark => rw [print] at printed; cases printed

end EventTracker.Json
