import EventTracker.Proofs.Json.Printing
import EventTracker.Proofs.Json.Text

/-!
# Reading JSON undoes writing it

A printed value is read back as its normal form from the front of any text that can follow
it (`parseValue_print`), with two units of fuel for each of its characters. The items of an
array and the members of an object are read back by induction on their list.
-/

namespace EventTracker.Json

open CodePoint

section Fronts

variable (fuel room : Nat)

theorem parseValue_scalar {cs : List Char} (starts : StartsScalar cs) (rest : List CodePoint) :
    parseValue (fuel + 1) room (ofChars cs ++ rest) = parseScalar (ofChars cs ++ rest) := by
  obtain ⟨c, cs, rfl, ne⟩ := starts.head_ne
  simp only [List.mem_cons, List.not_mem_nil, or_false, forall_eq_or_imp, forall_eq] at ne
  obtain ⟨-, -, -, -, quote, bracket, -, brace⟩ := ne
  rw [ofChars_cons, List.cons_append, parseValue]
  · intro _ eq
    exact quote (char.inj (List.cons.inj eq).1)
  · intro _ _ eq
    exact bracket (char.inj (List.cons.inj eq).1)
  · intro _ _ eq
    exact brace (char.inj (List.cons.inj eq).1)
  · intro _ _ _ eq
    exact bracket (char.inj (List.cons.inj eq).1)
  · intro _ _ _ eq
    exact brace (char.inj (List.cons.inj eq).1)

theorem ofChars_quoted_append (ascii : Bool) (ps rest : List CodePoint) :
    ofChars (quoted ascii ps) ++ rest =
      char '"' :: (ofChars (ps.flatMap (escapePoint ascii)) ++ char '"' :: rest) := by
  simp [quoted, ofChars]

theorem parseValue_quoted (ascii : Bool) (ps rest : List CodePoint) :
    parseValue (fuel + 1) room (ofChars (quoted ascii ps) ++ rest) =
      .ok (.str (.ofPoints (joinPairs ps)), rest) := by
  rw [ofChars_quoted_append, parseValue, readText?_flatMap]

end Fronts

/-- A value whose text is read back as its normal form. -/
def ReadsBack (ascii : Bool) (v : Value) : Prop :=
  ∀ {room : Nat} {cs : List Char}, print ascii room v = .ok cs →
    ∀ (fuel : Nat) (rest : List CodePoint), 2 * cs.length ≤ fuel → EndsValue rest →
      parseValue fuel room (ofChars cs ++ rest) = .ok (v.normal, rest)

variable {ascii : Bool} {room fuel : Nat}

theorem commaSeparated_cons_cons (first second : List Char) (others : List (List Char)) :
    commaSeparated (first :: second :: others) =
      first ++ ',' :: commaSeparated (second :: others) := rfl

theorem startsValue_commaSeparated {first : List Char} (starts : StartsValue first)
    (others : List (List Char)) : StartsValue (commaSeparated (first :: others)) := by
  obtain ⟨c, rest, rfl, visible, ne⟩ := starts
  cases others with
  | nil => exact ⟨c, rest, rfl, visible, ne⟩
  | cons second others => exact ⟨c, _, rfl, visible, ne⟩

theorem skipSpace_closing (c : Char) (h : isSpace c = false) (rest : List CodePoint) :
    skipSpace (char c :: rest) = char c :: rest := by
  simp [skipSpace, char?, h]

/-- The items of an array are read back up to its closing bracket. -/
theorem parseItems_printItems {items : List Value} (back : ∀ v ∈ items, ReadsBack ascii v)
    (ne : items ≠ []) {parts : List (List Char)} (printed : printItems ascii room items = .ok parts)
    (enough : 2 * (commaSeparated parts).length + 1 ≤ fuel) (rest : List CodePoint) :
    parseItems fuel room (ofChars (commaSeparated parts) ++ char ']' :: rest) =
      .ok (Value.normalItems items, rest) := by
  induction items generalizing parts fuel with
  | nil => exact absurd rfl ne
  | cons v more ih =>
    obtain ⟨first, others, here, later, rfl⟩ := printItems_cons_iff.1 printed
    obtain ⟨fuel, rfl⟩ : ∃ n, fuel = n + 1 := ⟨fuel - 1, by omega⟩
    have read := back v List.mem_cons_self here fuel
    cases more with
    | nil =>
      cases later
      rw [commaSeparated] at enough ⊢
      rw [parseItems, read _ (by omega) (endsValue_cons (by simp) rest)]
      rfl
    | cons w more =>
      obtain ⟨second, others, next, -, rfl⟩ := printItems_cons_iff.1 later
      rw [commaSeparated_cons_cons, List.length_append, List.length_cons] at enough
      have tail := ih (fun x mem => back x (List.mem_cons_of_mem _ mem)) (List.cons_ne_nil _ _) later
        (show 2 * _ + 1 ≤ fuel by omega)
      have visible := (startsValue_commaSeparated (startsValue_print next) others).skipSpace
        (char ']' :: rest)
      rw [commaSeparated_cons_cons, ofChars_append, ofChars_cons, List.append_assoc, parseItems,
        List.cons_append, read _ (by omega) (endsValue_cons (by simp) _)]
      simp only [bind, Except.bind, skipSpace_closing ',' rfl, visible, tail]
      rfl

/-- The members of an object are read back up to its closing brace. -/
theorem parseMembers_printEntries {entries : List (Value × Value)}
    (back : ∀ entry ∈ entries, ReadsBack ascii entry.2) (ne : entries ≠ [])
    {parts : List (List Char)} (printed : printEntries ascii room entries = .ok parts)
    (enough : 2 * (commaSeparated parts).length + 1 ≤ fuel) (rest : List CodePoint) :
    parseMembers fuel room (ofChars (commaSeparated parts) ++ char '\x7d' :: rest) =
      .ok (Value.normalEntries entries, rest) := by
  induction entries generalizing parts fuel with
  | nil => exact absurd rfl ne
  | cons entry more ih =>
    obtain ⟨k, v⟩ := entry
    obtain ⟨value, others, -, here, later, rfl⟩ := printEntries_cons_iff.1 printed
    obtain ⟨fuel, rfl⟩ : ∃ n, fuel = n + 1 := ⟨fuel - 1, by omega⟩
    have read : ReadsBack ascii v := back (k, v) List.mem_cons_self
    have visible := (startsValue_print here).skipSpace
    have member : ∀ tail, ofChars (quoted ascii k.keySpelling.points ++ ':' :: value) ++ tail =
        char '"' :: (ofChars (k.keySpelling.points.flatMap (escapePoint ascii)) ++
          char '"' :: char ':' :: (ofChars value ++ tail)) := by
      intro tail
      rw [ofChars_append, ofChars_cons, List.append_assoc, ofChars_quoted_append]
      rfl
    cases more with
    | nil =>
      cases later
      rw [commaSeparated] at enough ⊢
      rw [List.length_append, List.length_cons] at enough
      rw [member, parseMembers, readText?_flatMap]
      simp only [skipSpace_closing ':' rfl, visible,
        read here fuel _ (by omega) (endsValue_cons (c := '\x7d') (by simp) rest)]
      simp only [bind, Except.bind, skipSpace_closing '\x7d' rfl, Value.normalEntries, Text.joined_eq]
    | cons entry' more =>
      obtain ⟨k', v'⟩ := entry'
      obtain ⟨value', others, -, next, -, rfl⟩ := printEntries_cons_iff.1 later
      rw [commaSeparated_cons_cons, List.length_append, List.length_cons, List.length_append,
        List.length_cons] at enough
      have tail := ih (fun x mem => back x (List.mem_cons_of_mem _ mem)) (List.cons_ne_nil _ _) later
        (show 2 * _ + 1 ≤ fuel by omega)
      have starts : StartsValue (quoted ascii k'.keySpelling.points ++ ':' :: value') :=
        ⟨'"', _, rfl, rfl, by decide⟩
      have visible' := (startsValue_commaSeparated starts others).skipSpace (char '\x7d' :: rest)
      rw [commaSeparated_cons_cons, ofChars_append, ofChars_cons, List.append_assoc, member,
        parseMembers, readText?_flatMap]
      simp only [skipSpace_closing ':' rfl, visible, List.cons_append,
        read here fuel _ (by omega) (endsValue_cons (c := ',') (by simp) _)]
      simp only [bind, Except.bind, skipSpace_closing ',' rfl, visible', tail, Value.normalEntries,
        Text.joined_eq]

/-- The text of a value leaves fuel for at least one step. -/
theorem exists_fuel {cs : List Char} (starts : StartsValue cs) (enough : 2 * cs.length ≤ fuel) :
    ∃ n, fuel = n + 1 := by
  obtain ⟨c, rest, rfl, -, -⟩ := starts
  rw [List.length_cons] at enough
  exact ⟨fuel - 1, by omega⟩

/-- The text of an array is read back as the list of its items' normal forms. -/
theorem parseValue_array {items : List Value} (back : ∀ v ∈ items, ReadsBack ascii v)
    {parts : List (List Char)} (printed : printItems ascii room items = .ok parts)
    (enough : 2 * ('[' :: commaSeparated parts ++ [']']).length ≤ fuel) (rest : List CodePoint) :
    parseValue fuel (room + 1) (ofChars ('[' :: commaSeparated parts ++ [']']) ++ rest) =
      .ok (.list (Value.normalItems items), rest) := by
  rw [List.length_append, List.length_cons, List.length_singleton] at enough
  obtain ⟨fuel, rfl⟩ : ∃ n, fuel = n + 1 := ⟨fuel - 1, by omega⟩
  rw [ofChars_append, List.append_assoc, ofChars_cons, List.cons_append, parseValue]
  cases items with
  | nil =>
    cases printed
    rfl
  | cons v more =>
    obtain ⟨first, others, here, -, rfl⟩ := printItems_cons_iff.1 printed
    have starts := startsValue_commaSeparated (startsValue_print here) others
    have read := parseItems_printItems back (List.cons_ne_nil _ _) printed
      (show 2 * _ + 1 ≤ fuel by omega) rest
    rw [starts.skipSpace]
    obtain ⟨c, cs, text, -, inside⟩ := starts
    rw [text, ofChars_cons, List.cons_append] at read ⊢
    split
    case h_1 closing => exact absurd (char.inj (List.cons.inj closing).1) inside
    case h_2 =>
      rw [show ofChars [']'] ++ rest = char ']' :: rest from rfl, read]
      rfl

/-- The text of an object is read back as the mapping of its entries' normal forms. -/
theorem parseValue_object {entries : List (Value × Value)}
    (back : ∀ entry ∈ entries, ReadsBack ascii entry.2) {parts : List (List Char)}
    (printed : printEntries ascii room entries = .ok parts)
    (enough : 2 * ('\x7b' :: commaSeparated parts ++ ['\x7d']).length ≤ fuel)
    (rest : List CodePoint) :
    parseValue fuel (room + 1) (ofChars ('\x7b' :: commaSeparated parts ++ ['\x7d']) ++ rest) =
      .ok ((Value.map entries).normal, rest) := by
  rw [List.length_append, List.length_cons, List.length_singleton] at enough
  obtain ⟨fuel, rfl⟩ : ∃ n, fuel = n + 1 := ⟨fuel - 1, by omega⟩
  rw [ofChars_append, List.append_assoc, ofChars_cons, List.cons_append, parseValue]
  cases entries with
  | nil =>
    cases printed
    rfl
  | cons entry more =>
    obtain ⟨k, v⟩ := entry
    obtain ⟨value, others, -, -, -, rfl⟩ := printEntries_cons_iff.1 printed
    have starts : StartsValue (quoted ascii k.keySpelling.points ++ ':' :: value) :=
      ⟨'"', _, rfl, rfl, by decide⟩
    have read := parseMembers_printEntries back (List.cons_ne_nil _ _) printed
      (show 2 * _ + 1 ≤ fuel by omega) rest
    rw [(startsValue_commaSeparated starts others).skipSpace]
    obtain ⟨cs, text⟩ : ∃ cs, commaSeparated ((quoted ascii k.keySpelling.points ++ ':' :: value) ::
        others) = '"' :: cs := by
      cases others <;> exact ⟨_, rfl⟩
    rw [text, ofChars_cons, List.cons_append] at read ⊢
    split
    case h_1 closing => exact absurd (char.inj (List.cons.inj closing).1) (by decide)
    case h_2 =>
      rw [show ofChars ['\x7d'] ++ rest = char '\x7d' :: rest from rfl, read, Value.normal,
        ← Entries.ofList_eq_latest keyEquality_sameKey]
      rfl

/-- A value that is written as a number or a word. -/
theorem readsBack_scalar {v : Value} {text : List Char}
    (written : ∀ {room cs}, print ascii room v = .ok cs → cs = text) (starts : StartsScalar text)
    (read : ∀ {more}, EndsWord more → parseWord (text ++ more) = .ok (v.normal, more)) :
    ReadsBack ascii v := by
  intro room cs printed fuel rest enough ends
  obtain rfl := written printed
  obtain ⟨fuel, rfl⟩ := exists_fuel starts.startsValue enough
  rw [parseValue_scalar fuel room starts]
  exact parseScalar_of_parseWord read ends

/-- A value that is written as a quoted text. -/
theorem readsBack_quoted {v : Value} {ps : List CodePoint}
    (written : ∀ room, print ascii room v = .ok (quoted ascii ps))
    (normal : v.normal = .str (.ofPoints (joinPairs ps))) : ReadsBack ascii v := by
  intro room cs printed fuel rest enough ends
  rw [written, Except.ok.injEq] at printed
  subst printed
  obtain ⟨fuel, rfl⟩ := exists_fuel (startsValue_quoted ps) enough
  rw [normal]
  exact parseValue_quoted fuel room ascii ps rest

/-- Characters are read back as they were written. -/
theorem readsBack_characters {v : Value} {cs : List Char}
    (written : ∀ room, print ascii room v = .ok (quoted ascii (ofChars cs)))
    (normal : v.normal = .str (String.ofList cs)) : ReadsBack ascii v :=
  readsBack_quoted written (by rw [normal, joinPairs_ofChars, Text.ofPoints_ofChars])

/-- Printed values are read back as their normal form. -/
theorem parseValue_print (v : Value) : ReadsBack ascii v := by
  induction v using Value.containerInduction with
  | null =>
    refine readsBack_scalar (fun printed => ?_) startsScalar_nullText fun ends => rfl
    rw [print] at printed
    exact (Except.ok.inj printed).symm
  | bool b =>
    refine readsBack_scalar (fun printed => ?_) (startsScalar_boolText b) fun ends => ?_
    · rw [print] at printed
      exact (Except.ok.inj printed).symm
    · cases b <;> rfl
  | int n =>
    intro room cs printed
    have small : exceedsDigitLimit n = false := by
      rw [print] at printed
      exact (intText_eq_ok_iff.1 printed).1
    refine readsBack_scalar (fun printed => ?_) (startsScalar_integerText n)
      (parseWord_integerText small) printed
    rw [print] at printed
    exact (intText_eq_ok_iff.1 printed).2
  | float d =>
    refine readsBack_scalar (fun printed => ?_) (startsScalar_doubleText d)
      (parseWord_doubleText d)
    rw [print] at printed
    exact (Except.ok.inj printed).symm
  | str t =>
    refine readsBack_quoted (fun room => by rw [print]) ?_
    rw [Value.normal, Text.joined_eq]
  | date d => exact readsBack_characters (fun room => by rw [print]) (by rw [Value.normal])
  | datetime t => exact readsBack_characters (fun room => by rw [print]) (by rw [Value.normal])
  | list items ih | tuple items ih =>
    intro room cs printed fuel rest enough ends
    cases room with
    | zero => rw [print] at printed; cases printed
    | succ room =>
      rw [print] at printed
      obtain ⟨parts, inner, rfl⟩ := map_eq_ok_iff.1 printed
      exact parseValue_array ih inner enough rest
  | map entries ih =>
    intro room cs printed fuel rest enough ends
    cases room with
    | zero => rw [print] at printed; cases printed
    | succ room =>
      rw [print] at printed
      obtain ⟨parts, inner, rfl⟩ := map_eq_ok_iff.1 printed
      exact parseValue_object ih inner enough rest
  | bytes bs | callback c | foreign mark =>
    intro room cs printed
    rw [print] at printed
    cases printed

/-- Blanks in front of a JSON text do not count. -/
theorem parse_blanks_encode {v : Value} {text : String} {blanks : List Char}
    (blank : ∀ c ∈ blanks, isSpace c = true) (encoded : encode ascii v = .ok text) :
    parse (blanks ++ text.toList) = .ok v.normal := by
  obtain ⟨cs, printed, rfl⟩ := map_eq_ok_iff.1 encoded
  have visible := (startsValue_print printed).skipSpace []
  have skipped : skipSpace (ofChars (blanks ++ cs)) = skipSpace (ofChars cs) := by
    rw [ofChars_append]
    exact List.dropWhile_append_of_pos (List.forall_mem_map.2 blank)
  have read := parseValue_print v printed (2 * (ofChars (blanks ++ cs)).length + 2) []
    (by rw [length_ofChars, List.length_append]; omega) endsValue_nil
  rw [List.append_nil] at visible read
  rw [String.toList_ofList, parse, parsePoints, parseWithin, skipped, visible, read]
  rfl

/-- A JSON text is read as the normal form of the value it was written from. -/
theorem parse_encode {v : Value} {text : String} (encoded : encode ascii v = .ok text) :
    parse text.toList = .ok v.normal :=
  parse_blanks_encode (List.forall_mem_nil _) encoded

/-- A value has a JSON text exactly if it is writable and nested at most `maxDepth` levels deep. -/
theorem exists_encode_iff (v : Value) :
    (∃ text, encode ascii v = .ok text) ↔ v.writable = true ∧ v.depth ≤ maxDepth := by
  rw [encode, exists_map_eq_ok_iff, exists_print_iff]

end EventTracker.Json
