import EventTracker.Proofs.Json.Grammar
import EventTracker.Proofs.Json.Number
import EventTracker.Proofs.Json.Printing
import EventTracker.Proofs.Json.Text
import EventTracker.Proofs.Value.Finite

/-!
# Which values are written as documents

The text of a value is a document of RFC 8259 exactly if all its numbers are finite
(`isDocument_encode_iff`): NaN and infinities are written as words that stand outside of
strings, where the grammar has no such words.
-/

namespace EventTracker.Json

/-! ## Numbers -/

theorem whole_toDigits (n : Nat) : Whole (Nat.toDigits 10 n) := by
  obtain rfl | pos := Nat.eq_zero_or_pos n
  · exact .zero
  · obtain ⟨c, cs, text, first⟩ := exists_toDigits_eq_cons pos
    have all := allDigits_toDigits n
    rw [text] at all ⊢
    exact .digits first all

theorem isNumber_integerText (n : Int) : IsNumber (integerText n) := by
  have magnitude : IsMagnitude (Nat.toDigits 10 n.natAbs) := by
    have parts := IsMagnitude.parts (whole_toDigits n.natAbs) .none .none
    rwa [List.append_nil, List.append_nil] at parts
  unfold integerText
  split
  · exact .minus magnitude
  · exact .plus magnitude

theorem exponent_exponentText (order : Int) : Exponent ('e' :: Double.exponentText order) := by
  let digits := List.replicate (2 - (Nat.toDigits 10 order.natAbs).length) '0' ++
    Nat.toDigits 10 order.natAbs
  have all : Digits digits := by
    constructor
    · exact List.append_ne_nil_of_right_ne_nil _ Nat.toDigits_ne_nil
    · exact (allDigits_replicate_zero _).append (allDigits_toDigits _)
  have signed {sign : List Char} (known : sign = [] ∨ sign = ['-'] ∨ sign = ['+']) :
      Exponent ('e' :: sign ++ digits) := .digits (.inl rfl) known all
  unfold Double.exponentText
  split
  · exact signed (.inr (.inl rfl))
  · exact signed (.inr (.inr rfl))

section Layout

variable {c : Char} {cs : List Char} (first : c ≠ '0') (all : AllDigits (c :: cs))

include first all

theorem isMagnitude_positional (order : Int) :
    IsMagnitude (Double.positional (c :: cs) order) := by
  unfold Double.positional
  split
  case isTrue below =>
    let fraction := List.replicate (-order - 1).toNat '0' ++ c :: cs
    have digits : Digits fraction :=
      ⟨List.append_ne_nil_of_right_ne_nil _ (List.cons_ne_nil _ _),
        (allDigits_replicate_zero _).append all⟩
    have parts := IsMagnitude.parts .zero (.digits digits) .none
    rwa [List.append_nil] at parts
  case isFalse above =>
    simp only
    split
    case isTrue short =>
      have zeros := allDigits_replicate_zero ((order + 1).toNat - (c :: cs).length)
      have whole : Whole (c :: (cs ++ List.replicate _ '0')) := .digits first (all.append zeros)
      have digits : Digits ['0'] := ⟨List.cons_ne_nil _ _, allDigits_replicate_zero 1⟩
      have parts := IsMagnitude.parts whole (.digits digits) .none
      rwa [List.append_nil] at parts
    case isFalse long =>
      obtain ⟨n, count⟩ : ∃ n, (order + 1).toNat = n + 1 := ⟨order.toNat, by omega⟩
      rw [count] at long ⊢
      have front : AllDigits (c :: cs.take n) := fun d mem =>
        all d (List.mem_of_mem_take (i := n + 1) mem)
      have back : Digits (cs.drop n) := by
        constructor
        · rw [List.length_cons] at long
          rw [Ne, List.drop_eq_nil_iff]
          omega
        · exact fun d mem => all d (List.mem_cons_of_mem _ (List.mem_of_mem_drop mem))
      have parts := IsMagnitude.parts (.digits first front) (.digits back) .none
      rwa [List.append_nil] at parts

theorem isMagnitude_scientific (order : Int) :
    IsMagnitude (Double.scientific (c :: cs) order) := by
  have exponent := exponent_exponentText order
  have lead : Whole [c] :=
    .digits first fun d mem => all d (List.mem_singleton.1 mem ▸ List.mem_cons_self)
  unfold Double.scientific
  split
  case h_1 none => cases none
  case h_2 d single =>
    cases single
    exact .parts lead .none exponent
  case h_3 d rest several split =>
    obtain ⟨rfl, rfl⟩ := List.cons.inj split
    have digits : Digits cs := by
      constructor
      · rintro rfl
        exact several rfl
      · exact fun d mem => all d (List.mem_cons_of_mem _ mem)
    exact .parts lead (.digits digits) exponent

end Layout

theorem isMagnitude_magnitudeText {rank : Nat} (finite : rank ≤ infinityRank) :
    IsMagnitude (Double.magnitudeText rank) := by
  obtain rfl | pos := Nat.eq_zero_or_pos rank
  · have digits : Digits ['0'] := ⟨List.cons_ne_nil _ _, allDigits_replicate_zero 1⟩
    exact .parts .zero (.digits digits) .none
  · obtain ⟨c, cs, order, first, all, -, -, text⟩ := exists_magnitudeText_eq pos finite
    rw [text]
    split
    · exact isMagnitude_positional first all order
    · exact isMagnitude_scientific first all order

theorem isNumber_doubleText {d : Double} (finite : d.isFinite = true) : IsNumber (doubleText d) := by
  cases d with
  | nan payload => cases finite
  | signed negative rank =>
    have below : rank.1 < infinityRank := by
      simpa only [Double.isFinite, decide_eq_true_eq] using finite
    have magnitude := isMagnitude_magnitudeText (Nat.le_of_lt below)
    rw [doubleText, Double.textWith, if_pos below]
    split
    · exact .minus magnitude
    · exact .plus magnitude

/-! ## Strings -/

theorem IsChars.append {cs ds : List Char} (first : IsChars cs) (next : IsChars ds) :
    IsChars (cs ++ ds) := by
  induction first with
  | nil => exact next
  | cons char others ih =>
    rw [List.append_assoc]
    exact .cons char ih

theorem IsChar.isChars {cs : List Char} (char : IsChar cs) : IsChars cs := by
  have one := IsChars.cons char .nil
  rwa [List.append_nil] at one

theorem isChar_unitEscape (unit : Nat) : IsChar (unitEscape unit) := by
  have hex : ∀ width n, ∀ d ∈ hexText width n, (hexValue? d).isSome = true := by
    intro width
    induction width with
    | zero => exact fun _ => List.forall_mem_nil _
    | succ width ih =>
      intro n
      refine List.forall_mem_append.2 ⟨ih _, List.forall_mem_singleton.2 ?_⟩
      rw [hexValue?_digitChar (Nat.mod_lt n (by decide))]
      rfl
  exact .unit (length_hexText 4 unit) (hex 4 unit)

theorem isChars_escapeChar (ascii : Bool) (c : Char) : IsChars (escapeChar ascii c) := by
  by_cases has : hasLetter c
  case pos =>
    rcases hasLetter_iff.1 has with (rfl | rfl) | rfl | rfl | rfl | rfl | rfl <;>
      exact (IsChar.letter (by decide)).isChars
  case neg =>
    rw [escapeChar_eq has]
    split
    case isTrue => exact (isChar_unitEscape _).isChars
    case isFalse visible =>
      split
      · refine (IsChar.unescaped (Nat.le_of_not_lt visible) ?_ ?_).isChars
        · exact fun quote => has (hasLetter_iff.2 (.inl (.inl quote)))
        · exact fun escape => has (hasLetter_iff.2 (.inl (.inr escape)))
      · split
        · exact (isChar_unitEscape _).isChars
        · exact (isChar_unitEscape _).isChars.append (isChar_unitEscape _).isChars

theorem isChars_escapePoint (ascii : Bool) (p : CodePoint) : IsChars (escapePoint ascii p) := by
  cases p with
  | char c => exact isChars_escapeChar ascii c
  | surrogate n => exact (isChar_unitEscape _).isChars

theorem isString_quoted (ascii : Bool) (ps : List CodePoint) : IsString (quoted ascii ps) := by
  refine .quoted ?_
  induction ps with
  | nil => exact .nil
  | cons p ps ih =>
    rw [List.flatMap_cons]
    exact (isChars_escapePoint ascii p).append ih

/-! ## Finite values -/

variable {ascii : Bool} {room : Nat}

theorem ws_nil : Ws [] := List.forall_mem_nil _

/-- Parts with commas between them are derived as the list of such parts. -/
theorem derives_commaSeparated {single list : Part} {parts : List (List Char)}
    (last : ∀ {cs}, Derives single cs → Derives list cs)
    (more : ∀ {cs rest}, Derives single cs → Derives list rest → Derives list (cs ++ ',' :: rest))
    (some_part : parts ≠ []) (all : ∀ part ∈ parts, Derives single part) :
    Derives list (commaSeparated parts) := by
  induction parts with
  | nil => exact absurd rfl some_part
  | cons part rest ih =>
    obtain ⟨first, others⟩ := List.forall_mem_cons.1 all
    cases rest with
    | nil => exact last first
    | cons next rest => exact more first (ih (List.cons_ne_nil _ _) others)

theorem derives_array {parts : List (List Char)} (all : ∀ part ∈ parts, Derives .value part) :
    Derives .value ('[' :: commaSeparated parts ++ [']']) := by
  cases parts with
  | nil => exact .emptyArray ws_nil
  | cons part rest =>
    have elements : Derives .elements (commaSeparated (part :: rest)) :=
      derives_commaSeparated .lastElement (fun one others => by
        have list := Derives.elements one ws_nil ws_nil others
        simpa using list) (List.cons_ne_nil _ _) all
    have array := Derives.array ws_nil elements ws_nil
    simpa using array

theorem derives_object {parts : List (List Char)} (all : ∀ part ∈ parts, Derives .member part) :
    Derives .value ('\x7b' :: commaSeparated parts ++ ['\x7d']) := by
  cases parts with
  | nil => exact .emptyObject ws_nil
  | cons part rest =>
    have members : Derives .members (commaSeparated (part :: rest)) :=
      derives_commaSeparated .lastMember (fun one others => by
        have list := Derives.members one ws_nil ws_nil others
        simpa using list) (List.cons_ne_nil _ _) all
    have object := Derives.object ws_nil members ws_nil
    simpa using object

/-- Values whose texts are derived as values. -/
def PrintsDerived (ascii : Bool) (v : Value) : Prop :=
  ∀ {room cs}, print ascii room v = .ok cs → Derives .value cs

theorem derives_printItems {items : List Value} (inner : ∀ v ∈ items, PrintsDerived ascii v)
    {parts : List (List Char)} (printed : printItems ascii room items = .ok parts) :
    ∀ part ∈ parts, Derives .value part := by
  induction items generalizing parts with
  | nil =>
    cases printed
    exact List.forall_mem_nil _
  | cons v rest ih =>
    obtain ⟨here, later⟩ := List.forall_mem_cons.1 inner
    obtain ⟨first, others, one, more, rfl⟩ := printItems_cons_iff.1 printed
    exact List.forall_mem_cons.2 ⟨here one, ih later more⟩

theorem derives_printEntries {entries : List (Value × Value)}
    (inner : ∀ entry ∈ entries, PrintsDerived ascii entry.2) {parts : List (List Char)}
    (printed : printEntries ascii room entries = .ok parts) :
    ∀ part ∈ parts, Derives .member part := by
  induction entries generalizing parts with
  | nil =>
    cases printed
    exact List.forall_mem_nil _
  | cons entry rest ih =>
    obtain ⟨here, later⟩ := List.forall_mem_cons.1 inner
    obtain ⟨value, others, -, one, more, rfl⟩ := printEntries_cons_iff.1 printed
    refine List.forall_mem_cons.2 ⟨?_, ih later more⟩
    have name := isString_quoted ascii entry.1.keySpelling.points
    have member := Derives.member name ws_nil ws_nil (here one)
    simpa using member

theorem printsDerived {v : Value} (finite : v.finite = true) : PrintsDerived ascii v := by
  induction v using Value.containerInduction with
  | null =>
    intro room cs printed
    cases printed
    exact .null
  | bool b =>
    intro room cs printed
    cases printed
    cases b with
    | true => exact .true
    | false => exact .false
  | int n =>
    intro room cs printed
    obtain ⟨-, rfl⟩ := intText_eq_ok_iff.1 printed
    exact .number (isNumber_integerText n)
  | float d =>
    intro room cs printed
    cases printed
    exact .number (isNumber_doubleText finite)
  | str s | date d | datetime t =>
    intro room cs printed
    cases printed
    exact .string (isString_quoted _ _)
  | list items ih | tuple items ih =>
    intro room cs printed
    cases room with
    | zero => cases printed
    | succ room =>
      obtain ⟨parts, inner, rfl⟩ := map_eq_ok_iff.1 printed
      have each := Value.itemsFinite_iff.1 finite
      exact derives_array (derives_printItems (fun v mem => ih v mem (each v mem)) inner)
  | map entries ih =>
    intro room cs printed
    cases room with
    | zero => cases printed
    | succ room =>
      obtain ⟨parts, inner, rfl⟩ := map_eq_ok_iff.1 printed
      have each := Value.entriesFinite_iff.1 finite
      exact derives_object
        (derives_printEntries (fun entry mem => ih entry mem (each entry mem)) inner)
  | bytes bs | callback c | foreign mark =>
    intro room cs printed
    cases printed

/-! ## Values that are not finite -/

/-- The words that NaN and the infinities are written as. -/
def foreignWords : List (List Char) :=
  [['N', 'a', 'N'], ['I', 'n', 'f', 'i', 'n', 'i', 't', 'y']]

/-- One of these words stands in a text outside of strings. -/
def ShowsForeign (cs : List Char) : Prop := ∃ word ∈ foreignWords, Shows word cs

theorem IsDocument.not_showsForeign {cs : List Char} (document : IsDocument cs) :
    ¬ ShowsForeign cs := by
  rintro ⟨word, mem, shown⟩
  have foreign : ∀ word ∈ foreignWords, 'N' ∈ word ∨ 'I' ∈ word := by decide
  exact document.not_shows (foreign word mem) shown

section Append

variable {cs ds : List Char}

theorem ShowsForeign.append_right (shows_ : ShowsForeign cs) (closed : Closed cs)
    (ds : List Char) : ShowsForeign (cs ++ ds) := by
  obtain ⟨word, mem, shown⟩ := shows_
  refine ⟨word, mem, ?_⟩
  rw [Shows, closed]
  exact shown.trans (List.infix_append' [] _ _)

theorem ShowsForeign.append_left (shows_ : ShowsForeign ds) (closed : Closed cs) :
    ShowsForeign (cs ++ ds) := by
  obtain ⟨word, mem, shown⟩ := shows_
  refine ⟨word, mem, ?_⟩
  rw [Shows, closed]
  exact shown.trans (List.suffix_append _ _).isInfix

end Append

/-- How a value is written that is finite or is not: scanning the text ends outside of strings, and
a foreign word stands in it if the value is not finite. -/
structure Written (finite : Bool) (cs : List Char) : Prop where
  closed : Closed cs
  foreign : finite = false → ShowsForeign cs

namespace Written

variable {a b : Bool} {cs ds : List Char}

theorem of_derives {part : Part} (derives : Derives part cs) : Written true cs :=
  ⟨derives.worded.closed, nofun⟩

theorem append (first : Written a cs) (next : Written b ds) : Written (a && b) (cs ++ ds) where
  closed := first.closed.append next.closed
  foreign := by
    intro unfinite
    obtain here | later := Bool.and_eq_false_iff.1 unfinite
    · exact (first.foreign here).append_right first.closed _
    · exact (next.foreign later).append_left first.closed

theorem of_noQuote (noQuote : '"' ∉ cs) : Written true cs := ⟨closed_of_noQuote noQuote, nofun⟩

/-- Text between brackets. -/
theorem bracketed {opening closing : Char} (written : Written a cs) (opens : '"' ≠ opening)
    (closes : '"' ≠ closing) : Written a (opening :: cs ++ [closing]) := by
  have front : Written true [opening] := of_noQuote (by simpa using opens)
  have back : Written true [closing] := of_noQuote (by simpa using closes)
  have whole := (front.append written).append back
  rwa [Bool.true_and, Bool.and_true] at whole

end Written

theorem written_doubleText (d : Double) : Written d.isFinite (doubleText d) := by
  have foreign {word : List Char} (mem : word ∈ foreignWords) (noQuote : '"' ∉ word) :
      Written false word := by
    refine ⟨closed_of_noQuote noQuote, fun _ => ⟨word, mem, ?_⟩⟩
    have same := bare_of_noQuote noQuote []
    rw [List.append_nil] at same
    rw [Shows, same]
    exact (List.prefix_append _ _).isInfix
  cases finite : d.isFinite with
  | true => exact .of_derives (.number (isNumber_doubleText finite))
  | false =>
    cases d with
    | nan payload =>
      have nan : Written false ['N', 'a', 'N'] := foreign (by decide) (by decide)
      exact nan
    | signed negative rank =>
      have above : ¬ rank.1 < infinityRank := by
        simpa only [Double.isFinite, decide_eq_false_iff_not] using finite
      have infinity : Written false ['I', 'n', 'f', 'i', 'n', 'i', 't', 'y'] :=
        foreign (by decide) (by decide)
      rw [doubleText, Double.textWith, if_neg above]
      split
      · have sign : Written true ['-'] := .of_noQuote (by decide)
        exact sign.append infinity
      · exact infinity

/-- Values that are written so. -/
def PrintsWritten (ascii : Bool) (v : Value) : Prop :=
  ∀ {room cs}, print ascii room v = .ok cs → Written v.finite cs

theorem written_commaSeparated_cons {a b : Bool} {part : List Char} {parts : List (List Char)}
    (first : Written a part) (others : Written b (commaSeparated parts))
    (none_left : parts = [] → b = true) : Written (a && b) (commaSeparated (part :: parts)) := by
  cases parts with
  | nil =>
    rw [none_left rfl, Bool.and_true]
    exact first
  | cons next rest =>
    have comma : Written true [','] := .of_noQuote (by decide)
    have list := first.append (comma.append others)
    rwa [Bool.true_and] at list

theorem written_printItems {items : List Value} (inner : ∀ v ∈ items, PrintsWritten ascii v)
    {parts : List (List Char)} (printed : printItems ascii room items = .ok parts) :
    Written (Value.itemsFinite items) (commaSeparated parts) := by
  induction items generalizing parts with
  | nil =>
    cases printed
    exact .of_noQuote List.not_mem_nil
  | cons v rest ih =>
    obtain ⟨here, later⟩ := List.forall_mem_cons.1 inner
    obtain ⟨first, others, one, more, rfl⟩ := printItems_cons_iff.1 printed
    refine written_commaSeparated_cons (here one) (ih later more) ?_
    rintro rfl
    cases rest with
    | nil => rfl
    | cons next rest =>
      obtain ⟨_, _, -, -, none⟩ := printItems_cons_iff.1 more
      cases none

theorem written_printEntries {entries : List (Value × Value)}
    (inner : ∀ entry ∈ entries, PrintsWritten ascii entry.2) {parts : List (List Char)}
    (printed : printEntries ascii room entries = .ok parts) :
    Written (Value.entriesFinite entries) (commaSeparated parts) := by
  induction entries generalizing parts with
  | nil =>
    cases printed
    exact .of_noQuote List.not_mem_nil
  | cons entry rest ih =>
    obtain ⟨here, later⟩ := List.forall_mem_cons.1 inner
    obtain ⟨value, others, -, one, more, rfl⟩ := printEntries_cons_iff.1 printed
    have name : Written true (quoted ascii entry.1.keySpelling.points ++ [':']) :=
      (Written.of_derives (.string (isString_quoted ascii _))).append (.of_noQuote (by decide))
    have member := name.append (here one)
    rw [List.append_assoc, Bool.true_and] at member
    refine written_commaSeparated_cons member (ih later more) ?_
    rintro rfl
    cases rest with
    | nil => rfl
    | cons next rest =>
      obtain ⟨_, _, -, -, -, none⟩ := printEntries_cons_iff.1 more
      cases none

theorem printsWritten (v : Value) : PrintsWritten ascii v := by
  induction v using Value.containerInduction with
  | float d =>
    intro room cs printed
    cases printed
    exact written_doubleText d
  | list items ih | tuple items ih =>
    intro room cs printed
    cases room with
    | zero => cases printed
    | succ room =>
      obtain ⟨parts, inner, rfl⟩ := map_eq_ok_iff.1 printed
      exact (written_printItems ih inner).bracketed (by decide) (by decide)
  | map entries ih =>
    intro room cs printed
    cases room with
    | zero => cases printed
    | succ room =>
      obtain ⟨parts, inner, rfl⟩ := map_eq_ok_iff.1 printed
      exact (written_printEntries ih inner).bracketed (by decide) (by decide)
  | _ =>
    intro room cs printed
    exact .of_derives (printsDerived rfl printed)

/-- The text of a value is a document exactly if the value is finite, and else a foreign word stands
in it. -/
theorem isDocument_encode_iff {v : Value} {text : String} (encoded : encode ascii v = .ok text) :
    (IsDocument text.toList ↔ v.finite = true) ∧ (ShowsForeign text.toList ↔ v.finite = false) := by
  obtain ⟨cs, printed, rfl⟩ := map_eq_ok_iff.1 encoded
  rw [String.toList_ofList]
  cases finite : v.finite with
  | true =>
    have value := printsDerived finite printed
    have document : IsDocument cs := by
      have text := IsDocument.text ws_nil value ws_nil
      rwa [List.nil_append, List.append_nil] at text
    exact ⟨iff_of_true document rfl, iff_of_false document.not_showsForeign nofun⟩
  | false =>
    have written := printsWritten v printed
    rw [finite] at written
    have foreign := written.foreign rfl
    refine ⟨iff_of_false ?_ nofun, iff_of_true foreign rfl⟩
    intro document
    exact document.not_showsForeign foreign

end EventTracker.Json
