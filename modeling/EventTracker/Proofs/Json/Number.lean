import EventTracker.Json.Parser
import EventTracker.Json.Printer
import EventTracker.Proofs.Double.Shortest
import EventTracker.Proofs.Text.CodePoint
import EventTracker.Proofs.Text.Digits

/-!
# Numbers are read as they were written

Integers within the digit limit and doubles are read back from their JSON text, whatever
ends the value after them. A double keeps its sign and its rank; a NaN is read as the NaN
without a payload.
-/

namespace EventTracker

/-- The double that is read for a written one. -/
def Double.readBack : Double → Double
  | .nan _ => .nan 0
  | d => d

namespace Json

/-- Characters that can follow a number or a word: none, or a comma or a closing bracket first. -/
def EndsWord (rest : List Char) : Prop := ∀ c ∈ rest.head?, c = ',' ∨ c = ']' ∨ c = '\x7d'

theorem endsWord_nil : EndsWord [] := by
  intro c mem
  cases mem

theorem endsWord_cons {c : Char} (h : c = ',' ∨ c = ']' ∨ c = '\x7d') (rest : List Char) :
    EndsWord (c :: rest) := by
  intro c' mem
  cases mem
  exact h

theorem EndsWord.noDigit {rest : List Char} (ends : EndsWord rest) : NoDigit rest := by
  intro c mem
  rcases ends c mem with rfl | rfl | rfl <;> rfl

theorem EndsWord.splitFraction {rest : List Char} (ends : EndsWord rest) :
    splitFraction rest = ([], rest) := by
  cases rest with
  | nil => rfl
  | cons c rest => rcases ends c rfl with rfl | rfl | rfl <;> rfl

theorem EndsWord.splitExponent {rest : List Char} (ends : EndsWord rest) :
    splitExponent rest = (none, rest) := by
  cases rest with
  | nil => rfl
  | cons c rest => rcases ends c rfl with rfl | rfl | rfl <;> rfl

/-! ## The parts of a number -/

theorem splitWhole_zero (rest : List Char) : splitWhole ('0' :: rest) = (['0'], rest) := rfl

theorem splitWhole_of_ne_zero {c : Char} {cs rest : List Char} (ne : c ≠ '0')
    (all : AllDigits (c :: cs)) (stop : NoDigit rest) :
    splitWhole (c :: cs ++ rest) = (c :: cs, rest) := by
  unfold splitWhole
  split
  case h_1 zero => exact absurd (List.cons.inj zero).1 ne
  case h_2 => rw [takeWhile_isDigit all stop, dropWhile_isDigit all stop]

theorem splitWhole_toDigits (n : Nat) {rest : List Char} (stop : NoDigit rest) :
    splitWhole (Nat.toDigits 10 n ++ rest) = (Nat.toDigits 10 n, rest) := by
  by_cases zero : n = 0
  · rw [zero]
    rfl
  · obtain ⟨c, cs, eq, ne⟩ := exists_toDigits_eq_cons (Nat.pos_of_ne_zero zero)
    have all := allDigits_toDigits n
    rw [eq] at all ⊢
    exact splitWhole_of_ne_zero ne all stop

theorem splitFraction_point {digits rest : List Char} (ne : digits ≠ []) (all : AllDigits digits)
    (stop : NoDigit rest) : splitFraction ('.' :: (digits ++ rest)) = (digits, rest) := by
  unfold splitFraction
  simp only [takeWhile_isDigit all stop, dropWhile_isDigit all stop, if_neg ne]

theorem splitFraction_mark (rest : List Char) : splitFraction ('e' :: rest) = ([], 'e' :: rest) := rfl

theorem splitExponent_exponentText (order : Int) {rest : List Char} (stop : NoDigit rest) :
    splitExponent ('e' :: (Double.exponentText order ++ rest)) = (some order, rest) := by
  let digits := List.replicate (2 - (Nat.toDigits 10 order.natAbs).length) '0' ++
    Nat.toDigits 10 order.natAbs
  have all : AllDigits digits := (allDigits_replicate_zero _).append (allDigits_toDigits _)
  have ne : digits ≠ [] := List.append_ne_nil_of_right_ne_nil _ Nat.toDigits_ne_nil
  have value : Nat.ofDigitChars 10 digits 0 = order.natAbs := by
    rw [ofDigitChars_zeros_append, Nat.ofDigitChars_ten_toDigits]
  by_cases negative : order < 0
  · have text : Double.exponentText order = '-' :: digits := by
      simp only [Double.exponentText, if_pos negative, List.cons_append, digits]
    rw [text, splitExponent, if_pos (Or.inl rfl)]
    simp only [List.cons_append, splitSign, takeWhile_isDigit all stop,
      dropWhile_isDigit all stop, if_neg ne, value, if_true]
    rw [show (-(order.natAbs : Int)) = order by omega]
  · have text : Double.exponentText order = '+' :: digits := by
      simp only [Double.exponentText, if_neg negative, List.cons_append, digits]
    rw [text, splitExponent, if_pos (Or.inl rfl)]
    simp only [List.cons_append, splitSign, takeWhile_isDigit all stop,
      dropWhile_isDigit all stop, if_neg ne, value]
    rw [show (order.natAbs : Int) = order by omega]
    rfl

/-- A number with a fraction or an exponent is a double. -/
theorem parseMagnitude_float (negative : Bool) {cs whole afterWhole fraction afterFraction rest : List Char}
    {exponent : Option Int} (hw : splitWhole cs = (whole, afterWhole)) (ne : whole ≠ [])
    (hf : splitFraction afterWhole = (fraction, afterFraction))
    (he : splitExponent afterFraction = (exponent, rest))
    (float : ¬(fraction = [] ∧ exponent = none)) :
    parseMagnitude negative cs =
      .ok (.float (.ofDecimal negative (Nat.ofDigitChars 10 (whole ++ fraction) 0)
        (exponent.getD 0 - fraction.length)), rest) := by
  unfold parseMagnitude
  rw [hw]
  simp only [if_neg ne, hf, he, if_neg float]

/-! ## Integers -/

theorem length_toDigits_le_digitLimit {n : Int} (small : exceedsDigitLimit n = false) :
    (Nat.toDigits 10 n.natAbs).length ≤ digitLimit := by
  unfold exceedsDigitLimit at small
  have pos : 0 < digitLimit := by decide
  -- the power itself is never to be computed
  generalize digitLimit = limit at small pos ⊢
  exact (Nat.length_toDigits_le_iff (by decide) pos).2 (Nat.lt_of_not_le (of_decide_eq_false small))

theorem parseMagnitude_toDigits (negative : Bool) {n : Nat}
    (small : (Nat.toDigits 10 n).length ≤ digitLimit) {rest : List Char} (ends : EndsWord rest) :
    parseMagnitude negative (Nat.toDigits 10 n ++ rest) =
      .ok (.int (if negative then -(n : Int) else n), rest) := by
  unfold parseMagnitude
  rw [splitWhole_toDigits n ends.noDigit]
  simp only [if_neg Nat.toDigits_ne_nil, ends.splitFraction, ends.splitExponent, and_self, if_true,
    if_neg (Nat.not_lt.2 small), Nat.ofDigitChars_ten_toDigits]

/-! ## Doubles -/

section Layout

variable (negative : Bool) {c : Char} {cs rest : List Char} (ne : c ≠ '0')
  (all : AllDigits (c :: cs)) (ends : EndsWord rest)

include all ends in
/-- All digits stand behind the point, after zeros. -/
theorem parseMagnitude_behind_point {order : Int} (below : order < 0) :
    parseMagnitude negative (Double.positional (c :: cs) order ++ rest) =
      .ok (.float (.ofDecimal negative (Nat.ofDigitChars 10 (c :: cs) 0) (order - cs.length)),
        rest) := by
  let fraction := List.replicate (-order - 1).toNat '0' ++ c :: cs
  have digits : AllDigits fraction := (allDigits_replicate_zero _).append all
  have some_digit : fraction ≠ [] := List.append_ne_nil_of_right_ne_nil _ (List.cons_ne_nil c cs)
  have value : Nat.ofDigitChars 10 (['0'] ++ fraction) 0 = Nat.ofDigitChars 10 (c :: cs) 0 := by
    rw [show ['0'] ++ fraction = List.replicate 1 '0' ++ fraction from rfl,
      ofDigitChars_zeros_append, ofDigitChars_zeros_append]
  have exponent : (none : Option Int).getD 0 - (fraction.length : Int) = order - cs.length := by
    simp only [fraction, List.length_append, List.length_replicate, List.length_cons,
      Option.getD_none]
    omega
  have text : Double.positional (c :: cs) order ++ rest = '0' :: '.' :: (fraction ++ rest) := by
    simp [Double.positional, if_pos below, fraction]
  rw [text, parseMagnitude_float negative (splitWhole_zero _) (List.cons_ne_nil _ _)
    (splitFraction_point some_digit digits ends.noDigit) ends.splitExponent (by simp [some_digit]),
    value, exponent]

include ne all ends in
/-- The digits end before the point, and zeros fill the places up to it. -/
theorem parseMagnitude_before_point {order : Int} (above : 0 ≤ order)
    (short : cs.length + 1 ≤ (order + 1).toNat) :
    ∃ zeros : Nat, parseMagnitude negative (Double.positional (c :: cs) order ++ rest) =
      .ok (.float (.ofDecimal negative (Nat.ofDigitChars 10 (c :: cs) 0 * 10 ^ zeros)
        (order - cs.length - zeros)), rest) := by
  let padding := (order + 1).toNat - (cs.length + 1)
  refine ⟨padding + 1, ?_⟩
  have digits : AllDigits (c :: (cs ++ List.replicate padding '0')) :=
    all.append (allDigits_replicate_zero padding)
  have zero : AllDigits ['0'] := allDigits_replicate_zero 1
  have value : Nat.ofDigitChars 10 (c :: (cs ++ List.replicate padding '0') ++ ['0']) 0 =
      Nat.ofDigitChars 10 (c :: cs) 0 * 10 ^ (padding + 1) := by
    rw [← ofDigitChars_append_zeros, ← List.replicate_append_replicate, ← List.append_assoc]
    rfl
  have exponent : (none : Option Int).getD 0 - (['0'].length : Int) =
      order - cs.length - (padding + 1 : Nat) := by
    simp only [padding, List.length_singleton, Option.getD_none]
    omega
  have text : Double.positional (c :: cs) order ++ rest =
      c :: (cs ++ List.replicate padding '0') ++ '.' :: (['0'] ++ rest) := by
    simp [Double.positional, if_neg (Int.not_lt.2 above), short, padding]
  rw [text, parseMagnitude_float negative (splitWhole_of_ne_zero ne digits (noDigit_cons rfl _))
    (List.cons_ne_nil _ _)
    (splitFraction_point (List.cons_ne_nil _ _) zero ends.noDigit) ends.splitExponent (by simp),
    value, exponent]

include ne all ends in
/-- The point stands between two digits. -/
theorem parseMagnitude_around_point {order : Int} (above : 0 ≤ order)
    (long : (order + 1).toNat < cs.length + 1) :
    parseMagnitude negative (Double.positional (c :: cs) order ++ rest) =
      .ok (.float (.ofDecimal negative (Nat.ofDigitChars 10 (c :: cs) 0) (order - cs.length)),
        rest) := by
  obtain ⟨n, whole_eq⟩ : ∃ n, (order + 1).toNat = n + 1 := ⟨order.toNat, by omega⟩
  have front : AllDigits (c :: cs.take n) := fun d mem => all d (List.mem_of_mem_take (i := n + 1) mem)
  have back : AllDigits (cs.drop n) := fun d mem =>
    all d (List.mem_cons_of_mem _ (List.mem_of_mem_drop mem))
  have some_digit : cs.drop n ≠ [] := by
    intro empty
    have := List.drop_eq_nil_iff.1 empty
    omega
  have exponent : (none : Option Int).getD 0 - ((cs.drop n).length : Int) = order - cs.length := by
    simp only [List.length_drop, Option.getD_none]
    omega
  have text : Double.positional (c :: cs) order ++ rest =
      c :: cs.take n ++ '.' :: (cs.drop n ++ rest) := by
    simp [Double.positional, if_neg (Int.not_lt.2 above), whole_eq, show ¬cs.length ≤ n by omega]
  have digits : c :: cs.take n ++ cs.drop n = c :: cs := by
    rw [List.cons_append, List.take_append_drop]
  rw [text, parseMagnitude_float negative (splitWhole_of_ne_zero ne front (noDigit_cons rfl _))
    (List.cons_ne_nil _ _) (splitFraction_point some_digit back ends.noDigit) ends.splitExponent
    (by simp only [some_digit, false_and, not_false_eq_true]), digits, exponent]

include ne all ends in
/-- All digits but the first stand behind the point, and an exponent follows. -/
theorem parseMagnitude_scientific (order : Int) :
    parseMagnitude negative (Double.scientific (c :: cs) order ++ rest) =
      .ok (.float (.ofDecimal negative (Nat.ofDigitChars 10 (c :: cs) 0) (order - cs.length)),
        rest) := by
  have first : AllDigits [c] := fun d mem => all d (List.mem_singleton.1 mem ▸ List.mem_cons_self)
  have whole : ∀ tail, NoDigit tail → splitWhole (c :: [] ++ tail) = ([c], tail) := fun _ stop =>
    splitWhole_of_ne_zero ne first stop
  have exponent := splitExponent_exponentText order ends.noDigit
  cases cs with
  | nil =>
    have text : Double.scientific [c] order ++ rest =
        c :: [] ++ 'e' :: (Double.exponentText order ++ rest) := rfl
    rw [text, parseMagnitude_float negative (whole _ (noDigit_cons rfl _)) (List.cons_ne_nil _ _)
      (splitFraction_mark _) exponent (by simp)]
    rfl
  | cons d ds =>
    have others : AllDigits (d :: ds) := fun x mem => all x (List.mem_cons_of_mem _ mem)
    have text : Double.scientific (c :: d :: ds) order ++ rest =
        c :: [] ++ '.' :: (d :: ds ++ 'e' :: (Double.exponentText order ++ rest)) := by
      simp [Double.scientific]
    rw [text, parseMagnitude_float negative (whole _ (noDigit_cons rfl _)) (List.cons_ne_nil _ _)
      (splitFraction_point (List.cons_ne_nil _ _) others (noDigit_cons rfl _)) exponent (by simp)]
    rfl

include ne all ends in
/-- In either layout the digits are read with the power of ten that the order gives them. -/
theorem exists_parseMagnitude_layout (order : Int) :
    ∃ zeros : Nat, parseMagnitude negative
        ((if -4 ≤ order ∧ order < 16 then Double.positional (c :: cs) order
          else Double.scientific (c :: cs) order) ++ rest) =
      .ok (.float (.ofDecimal negative (Nat.ofDigitChars 10 (c :: cs) 0 * 10 ^ zeros)
        (order - cs.length - zeros)), rest) := by
  have without_zeros : ∀ {text : List Char},
      parseMagnitude negative text =
        .ok (.float (.ofDecimal negative (Nat.ofDigitChars 10 (c :: cs) 0) (order - cs.length)),
          rest) →
      ∃ zeros : Nat, parseMagnitude negative text =
        .ok (.float (.ofDecimal negative (Nat.ofDigitChars 10 (c :: cs) 0 * 10 ^ zeros)
          (order - cs.length - zeros)), rest) := by
    intro text read
    refine ⟨0, ?_⟩
    rw [read, Nat.pow_zero, Nat.mul_one, Int.natCast_zero, Int.sub_zero]
  split
  case isTrue =>
    by_cases below : order < 0
    · exact without_zeros (parseMagnitude_behind_point negative all ends below)
    · by_cases short : cs.length + 1 ≤ (order + 1).toNat
      · exact parseMagnitude_before_point negative ne all ends (by omega) short
      · exact without_zeros (parseMagnitude_around_point negative ne all ends (by omega) (by omega))
  case isFalse => exact without_zeros (parseMagnitude_scientific negative ne all ends order)

end Layout

/-- The digits of a positive rank, without the zeros at their end, and the order of the first. -/
theorem exists_magnitudeText_eq {rank : Nat} (pos : 0 < rank) (finite : rank ≤ infinityRank) :
    ∃ (c : Char) (cs : List Char) (order : Int), c ≠ '0' ∧ AllDigits (c :: cs) ∧
      0 < Nat.ofDigitChars 10 (c :: cs) 0 ∧
      Double.rankOfDecimal (Nat.ofDigitChars 10 (c :: cs) 0) (order - cs.length) = rank ∧
      Double.magnitudeText rank =
        if -4 ≤ order ∧ order < 16 then Double.positional (c :: cs) order
        else Double.scientific (c :: cs) order := by
  obtain ⟨c, cs, zeros, stripped, ne, all, value, length_eq⟩ :=
    exists_toDigits_stripped (Double.shortest_pos pos finite)
  have digits_pos : 0 < Nat.ofDigitChars 10 (c :: cs) 0 := by
    apply Nat.pos_of_ne_zero
    intro none
    have := Double.shortest_pos pos finite
    rw [none, Nat.zero_mul] at value
    omega
  let order := (Double.shortest rank).2 + (Nat.toDigits 10 (Double.shortest rank).1).length - 1
  refine ⟨c, cs, order, ne, all, digits_pos, ?_, ?_⟩
  · have exponent : order - cs.length - zeros = (Double.shortest rank).2 := by
      simp only [order, length_eq]
      omega
    rw [← Double.rankOfDecimal_mul_pow digits_pos zeros, value, exponent]
    exact Double.rankOfDecimal_shortest pos finite
  · simp only [Double.magnitudeText, if_neg (Nat.ne_of_gt pos), stripped, order]

theorem parseMagnitude_magnitudeText (negative : Bool) {rank : Nat} (finite : rank ≤ infinityRank)
    {rest : List Char} (ends : EndsWord rest) :
    parseMagnitude negative (Double.magnitudeText rank ++ rest) =
      .ok (.float (.ofRank negative rank), rest) := by
  by_cases zero : rank = 0
  · have text : Double.magnitudeText rank ++ rest = '0' :: '.' :: (['0'] ++ rest) := by
      rw [zero]
      rfl
    have zero_digit : AllDigits ['0'] := allDigits_replicate_zero 1
    rw [text, parseMagnitude_float negative (splitWhole_zero _) (List.cons_ne_nil _ _)
      (splitFraction_point (List.cons_ne_nil _ _) zero_digit ends.noDigit) ends.splitExponent
      (by simp), zero]
    rfl
  · obtain ⟨c, cs, order, ne, all, digits_pos, reads, text⟩ :=
      exists_magnitudeText_eq (Nat.pos_of_ne_zero zero) finite
    obtain ⟨zeros, parsed⟩ := exists_parseMagnitude_layout negative ne all ends order
    rw [text, parsed, Double.ofDecimal, Double.rankOfDecimal_mul_pow digits_pos, reads]

/-! ## Words and signs -/

/-- No word begins with a digit. -/
theorem parseWord_digit {c : Char} (h : c.isDigit = true) (cs : List Char) :
    parseWord (c :: cs) = parseMagnitude false (c :: cs) := by
  have no_word : ∀ w ∈ ['n', 't', 'f', 'N', 'I', '-'], w ≠ c := by
    rintro w mem rfl
    simp only [List.mem_cons, List.not_mem_nil, or_false] at mem
    rcases mem with rfl | rfl | rfl | rfl | rfl | rfl <;> cases h
  simp only [List.mem_cons, List.not_mem_nil, or_false, forall_eq_or_imp, forall_eq] at no_word
  have minus : c ≠ '-' := fun eq => no_word.2.2.2.2.2 eq.symm
  simp only [parseWord, words, List.findSome?_cons, List.findSome?_nil, dropWord?, if_neg no_word.1,
    if_neg no_word.2.1, if_neg no_word.2.2.1, if_neg no_word.2.2.2.1, if_neg no_word.2.2.2.2.1,
    if_neg no_word.2.2.2.2.2, Option.map_none]
  split
  case h_1 eq => exact absurd (List.cons.inj eq).1 minus
  case h_2 => rfl

/-- Only one word begins with a minus, and a letter follows there. -/
theorem parseWord_minus {c : Char} (h : c.isDigit = true) (cs : List Char) :
    parseWord ('-' :: c :: cs) = parseMagnitude true (c :: cs) := by
  have letter : 'I' ≠ c := by
    rintro rfl
    cases h
  simp [parseWord, words, dropWord?, letter]

/-! ## Numbers as values -/

theorem parseWord_integerText {n : Int} (small : exceedsDigitLimit n = false) {rest : List Char}
    (ends : EndsWord rest) : parseWord (integerText n ++ rest) = .ok (.int n, rest) := by
  have short := length_toDigits_le_digitLimit small
  obtain ⟨c, cs, text⟩ := List.exists_cons_of_ne_nil (Nat.toDigits_ne_nil (n := n.natAbs) (b := 10))
  have digit : c.isDigit = true := allDigits_toDigits n.natAbs c (text ▸ List.mem_cons_self)
  unfold integerText
  split
  case isTrue negative =>
    have parsed := parseMagnitude_toDigits true short ends
    rw [text, List.cons_append] at parsed ⊢
    rw [List.cons_append, parseWord_minus digit, parsed]
    simp only [if_true]
    rw [show (-(n.natAbs : Int)) = n by omega]
  case isFalse nonneg =>
    have parsed := parseMagnitude_toDigits false short ends
    rw [text, List.cons_append] at parsed ⊢
    rw [parseWord_digit digit, parsed]
    simp only [Bool.false_eq_true, if_false]
    rw [show (n.natAbs : Int) = n by omega]

theorem exists_magnitudeText_cons {rank : Nat} (finite : rank ≤ infinityRank) :
    ∃ c cs, Double.magnitudeText rank = c :: cs ∧ c.isDigit = true := by
  by_cases zero : rank = 0
  · exact ⟨'0', ['.', '0'], by rw [zero]; rfl, rfl⟩
  · obtain ⟨c, cs, order, -, all, -, -, text⟩ :=
      exists_magnitudeText_eq (Nat.pos_of_ne_zero zero) finite
    have first : c.isDigit = true := all c List.mem_cons_self
    rw [text]
    split
    case isTrue =>
      unfold Double.positional
      split
      case isTrue => exact ⟨'0', _, rfl, rfl⟩
      case isFalse nonneg =>
        obtain ⟨n, whole_eq⟩ : ∃ n, (order + 1).toNat = n + 1 := ⟨order.toNat, by omega⟩
        simp only [whole_eq, List.take_succ_cons]
        split <;> exact ⟨c, _, rfl, first⟩
    case isFalse => cases cs <;> exact ⟨c, _, rfl, first⟩

theorem parseWord_doubleText (d : Double) {rest : List Char} (ends : EndsWord rest) :
    parseWord (doubleText d ++ rest) = .ok (.float d.readBack, rest) := by
  cases d with
  | nan payload => rfl
  | signed negative rank =>
    have bound : rank.1 ≤ infinityRank := by have := rank.2; omega
    have back : (Double.signed negative rank).readBack = .ofRank negative rank.1 := by
      simp only [Double.readBack, Double.ofRank, Nat.min_eq_left bound]
    rw [back]
    by_cases finite : rank.1 < infinityRank
    · obtain ⟨c, cs, text, digit⟩ := exists_magnitudeText_cons bound
      have parsed : ∀ negative, parseMagnitude negative (c :: (cs ++ rest)) =
          .ok (.float (.ofRank negative rank.1), rest) := by
        intro negative
        rw [← List.cons_append, ← text]
        exact parseMagnitude_magnitudeText negative bound ends
      cases negative with
      | false =>
        simp only [doubleText, Double.textWith, if_pos finite, text, List.cons_append,
          Bool.false_eq_true, if_false]
        rw [parseWord_digit digit, parsed]
      | true =>
        simp only [doubleText, Double.textWith, if_pos finite, text, List.cons_append, if_true]
        rw [parseWord_minus digit, parsed]
    · have infinite : rank.1 = infinityRank := by omega
      cases negative with
      | false =>
        simp only [doubleText, Double.textWith, Bool.false_eq_true, if_false, infinite]
        rfl
      | true =>
        simp only [doubleText, Double.textWith, if_true, infinite]
        rfl

/-! ## In a text -/

/-- Text that can follow a value: none, or a comma or a closing bracket first. -/
def EndsValue (rest : List CodePoint) : Prop :=
  ∀ p ∈ rest.head?, ∃ c, p = .char c ∧ (c = ',' ∨ c = ']' ∨ c = '\x7d')

theorem endsValue_nil : EndsValue [] := by
  intro p mem
  cases mem

theorem endsValue_cons {c : Char} (h : c = ',' ∨ c = ']' ∨ c = '\x7d') (rest : List CodePoint) :
    EndsValue (.char c :: rest) := by
  intro p mem
  cases mem
  exact ⟨c, rfl, h⟩

theorem EndsValue.word {rest : List CodePoint} (ends : EndsValue rest) :
    EndsWord (CodePoint.splitChars rest).1 := by
  cases rest with
  | nil => exact endsWord_nil
  | cons p rest =>
    obtain ⟨c, rfl, special⟩ := ends p rfl
    exact endsWord_cons special _

/-- What is read at the front of characters is read at the front of a text. -/
theorem parseScalar_of_parseWord {cs : List Char} {v : Value}
    (read : ∀ {more}, EndsWord more → parseWord (cs ++ more) = .ok (v, more))
    {rest : List CodePoint} (ends : EndsValue rest) :
    parseScalar (CodePoint.ofChars cs ++ rest) = .ok (v, rest) := by
  rw [parseScalar, CodePoint.splitChars_ofChars_append]
  simp only [read ends.word, Except.map, CodePoint.ofChars_splitChars]

end Json

end EventTracker
