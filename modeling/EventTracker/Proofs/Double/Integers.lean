import EventTracker.Double.Reading
import EventTracker.Proofs.Double.Shortest
import EventTracker.Proofs.Text.Digits

/-!
# Integers as doubles

The decimal text of an integer is read as the double nearest to it. That double is the
integer itself exactly if the integer is a mantissa of 53 bits times a power of two up to
2^971; no double equals any other integer.
-/

namespace EventTracker

/-! ## Reading -/

theorem isBlank_of_isDigit {c : Char} (digit : c.isDigit = true) : isBlank c = false := by
  have bounds := toNat_of_isDigit digit
  simp only [isBlank, isWhiteSpace, Bool.or_eq_false_iff, Bool.and_eq_false_iff,
    decide_eq_false_iff_not, beq_eq_false_iff_ne]
  omega

/-- The characters of an integer's text. -/
theorem isDigit_or_of_mem_integerText {n : Int} {c : Char} (mem : c ∈ integerText n) :
    c.isDigit = true ∨ c = '-' := by
  unfold integerText at mem
  split at mem
  · rcases List.mem_cons.1 mem with sign | digit
    · exact .inr sign
    · exact .inl (allDigits_toDigits _ c digit)
  · exact .inl (allDigits_toDigits _ c mem)

theorem isBlank_of_mem_integerText {n : Int} {c : Char} (mem : c ∈ integerText n) :
    isBlank c = false := by
  rcases isDigit_or_of_mem_integerText mem with digit | rfl
  · exact isBlank_of_isDigit digit
  · rfl

theorem trim_integerText {p : Char → Bool} (n : Int) (blanks : ∀ c, p c = true → isBlank c = true) :
    trim p (integerText n) = integerText n := by
  have clean (c : Char) (mem : c ∈ integerText n) : p c = false := by
    have solid := isBlank_of_mem_integerText mem
    cases blank : p c with
    | false => rfl
    | true => exact absurd (blanks c blank) (by rw [solid]; decide)
  exact trim_eq_self (fun c mem => clean c (List.mem_of_head? mem))
    fun c mem => clean c (List.mem_of_getLast? mem)

theorem dropUnderscores?_eq_self {cs : List Char} (plain : '_' ∉ cs) (before : Bool) :
    dropUnderscores? before cs = some cs := by
  induction cs generalizing before with
  | nil => rfl
  | cons c rest ih =>
    rw [List.mem_cons, not_or] at plain
    unfold dropUnderscores?
    split
    case h_1 heq => cases heq
    case h_2 heq => exact absurd (List.cons.inj heq).1.symm plain.1
    case h_3 heq =>
      obtain ⟨rfl, rfl⟩ := List.cons.inj heq
      rw [ih plain.2]
      rfl

theorem readDecimal?_of_allDigits {cs : List Char} (all : AllDigits cs) (nonempty : cs ≠ []) :
    readDecimal? cs = some (Nat.ofDigitChars 10 cs 0, 0) := by
  have stop : NoDigit [] := by rintro _ ⟨⟩
  have whole := takeWhile_isDigit all stop
  have none := dropWhile_isDigit all stop
  rw [List.append_nil] at whole none
  unfold readDecimal?
  simp [whole, none, nonempty]

namespace Double

theorem asciiDigit_of_isDigit {c : Char} (digit : c.isDigit = true) : asciiDigit c = c := by
  have bounds := toNat_of_isDigit digit
  rw [asciiDigit, digitValue?_of_isDigit digit, Option.map_some, Option.getD_some, ← Char.toNat_inj,
    Nat.toNat_digitChar_of_lt_ten (by omega)]
  omega

theorem splitSign_of_allDigits {cs : List Char} (all : AllDigits cs) :
    splitSign cs = (false, cs) := by
  unfold splitSign
  split
  case h_1 | h_2 => cases all _ List.mem_cons_self
  case h_3 => rfl

theorem map_toLower_of_allDigits {cs : List Char} (all : AllDigits cs) :
    cs.map Char.toLower = cs := by
  refine (List.map_congr_left fun c mem => ?_).trans (List.map_id cs)
  have bounds := toNat_of_isDigit (all c mem)
  refine dif_neg fun upper => ?_
  have above : 65 ≤ c.toNat := upper.1
  omega

/-- Digits are no word. -/
theorem ne_word_of_allDigits {cs : List Char} (all : AllDigits cs) {c : Char} {rest : List Char}
    (letter : c.isDigit = false) : cs.map Char.toLower ≠ c :: rest := by
  rw [map_toLower_of_allDigits all]
  rintro rfl
  rw [all c List.mem_cons_self] at letter
  cases letter

theorem readPlain?_of_digits {cs digits : List Char} {negative : Bool}
    (sign : splitSign cs = (negative, digits)) (all : AllDigits digits) (nonempty : digits ≠ []) :
    readPlain? cs = some (ofDecimal negative (Nat.ofDigitChars 10 digits 0) 0) := by
  have noWord {c : Char} {rest : List Char} (letter : c.isDigit = false) :
      digits.map Char.toLower ≠ c :: rest := ne_word_of_allDigits all letter
  simp only [readPlain?, sign]
  rw [if_neg (not_or.2 ⟨noWord rfl, noWord rfl⟩), if_neg (noWord rfl),
    readDecimal?_of_allDigits all nonempty]
  rfl

theorem splitSign_integerText (n : Int) :
    splitSign (integerText n) = (decide (n < 0), Nat.toDigits 10 n.natAbs) := by
  unfold integerText
  split
  case isTrue negative => rw [splitSign, decide_eq_true negative]
  case isFalse nonnegative =>
    rw [decide_eq_false nonnegative, splitSign_of_allDigits (allDigits_toDigits _)]

/-- The text of an integer is read as the double nearest to it. -/
theorem read?_integerText (n : Int) :
    read? (integerText n) = some (ofDecimal (n < 0) n.natAbs 0) := by
  have ascii : (integerText n).map asciiDigit = integerText n := by
    refine (List.map_congr_left fun c mem => ?_).trans (List.map_id _)
    rcases isDigit_or_of_mem_integerText mem with digit | rfl
    · exact asciiDigit_of_isDigit digit
    · rfl
  have plain : '_' ∉ integerText n := fun mem => by
    rcases isDigit_or_of_mem_integerText mem with digit | sign
    · cases digit
    · cases sign
  rw [read?, trim_integerText n fun _ => isBlank_of_isWhiteSpace, ascii,
    dropUnderscores?_eq_self plain, Option.bind_some,
    readPlain?_of_digits (splitSign_integerText n) (allDigits_toDigits _) Nat.toDigits_ne_nil,
    Nat.ofDigitChars_ten_toDigits]

/-! ## Rounding -/

/-- The nearest double to an integer as digits without an exponent is the one to the integer. -/
theorem rankOfDecimal_zero (m : Nat) : rankOfDecimal m 0 = rankOfRatio m 1 := by
  by_cases zero : m = 0
  · rw [zero, rankOfDecimal, if_pos rfl, rankOfRatio_eq_zero]
    rw [Nat.zero_mul]
    decide
  · rw [rankOfDecimal_eq (Nat.pos_of_ne_zero zero), decimalNum, decimalDen]
    simp only [Int.toNat_zero, Int.neg_zero, Nat.pow_zero, Nat.mul_one]

theorem isFinite_ofRank (negative : Bool) (rank : Nat) :
    (ofRank negative rank).isFinite = decide (rank < infinityRank) := by
  unfold ofRank isFinite
  simp only [decide_eq_decide]
  omega

/-- The nearest double to an integer, unless it is infinity. -/
theorem ofInt?_eq (n : Int) :
    ofInt? n = if (ofDecimal (n < 0) n.natAbs 0).isFinite then some (ofDecimal (n < 0) n.natAbs 0)
      else none := by
  rw [ofInt?, ofDecimal, rankOfDecimal_zero, isFinite_ofRank]
  simp only [decide_eq_true_eq]

/-- A rank whose magnitude is an integer is the rank of that integer. -/
theorem rankOfRatio_of_rankUnits {rank m : Nat} (finite : rank ≤ infinityRank)
    (whole : rankUnits rank = m * unitsPerOne) : rankOfRatio m 1 = rank := by
  rw [← rankOfRatio_rankUnits finite]
  refine rankOfRatio_congr Nat.one_pos unitsPerOne_pos ?_
  rw [whole, Nat.mul_one]

/-- The integers that a double can be: a mantissa of 53 bits, shifted by up to 971 bits. -/
def Representable (m : Nat) : Prop :=
  ∃ mantissa shift, mantissa < 2 ^ 53 ∧ shift ≤ 971 ∧ m = mantissa * 2 ^ shift

theorem representable_of_rankUnits {rank m : Nat} (finite : rank < infinityRank)
    (whole : rankUnits rank = m * unitsPerOne) : Representable m := by
  obtain ⟨bits, bits_eq, units_eq⟩ := exists_unitsPerOne_eq
  rw [units_eq] at whole
  by_cases small : rank < runLength
  · -- the first run ends far below one, so only zero is an integer there
    rw [rankUnits_of_lt small] at whole
    have below : m * 2 ^ bits < 1 * 2 ^ bits := by
      rw [← whole, Nat.one_mul]
      exact Nat.lt_of_lt_of_le small (Nat.pow_le_pow_right Nat.two_pos (show 52 ≤ bits by omega))
    have zero : m = 0 := Nat.lt_one_iff.1 (Nat.lt_of_mul_lt_mul_right below)
    exact ⟨0, 0, by decide, by decide, by rw [zero, Nat.zero_mul]⟩
  · have mantissa : rank % runLength + runLength < 2 ^ 53 :=
      Nat.add_lt_add_right (Nat.mod_lt rank runLength_pos) runLength
    have run : rank / runLength < 2047 := Nat.div_lt_of_lt_mul (by rwa [Nat.mul_comm])
    rw [rankUnits_of_le (by omega)] at whole
    generalize rank % runLength + runLength = k at mantissa whole
    by_cases beyond : bits ≤ rank / runLength - 1
    · refine ⟨k, rank / runLength - 1 - bits, mantissa, by omega, ?_⟩
      refine Nat.eq_of_mul_eq_mul_right (Nat.two_pow_pos bits) ?_
      rw [← whole, Nat.mul_assoc, ← Nat.pow_add, Nat.sub_add_cancel beyond]
    · refine ⟨m, 0, Nat.lt_of_le_of_lt ?_ mantissa, by decide, by rw [Nat.pow_zero, Nat.mul_one]⟩
      have split : m * 2 ^ (bits - (rank / runLength - 1)) = k := by
        refine Nat.eq_of_mul_eq_mul_right (Nat.two_pow_pos (rank / runLength - 1)) ?_
        rw [whole, Nat.mul_assoc, ← Nat.pow_add, Nat.sub_add_cancel (by omega)]
      rw [← split]
      exact Nat.le_mul_of_pos_right m (Nat.two_pow_pos _)

/-- The rank of a mantissa with its leading bit, shifted. -/
theorem rankUnits_shifted {mantissa : Nat} (low : runLength ≤ mantissa)
    (high : mantissa < 2 * runLength) (shift : Nat) :
    rankUnits ((shift + 1) * runLength + (mantissa - runLength)) = mantissa * 2 ^ shift := by
  have within : mantissa - runLength < runLength := by omega
  have large : runLength ≤ (shift + 1) * runLength + (mantissa - runLength) :=
    Nat.le_trans (Nat.le_mul_of_pos_left _ (Nat.succ_pos shift)) (Nat.le_add_right _ _)
  have place : ((shift + 1) * runLength + (mantissa - runLength)) % runLength =
      mantissa - runLength := by
    rw [Nat.mul_add_mod_self_right, Nat.mod_eq_of_lt within]
  have run : ((shift + 1) * runLength + (mantissa - runLength)) / runLength = shift + 1 := by
    rw [Nat.mul_comm, Nat.mul_add_div runLength_pos, Nat.div_eq_of_lt within, Nat.add_zero]
  rw [rankUnits_of_le large, place, run, Nat.sub_add_cancel low, Nat.add_sub_cancel]

theorem exists_rankUnits_of_representable {m : Nat} (representable : Representable m) :
    ∃ rank < infinityRank, rankUnits rank = m * unitsPerOne := by
  obtain ⟨bits, bits_eq, units_eq⟩ := exists_unitsPerOne_eq
  obtain ⟨k, shift, few, near, rfl⟩ := representable
  by_cases zero : k = 0
  · refine ⟨0, by decide, ?_⟩
    rw [rankUnits_of_lt runLength_pos, zero, Nat.zero_mul, Nat.zero_mul]
  · -- the mantissa is filled up with zeros to 53 bits
    have leading : k.log2 < 53 := (Nat.log2_lt zero).2 few
    have low : runLength ≤ k * 2 ^ (52 - k.log2) :=
      calc 2 ^ 52 = 2 ^ k.log2 * 2 ^ (52 - k.log2) := by rw [← Nat.pow_add]; congr 1; omega
        _ ≤ k * 2 ^ (52 - k.log2) := Nat.mul_le_mul_right _ (Nat.log2_self_le zero)
    have high : k * 2 ^ (52 - k.log2) < 2 * runLength :=
      calc k * 2 ^ (52 - k.log2) < 2 ^ (k.log2 + 1) * 2 ^ (52 - k.log2) :=
            Nat.mul_lt_mul_of_pos_right Nat.lt_log2_self (Nat.two_pow_pos _)
        _ = 2 ^ 53 := by rw [← Nat.pow_add]; congr 1; omega
    have filled := rankUnits_shifted low high (shift + bits - (52 - k.log2))
    refine ⟨_, ?_, filled.trans ?_⟩
    · have runs : (shift + bits - (52 - k.log2) + 1) * runLength ≤ 2046 * runLength :=
        Nat.mul_le_mul_right _ (by omega)
      rw [infinityRank_eq]
      omega
    · rw [units_eq, Nat.mul_assoc, Nat.mul_assoc, ← Nat.pow_add, ← Nat.pow_add,
        Nat.add_sub_cancel' (by omega)]

/-- No double is any other integer. -/
theorem representable_of_whole? {d : Double} {n : Int} (whole : d.whole? = some n) :
    Representable n.natAbs := by
  cases d with
  | nan payload => cases whole
  | signed negative rank =>
    simp only [whole?, ← Int.natCast_ediv] at whole
    split at whole
    case isFalse => cases whole
    case isTrue exact =>
      have quotient : n.natAbs = rankUnits rank.1 / unitsPerOne := by
        have value := Option.some.inj whole
        generalize rankUnits rank.1 / unitsPerOne = magnitude at value
        split at value <;> omega
      refine representable_of_rankUnits exact.1 ?_
      rw [quotient, Nat.div_mul_cancel (Nat.dvd_of_mod_eq_zero exact.2)]

/-- The nearest double to such an integer is that integer. -/
theorem exists_ofInt?_of_representable {n : Int} (representable : Representable n.natAbs) :
    ∃ d, ofInt? n = some d ∧ d.whole? = some n := by
  obtain ⟨rank, finite, whole⟩ := exists_rankUnits_of_representable representable
  have own := rankOfRatio_of_rankUnits (Nat.le_of_lt finite) whole
  refine ⟨ofRank (n < 0) rank, by simp only [ofInt?, own, finite, if_true], ?_⟩
  have same : min rank infinityRank = rank := Nat.min_eq_left (Nat.le_of_lt finite)
  simp only [ofRank, whole?, same, finite, true_and, ← Int.natCast_ediv, decide_eq_true_eq]
  rw [whole, Nat.mul_mod_left, if_pos rfl, Nat.mul_div_cancel _ unitsPerOne_pos, Option.some.injEq]
  split <;> omega

end Double

end EventTracker
