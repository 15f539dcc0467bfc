import EventTracker.Proofs.Double.Integers

/-!
# Decimals in digits of any script

A number is written as digits of any script, with a point and more digits if it has a
fraction. Every such text is read as a double, of however many digits it is: as the one
nearest to the number that its digits stand for, which may be infinity.
-/

namespace EventTracker

/-- Decimal digits only, of any script. -/
def DecimalDigits (cs : List Char) : Prop := ∀ c ∈ cs, isDecimalDigit c = true

/-- Digits, or digits on both sides of a point. -/
inductive IsDecimalNumber : List Char → Prop
  | whole {digits : List Char} (nonempty : digits ≠ []) (all : DecimalDigits digits) :
    IsDecimalNumber digits
  | fraction {digits fraction : List Char} (nonempty : digits ≠ []) (all : DecimalDigits digits)
    (more : fraction ≠ []) (allMore : DecimalDigits fraction) :
    IsDecimalNumber (digits ++ '.' :: fraction)

/-! ## Characters -/

theorem exists_zeroCodePoint {c : Char} (digit : isDecimalDigit c = true) :
    ∃ start ∈ zeroCodePoints, ∃ k < 10, c.toNat = start + k ∧ digitValue? c = some k := by
  obtain ⟨value, read⟩ := Option.isSome_iff_exists.1 digit
  obtain ⟨start, found, rfl⟩ := Option.map_eq_some_iff.1 read
  have within := List.find?_some found
  simp only [Bool.and_eq_true, decide_eq_true_eq] at within
  exact ⟨start, List.mem_of_find?_eq_some found, c.toNat - start, by omega, by omega, read⟩

theorem not_isWhiteSpace_of_isDecimalDigit {c : Char} (digit : isDecimalDigit c = true) :
    isWhiteSpace c = false := by
  obtain ⟨start, mem, k, small, place, -⟩ := exists_zeroCodePoint digit
  have apart : ∀ start ∈ zeroCodePoints, start = 0x30 ∨ 0xA0 < start ∧ start + 10 ≤ 0x1680 ∨
      0x1680 < start ∧ start + 10 ≤ 0x2000 ∨ 0x3000 < start := by decide
  have known := apart start mem
  simp only [isWhiteSpace, Bool.or_eq_false_iff, Bool.and_eq_false_iff, decide_eq_false_iff_not,
    beq_eq_false_iff_ne]
  omega

namespace Double

theorem isDigit_asciiDigit {c : Char} (digit : isDecimalDigit c = true) :
    (asciiDigit c).isDigit = true := by
  obtain ⟨-, -, k, small, -, read⟩ := exists_zeroCodePoint digit
  rw [asciiDigit, read, Option.map_some, Option.getD_some]
  rw [Nat.isDigit_digitChar, decide_eq_true small]

theorem allDigits_map_asciiDigit {cs : List Char} (all : DecimalDigits cs) :
    AllDigits (cs.map asciiDigit) := by
  intro c mem
  obtain ⟨digit, here, rfl⟩ := List.mem_map.1 mem
  exact isDigit_asciiDigit (all digit here)

theorem asciiDigit_point : asciiDigit '.' = '.' := by decide

/-! ## Reading -/

theorem readDecimal?_of_fraction {digits fraction : List Char} (all : AllDigits digits)
    (nonempty : digits ≠ []) (more : AllDigits fraction) :
    readDecimal? (digits ++ '.' :: fraction) =
      some (Nat.ofDigitChars 10 (digits ++ fraction) 0, -(fraction.length : Int)) := by
  have point : NoDigit ('.' :: fraction) := noDigit_cons rfl fraction
  have stop : NoDigit [] := by rintro _ ⟨⟩
  have front := takeWhile_isDigit more stop
  have none := dropWhile_isDigit more stop
  rw [List.append_nil] at front none
  unfold readDecimal?
  simp only [takeWhile_isDigit all point, dropWhile_isDigit all point, front, none, nonempty,
    false_and, if_false]

/-- What begins with a digit has no sign and is no word. -/
theorem readPlain?_of_digit {c : Char} (digit : c.isDigit = true) (rest : List Char) :
    readPlain? (c :: rest) =
      (readDecimal? (c :: rest)).map fun decimal => ofDecimal false decimal.1 decimal.2 := by
  have sign : splitSign (c :: rest) = (false, c :: rest) := by
    unfold splitSign
    split
    case h_1 same | h_2 same =>
      rw [(List.cons.inj same).1] at digit
      cases digit
    case h_3 => rfl
  have lower : c.toLower = c := by
    have one : AllDigits [c] := List.forall_mem_singleton.2 digit
    exact List.singleton_inj.1 (map_toLower_of_allDigits one)
  have noWord {letter : Char} {letters : List Char} (other : letter.isDigit = false) :
      (c :: rest).map Char.toLower ≠ letter :: letters := by
    intro same
    rw [List.map_cons, lower] at same
    rw [(List.cons.inj same).1, other] at digit
    cases digit
  simp only [readPlain?, sign]
  rw [if_neg (not_or.2 ⟨noWord rfl, noWord rfl⟩), if_neg (noWord rfl)]

/-- A decimal is read as it is, but for the script of its digits. -/
theorem read?_eq_readPlain? {cs : List Char}
    (plain : ∀ c ∈ cs, isDecimalDigit c = true ∨ c = '.') :
    read? cs = readPlain? (cs.map asciiDigit) := by
  have solid (c : Char) (mem : c ∈ cs) : isWhiteSpace c = false := by
    rcases plain c mem with digit | rfl
    · exact not_isWhiteSpace_of_isDecimalDigit digit
    · rfl
  have trimmed : trim isWhiteSpace cs = cs :=
    trim_eq_self (fun c mem => solid c (List.mem_of_head? mem))
      fun c mem => solid c (List.mem_of_getLast? mem)
  have noUnderscore : '_' ∉ cs.map asciiDigit := by
    intro mem
    obtain ⟨c, here, same⟩ := List.mem_map.1 mem
    rcases plain c here with digit | rfl
    · have ascii := isDigit_asciiDigit digit
      rw [same] at ascii
      cases ascii
    · rw [asciiDigit_point] at same
      cases same
  rw [read?, trimmed, dropUnderscores?_eq_self noUnderscore, Option.bind_some]

theorem read?_of_digits {digits : List Char} (nonempty : digits ≠ [])
    (all : DecimalDigits digits) :
    read? digits = some (ofDecimal false (Nat.ofDigitChars 10 (digits.map asciiDigit) 0) 0) := by
  have ascii := allDigits_map_asciiDigit all
  rw [read?_eq_readPlain? fun c mem => .inl (all c mem)]
  exact readPlain?_of_digits (splitSign_of_allDigits ascii) ascii (mt List.map_eq_nil_iff.1 nonempty)

theorem read?_of_fraction {digits fraction : List Char} (nonempty : digits ≠ [])
    (all : DecimalDigits digits) (more : DecimalDigits fraction) :
    read? (digits ++ '.' :: fraction) =
      some (ofDecimal false (Nat.ofDigitChars 10 ((digits ++ fraction).map asciiDigit) 0)
        (-(fraction.length : Int))) := by
  have plain : ∀ c ∈ digits ++ '.' :: fraction, isDecimalDigit c = true ∨ c = '.' := by
    intro c mem
    rcases List.mem_append.1 mem with front | rest
    · exact .inl (all c front)
    · exact (List.mem_cons.1 rest).symm.imp_left (more c)
  have decimal := readDecimal?_of_fraction (allDigits_map_asciiDigit all)
    (mt List.map_eq_nil_iff.1 nonempty) (allDigits_map_asciiDigit more)
  rw [read?_eq_readPlain? plain, List.map_append, List.map_cons, asciiDigit_point]
  cases digits with
  | nil => exact absurd rfl nonempty
  | cons c rest =>
    have digit := isDigit_asciiDigit (all c List.mem_cons_self)
    rw [List.map_cons, List.cons_append, readPlain?_of_digit digit, ← List.cons_append,
      ← List.map_cons, decimal, List.length_map, ← List.map_append]
    rfl

/-- Every decimal is read as a double. -/
theorem exists_read?_of_isDecimalNumber {cs : List Char} (number : IsDecimalNumber cs) :
    ∃ d, read? cs = some d := by
  cases number with
  | whole nonempty all => exact ⟨_, read?_of_digits nonempty all⟩
  | fraction nonempty all more allMore => exact ⟨_, read?_of_fraction nonempty all allMore⟩

end Double

end EventTracker
