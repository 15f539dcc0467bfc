import EventTracker.Text.Padded
import Mathlib.Algebra.Group.Nat.Defs

/-!
# Runs of digits

A run of digits followed by something else is taken off a text as a whole
(`takeWhile_isDigit`, `dropWhile_isDigit`). The decimal text of a positive number begins
with a digit other than zero, so it can be told apart from a lone zero.
-/

namespace EventTracker

/-- Digits only. -/
def AllDigits (cs : List Char) : Prop := ∀ c ∈ cs, c.isDigit = true

/-- Text that does not go on with a digit. -/
def NoDigit (rest : List Char) : Prop := ∀ c ∈ rest.head?, c.isDigit = false

theorem noDigit_cons {c : Char} (h : c.isDigit = false) (rest : List Char) : NoDigit (c :: rest) := by
  intro c' mem
  cases mem
  exact h

theorem takeWhile_isDigit {digits rest : List Char} (all : AllDigits digits) (stop : NoDigit rest) :
    (digits ++ rest).takeWhile Char.isDigit = digits := by
  rw [List.takeWhile_append_of_pos all]
  cases rest with
  | nil => simp
  | cons c rest => simp [stop c rfl]

theorem dropWhile_isDigit {digits rest : List Char} (all : AllDigits digits) (stop : NoDigit rest) :
    (digits ++ rest).dropWhile Char.isDigit = rest := by
  rw [List.dropWhile_append_of_pos all]
  cases rest with
  | nil => rfl
  | cons c rest => simp [stop c rfl]

theorem AllDigits.append {cs ds : List Char} (hc : AllDigits cs) (hd : AllDigits ds) :
    AllDigits (cs ++ ds) := by
  intro c mem
  rcases List.mem_append.1 mem with h | h
  · exact hc c h
  · exact hd c h

theorem allDigits_replicate_zero (n : Nat) : AllDigits (List.replicate n '0') := by
  intro c mem
  rw [(List.mem_replicate.1 mem).2]
  rfl

theorem allDigits_toDigits (n : Nat) : AllDigits (Nat.toDigits 10 n) := fun _ mem =>
  Nat.isDigit_of_mem_toDigits (by decide) (by decide) mem

/-- A positive number does not begin with zero. -/
theorem exists_toDigits_eq_cons {n : Nat} (pos : 0 < n) :
    ∃ c cs, Nat.toDigits 10 n = c :: cs ∧ c ≠ '0' := by
  induction n using Nat.strongRecOn with
  | ind n ih =>
    by_cases small : n < 10
    · refine ⟨n.digitChar, [], Nat.toDigits_of_lt_base small, ?_⟩
      intro zero
      have := Nat.digitChar_eq_zero.1 zero
      omega
    · obtain ⟨c, cs, eq, ne⟩ := ih (n / 10) (by omega) (by omega)
      refine ⟨c, cs ++ [(n % 10).digitChar], ?_, ne⟩
      rw [Nat.toDigits_of_base_le (by decide) (by omega), eq]
      rfl

/-- Digits with trailing zeros stand for a multiple of a power of ten. -/
theorem ofDigitChars_append_zeros (digits : List Char) (n : Nat) :
    Nat.ofDigitChars 10 (digits ++ List.replicate n '0') 0 =
      Nat.ofDigitChars 10 digits 0 * 10 ^ n := by
  rw [Nat.ofDigitChars_append, Nat.ofDigitChars_replicate_zero, Nat.mul_comm]

/-- Zeros in front of digits do not count. -/
theorem ofDigitChars_zeros_append (n : Nat) (digits : List Char) :
    Nat.ofDigitChars 10 (List.replicate n '0' ++ digits) 0 = Nat.ofDigitChars 10 digits 0 := by
  rw [Nat.ofDigitChars_append, Nat.ofDigitChars_replicate_zero, Nat.mul_zero]

theorem toNat_of_isDigit {c : Char} (digit : c.isDigit = true) : 48 ≤ c.toNat ∧ c.toNat ≤ 57 := by
  simp only [Char.isDigit, Bool.and_eq_true, decide_eq_true_eq] at digit
  exact ⟨digit.1, digit.2⟩

theorem digit_lt_ten {c : Char} (digit : c.isDigit = true) : c.toNat - '0'.toNat < 10 := by
  have bounds := toNat_of_isDigit digit
  have zero : '0'.toNat = 48 := rfl
  omega

theorem ofDigitChars_lt {cs : List Char} (all : AllDigits cs) :
    Nat.ofDigitChars 10 cs 0 < 10 ^ cs.length := by
  have from_start : ∀ init, Nat.ofDigitChars 10 cs init < (init + 1) * 10 ^ cs.length := by
    induction cs with
    | nil => simp
    | cons c rest ih =>
      intro init
      have digit := digit_lt_ten (all c List.mem_cons_self)
      rw [Nat.ofDigitChars_cons, List.length_cons, Nat.pow_succ']
      calc Nat.ofDigitChars 10 rest (10 * init + (c.toNat - '0'.toNat))
          < (10 * init + (c.toNat - '0'.toNat) + 1) * 10 ^ rest.length :=
            ih (fun d mem => all d (List.mem_cons_of_mem _ mem)) _
        _ ≤ (init + 1) * 10 * 10 ^ rest.length := Nat.mul_le_mul_right _ (by omega)
        _ = (init + 1) * (10 * 10 ^ rest.length) := Nat.mul_assoc _ _ _
  have bound := from_start 0
  rwa [Nat.zero_add, Nat.one_mul] at bound

/-- Digits are their own beginning and a run of zeros. -/
theorem exists_strip_zeros (digits : List Char) :
    ∃ zeros, digits =
      (digits.reverse.dropWhile (· == '0')).reverse ++ List.replicate zeros '0' := by
  refine ⟨(digits.reverse.takeWhile (· == '0')).length, ?_⟩
  have run : digits.reverse.takeWhile (· == '0') =
      List.replicate (digits.reverse.takeWhile (· == '0')).length '0' := by
    apply List.eq_replicate_of_mem
    intro c mem
    simpa using (List.all_eq_true.1 List.all_takeWhile) c mem
  have split := List.takeWhile_append_dropWhile (p := (· == '0')) (l := digits.reverse)
  have whole := congrArg List.reverse split
  rw [List.reverse_append, List.reverse_reverse, run, List.reverse_replicate] at whole
  exact whole.symm

/-- The digits of a positive number without the zeros at their end. -/
theorem exists_toDigits_stripped {n : Nat} (pos : 0 < n) :
    ∃ (c : Char) (cs : List Char) (zeros : Nat),
      ((Nat.toDigits 10 n).reverse.dropWhile (· == '0')).reverse = c :: cs ∧ c ≠ '0' ∧
      AllDigits (c :: cs) ∧ Nat.ofDigitChars 10 (c :: cs) 0 * 10 ^ zeros = n ∧
      (Nat.toDigits 10 n).length = cs.length + 1 + zeros := by
  obtain ⟨zeros, whole⟩ := exists_strip_zeros (Nat.toDigits 10 n)
  obtain ⟨c, ds, first, ne⟩ := exists_toDigits_eq_cons pos
  have digits := allDigits_toDigits n
  have value : Nat.ofDigitChars 10 (Nat.toDigits 10 n) 0 = n := Nat.ofDigitChars_ten_toDigits
  generalize ((Nat.toDigits 10 n).reverse.dropWhile (· == '0')).reverse = stripped at whole ⊢
  rw [whole] at first digits value ⊢
  rw [ofDigitChars_append_zeros] at value
  -- the first digit is not zero, so it is not stripped
  cases stripped with
  | nil =>
    rw [Nat.ofDigitChars_nil, Nat.zero_mul] at value
    omega
  | cons d cs =>
    have same : d = c := (List.cons.inj first).1
    refine ⟨d, cs, zeros, rfl, same ▸ ne, fun x mem => digits x (List.mem_append_left _ mem), value, ?_⟩
    rw [List.length_append, List.length_replicate, List.length_cons]

end EventTracker
