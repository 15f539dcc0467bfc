import EventTracker.Text.Padded
import Mathlib.Data.List.Lex

/-!
# Numbers of a fixed width in the order of texts

Texts are ordered by their first difference. Where two of them begin with parts of one
length, those parts decide before the rest does (`append_lt_append_of_lt`), so numbers
that are `padded` to one width are ordered as the numbers are (`padded_lt_padded`).
-/

namespace EventTracker

theorem append_lt_append_of_lt {a b : List Char} (same : a.length = b.length) (lt : a < b)
    (x y : List Char) : a ++ x < b ++ y := by
  induction a generalizing b with
  | nil =>
    rw [List.length_nil] at same
    rw [List.eq_nil_of_length_eq_zero same.symm] at lt
    exact absurd lt (List.not_lt_nil _)
  | cons c a ih =>
    cases b with
    | nil => exact absurd lt (List.not_lt_nil _)
    | cons d b =>
      rw [List.cons_append, List.cons_append, List.cons_lt_cons_iff]
      rcases List.cons_lt_cons_iff.1 lt with first | ⟨eq, rest⟩
      · exact .inl first
      · exact .inr ⟨eq, ih (Nat.succ.inj same) rest⟩

/-- Where texts begin alike, what stands behind decides. -/
theorem append_cons_lt {x y : List Char} (lt : x < y) (front : List Char) (c : Char) :
    front ++ c :: x < front ++ c :: y := by
  apply List.append_left_lt
  exact List.cons_lt_cons_iff.2 (.inr ⟨rfl, lt⟩)

theorem digitChar_lt_digitChar {m n : Nat} (lt : m < n) (bound : n < 10) :
    m.digitChar < n.digitChar := by
  have digits : ∀ n < 10, ∀ m < n, m.digitChar < n.digitChar := by decide
  exact digits n bound m lt

/-- The last digit of a padded number stands behind the number without it. -/
theorem padded_succ {width : Nat} (pos : 0 < width) (n : Nat) :
    padded (width + 1) n = padded width (n / 10) ++ [(n % 10).digitChar] := by
  by_cases small : n < 10
  · have none : n / 10 = 0 := by omega
    have last : n % 10 = n := by omega
    obtain ⟨before, rfl⟩ : ∃ before, width = before + 1 := ⟨width - 1, by omega⟩
    rw [none, last]
    simp only [padded, Nat.toDigits_of_lt_base small, Nat.toDigits_zero, List.length_singleton,
      Nat.add_sub_cancel, ← List.replicate_succ']
  · simp only [padded, Nat.toDigits_of_base_le (by decide : 1 < 10) (Nat.le_of_not_lt small),
      List.length_append, List.length_singleton, Nat.add_sub_add_right, List.append_assoc]

theorem padded_lt_padded {width m n : Nat} (pos : 0 < width) (lt : m < n)
    (bound : n < Nat.pow 10 width) : padded width m < padded width n := by
  induction width generalizing m n with
  | zero => exact absurd pos (Nat.lt_irrefl 0)
  | succ width ih =>
    cases width with
    | zero =>
      have small : n < 10 := bound
      simp only [padded, Nat.toDigits_of_lt_base small, Nat.toDigits_of_lt_base (Nat.lt_trans lt small)]
      exact List.cons_lt_cons_iff.2 (.inl (digitChar_lt_digitChar lt small))
    | succ width =>
      rw [padded_succ (Nat.succ_pos width), padded_succ (Nat.succ_pos width)]
      have bound' : n < Nat.pow 10 (width + 1) * 10 := bound
      have fits : n / 10 < Nat.pow 10 (width + 1) := by omega
      rcases Nat.lt_or_eq_of_le (Nat.div_le_div_right (c := 10) (Nat.le_of_lt lt)) with less | same
      · apply append_lt_append_of_lt
        · rw [length_padded (Nat.succ_pos width) fits,
            length_padded (Nat.succ_pos width) (Nat.lt_trans less fits)]
        · exact ih (Nat.succ_pos width) less fits
      · rw [same]
        apply List.append_left_lt
        exact List.cons_lt_cons_iff.2 (.inl (digitChar_lt_digitChar (by omega) (by omega)))

/-- Padded numbers decide before what stands behind them. -/
theorem padded_append_lt {width m n : Nat} (pos : 0 < width) (lt : m < n)
    (bound : n < Nat.pow 10 width) (x y : List Char) : padded width m ++ x < padded width n ++ y := by
  apply append_lt_append_of_lt
  · rw [length_padded pos bound, length_padded pos (Nat.lt_trans lt bound)]
  · exact padded_lt_padded pos lt bound

end EventTracker
