/-!
# Hexadecimal text of a fixed width

`hexText width n` writes the last `width` hexadecimal digits of `n` in lower case;
`hexValue?` reads one digit in either case.
-/

namespace EventTracker

/-- The last `width` hexadecimal digits of `n`, most significant first. -/
def hexText : (width n : Nat) → List Char
  | 0, _ => []
  | width + 1, n => hexText width (n / 16) ++ [Nat.digitChar (n % 16)]

/-- The number that a hexadecimal digit stands for. -/
def hexValue? (c : Char) : Option Nat :=
  let n := c.toNat
  if 0x30 ≤ n ∧ n ≤ 0x39 then some (n - 0x30)
  else if 0x61 ≤ n ∧ n ≤ 0x66 then some (n - 0x61 + 10)
  else if 0x41 ≤ n ∧ n ≤ 0x46 then some (n - 0x41 + 10)
  else none

/-- The number that a text of hexadecimal digits stands for. -/
def readHex? (cs : List Char) : Option Nat :=
  cs.foldlM (fun n c => (hexValue? c).map (16 * n + ·)) 0

theorem hexValue?_digitChar {n : Nat} (h : n < 16) : hexValue? (Nat.digitChar n) = some n := by
  have all : ∀ n : Fin 16, hexValue? (Nat.digitChar n) = some n.1 := by decide
  exact all ⟨n, h⟩

theorem length_hexText (width n : Nat) : (hexText width n).length = width := by
  induction width generalizing n with
  | zero => rfl
  | succ width ih => simp [hexText, ih]

/-- Reading undoes writing for numbers that fit. -/
theorem readHex?_hexText {width n : Nat} (h : n < Nat.pow 16 width) :
    readHex? (hexText width n) = some n := by
  induction width generalizing n with
  | zero => obtain rfl := Nat.lt_one_iff.1 h; rfl
  | succ width ih =>
    have low : n / 16 < Nat.pow 16 width := by
      rw [Nat.div_lt_iff_lt_mul (by decide)]; exact h
    have head := ih low
    rw [readHex?] at head ⊢
    rw [hexText, List.foldlM_append, head]
    simp only [Option.pure_def, Option.bind_eq_bind, Option.bind_some, List.foldlM_cons,
      List.foldlM_nil, hexValue?_digitChar (Nat.mod_lt n (by decide)), Option.map_some]
    congr 1
    omega

end EventTracker
