import EventTracker.Proofs.Wire.Truncation
import EventTracker.Store.Surroundings
import Mathlib.Data.Nat.ModEq

/-!
# The texts of ids

Insert ids are the numbers that a source issues, in 32 hexadecimal digits, and device ids
are the same digits in groups. So two ids are the same, in whichever form, only if their
numbers are, up to the number of all such texts.
-/

namespace EventTracker

/-- How many ids there are. -/
def idCount : Nat := 16 ^ 32

/-- The digits of ids. -/
def idDigits : List Char := "0123456789abcdef".toList

/-! ## Hexadecimal text -/

theorem mem_idDigits_digitChar {n : Nat} (small : n < 16) : Nat.digitChar n ∈ idDigits := by
  have all : ∀ n : Fin 16, Nat.digitChar n ∈ idDigits := by decide
  exact all ⟨n, small⟩

theorem mem_idDigits_of_mem_hexText {width n : Nat} {c : Char} (mem : c ∈ hexText width n) :
    c ∈ idDigits := by
  induction width generalizing n with
  | zero => cases mem
  | succ width ih =>
    obtain front | last := List.mem_append.1 mem
    · exact ih front
    · rw [List.mem_singleton.1 last]
      exact mem_idDigits_digitChar (Nat.mod_lt n (by decide))

/-- Only so much of a number is written as there is room for. -/
theorem hexText_mod (width n : Nat) : hexText width (n % 16 ^ width) = hexText width n := by
  induction width generalizing n with
  | zero => rfl
  | succ width ih =>
    have low : n % 16 ^ (width + 1) % 16 = n % 16 :=
      Nat.mod_mod_of_dvd n ⟨16 ^ width, (Nat.pow_succ 16 width).trans (Nat.mul_comm _ _)⟩
    have high : n % 16 ^ (width + 1) / 16 = n / 16 % 16 ^ width := by
      rw [Nat.pow_succ, Nat.mul_comm, Nat.mod_mul_right_div_self]
    rw [hexText, hexText, low, high, ih]

theorem hexText_inj {width m n : Nat} :
    hexText width m = hexText width n ↔ m % 16 ^ width = n % 16 ^ width := by
  constructor
  · intro same
    have room (n : Nat) : n % 16 ^ width < Nat.pow 16 width := Nat.mod_lt n (Nat.pow_pos (by decide))
    rw [← hexText_mod, ← hexText_mod width n] at same
    have read := readHex?_hexText (room m)
    rw [same, readHex?_hexText (room n)] at read
    exact (Option.some.inj read).symm
  · intro same
    rw [← hexText_mod, same, hexText_mod]

/-! ## Ids -/

/-- A device id without its dashes. -/
def undashed (id : String) : String := String.ofList (id.toList.filter (· != '-'))

theorem toList_plainId (n : Nat) : (plainId n).toList = hexText 32 n := String.toList_ofList

theorem length_plainId (n : Nat) : (plainId n).toList.length = 32 := by
  rw [toList_plainId, length_hexText]

theorem mem_idDigits_of_mem_plainId {n : Nat} {c : Char} (mem : c ∈ (plainId n).toList) :
    c ∈ idDigits :=
  mem_idDigits_of_mem_hexText (toList_plainId n ▸ mem)

/-- The groups of a device id are its digits, from the first to the last. -/
theorem groups_eq (n : Nat) :
    ((hexText 32 n).drop 0).take 8 ++ (((hexText 32 n).drop 8).take 4 ++
      (((hexText 32 n).drop 12).take 4 ++ (((hexText 32 n).drop 16).take 4 ++
        ((hexText 32 n).drop 20).take 12))) = hexText 32 n := by
  have length := length_hexText 32 n
  generalize hexText 32 n = digits at length ⊢
  have step (start count : Nat) :
      (digits.drop start).take count ++ digits.drop (start + count) = digits.drop start := by
    rw [← List.drop_drop, List.take_append_drop]
  have last : (digits.drop 20).take 12 = digits.drop 20 :=
    List.take_of_length_le (by rw [List.length_drop, length])
  have fourth : (digits.drop 16).take 4 ++ digits.drop 20 = digits.drop 16 := step 16 4
  have third : (digits.drop 12).take 4 ++ digits.drop 16 = digits.drop 12 := step 12 4
  have second : (digits.drop 8).take 4 ++ digits.drop 12 = digits.drop 8 := step 8 4
  rw [last, fourth, third, second]
  exact step 0 8

/-- The dashes are all that tells the one form of an id from the other. -/
theorem undashed_dashedId (n : Nat) : undashed (dashedId n) = plainId n := by
  have bare (start count : Nat) : (((hexText 32 n).drop start).take count).filter (· != '-') =
      ((hexText 32 n).drop start).take count := by
    refine List.filter_eq_self.2 fun c mem => ?_
    have digit := mem_idDigits_of_mem_hexText (List.mem_of_mem_drop (List.mem_of_mem_take mem))
    exact List.all_eq_true.1 (show idDigits.all (· != '-') = true from rfl) c digit
  have dash (rest : List Char) : ('-' :: rest).filter (· != '-') = rest.filter (· != '-') := rfl
  rw [undashed, dashedId, String.toList_ofList, plainId]
  simp only [List.append_assoc, List.cons_append, List.filter_append, dash]
  rw [bare, bare, bare, bare, bare, groups_eq]

theorem plainId_inj {m n : Nat} : plainId m = plainId n ↔ m % idCount = n % idCount := by
  rw [plainId, plainId, String.ofList_inj, hexText_inj, idCount]

/-- A source repeats no id from the one that it issues next up to a place: no two numbers there are
the same, up to the number of all ids. -/
def IdSource.NeverRepeats (ids : IdSource) (last : Nat) : Prop :=
  ∀ i j, ids.issued ≤ i → i < j → j < last →
    ids.numbers i % idCount ≠ ids.numbers j % idCount

theorem IdSource.NeverRepeats.eq_of_plainId_eq {ids : IdSource} {last i j : Nat}
    (fresh : ids.NeverRepeats last) (here : ids.issued ≤ i ∧ i < last)
    (there : ids.issued ≤ j ∧ j < last) (same : plainId (ids.numbers i) = plainId (ids.numbers j)) :
    i = j := by
  rw [plainId_inj] at same
  obtain before | rfl | after := Nat.lt_trichotomy i j
  · exact absurd same (fresh i j here.1 before there.2)
  · rfl
  · exact absurd same.symm (fresh j i there.1 after here.2)

/-- A counter repeats none before it has run through all ids. -/
theorem IdSource.neverRepeats_succ {issued last : Nat} {deviceIds : List String}
    (enough : last ≤ issued + idCount) : IdSource.NeverRepeats ⟨.succ, issued, deviceIds⟩ last := by
  intro i j (since : issued ≤ i) before within same
  refine absurd (Nat.ModEq.eq_of_abs_lt same ?_) (Nat.ne_of_lt (Nat.succ_lt_succ before))
  rw [abs_lt]
  simp only [Nat.succ_eq_add_one]
  omega

/-- An id is short enough to be sent as it is. -/
theorem truncate_plainId (n : Nat) : truncate maxTextLength (.str (plainId n)) = .str (plainId n) := by
  have short : (hexText 32 n).length ≤ 255 := by rw [length_hexText]; decide
  rw [truncate, plainId, show maxTextLength = ((255 : Nat) : Int) from rfl,
    cutText_of_length_le 255 short]

end EventTracker
