/-!
# Base64

Three bytes are written as four characters of a 64-letter alphabet, and one or two last
bytes are padded with `=`. The reader is lenient: it skips characters outside the
alphabet and stops at the padding that completes a group of four.
-/

namespace EventTracker

/-- The letters for 0 to 63. -/
def base64Alphabet : List Char :=
  ['A', 'B', 'C', 'D', 'E', 'F', 'G', 'H', 'I', 'J', 'K', 'L', 'M', 'N', 'O', 'P', 'Q', 'R', 'S',
   'T', 'U', 'V', 'W', 'X', 'Y', 'Z', 'a', 'b', 'c', 'd', 'e', 'f', 'g', 'h', 'i', 'j', 'k', 'l',
   'm', 'n', 'o', 'p', 'q', 'r', 's', 't', 'u', 'v', 'w', 'x', 'y', 'z', '0', '1', '2', '3', '4',
   '5', '6', '7', '8', '9', '+', '/']

/-- The letter of a six-bit number. -/
def sextetLetter (n : Nat) : Char := base64Alphabet[n]?.getD 'A'

/-- The six-bit number of a letter. -/
def sextet? (c : Char) : Option Nat := base64Alphabet.idxOf? c

/-- The base64 text of some bytes. -/
def base64Encode : List UInt8 → List Char
  | a :: b :: c :: rest =>
    sextetLetter (a.toNat / 4) :: sextetLetter (a.toNat % 4 * 16 + b.toNat / 16) ::
      sextetLetter (b.toNat % 16 * 4 + c.toNat / 64) :: sextetLetter (c.toNat % 64) ::
      base64Encode rest
  | [a, b] =>
    [sextetLetter (a.toNat / 4), sextetLetter (a.toNat % 4 * 16 + b.toNat / 16),
     sextetLetter (b.toNat % 16 * 4), '=']
  | [a] => [sextetLetter (a.toNat / 4), sextetLetter (a.toNat % 4 * 16), '=', '=']
  | [] => []

/-- The whole bytes in a group of at most four six-bit numbers. -/
def sextetBytes : List Nat → List UInt8
  | [s, t] => [UInt8.ofNat (s * 4 + t / 16)]
  | [s, t, u] => [UInt8.ofNat (s * 4 + t / 16), UInt8.ofNat (t % 16 * 16 + u / 4)]
  | [s, t, u, v] =>
    [UInt8.ofNat (s * 4 + t / 16), UInt8.ofNat (t % 16 * 16 + u / 4), UInt8.ofNat (u % 4 * 64 + v)]
  | _ => []

/-- Reads on from an unfinished group `held`, of which `pads` paddings have been seen. -/
def base64DecodeFrom (held : List Nat) (pads : Nat) : List Char → Option (List UInt8)
  | [] => if held.isEmpty then some [] else none
  | c :: rest =>
    if c = '=' then
      if held.length < 2 then base64DecodeFrom held pads rest
      else if held.length + pads + 1 < 4 then base64DecodeFrom held (pads + 1) rest
      else some (sextetBytes held)
    else
      match sextet? c with
      | none => base64DecodeFrom held pads rest
      | some s =>
        if held.length < 3 then base64DecodeFrom (held ++ [s]) 0 rest
        else (base64DecodeFrom [] 0 rest).map (sextetBytes (held ++ [s]) ++ ·)

/-- The bytes that a base64 text stands for, or `none` if it ends inside a group. -/
def base64Decode (cs : List Char) : Option (List UInt8) := base64DecodeFrom [] 0 cs

theorem sextet?_sextetLetter {n : Nat} (h : n < 64) : sextet? (sextetLetter n) = some n := by
  have all : ∀ n : Fin 64, sextet? (sextetLetter n) = some n.1 := by decide
  exact all ⟨n, h⟩

theorem sextetLetter_ne_pad {n : Nat} (h : n < 64) : sextetLetter n ≠ '=' := by
  have all : ∀ n : Fin 64, sextetLetter n ≠ '=' := by decide
  exact all ⟨n, h⟩

/-- A letter joins the group that is being read. -/
theorem base64DecodeFrom_sextetLetter {n : Nat} (h : n < 64) (held : List Nat) (pads : Nat)
    (rest : List Char) :
    base64DecodeFrom held pads (sextetLetter n :: rest) =
      if held.length < 3 then base64DecodeFrom (held ++ [n]) 0 rest
      else (base64DecodeFrom [] 0 rest).map (sextetBytes (held ++ [n]) ++ ·) := by
  rw [base64DecodeFrom, if_neg (sextetLetter_ne_pad h), sextet?_sextetLetter h]

/-- Reading undoes writing. -/
theorem base64Decode_base64Encode (bytes : List UInt8) :
    base64Decode (base64Encode bytes) = some bytes := by
  unfold base64Decode
  fun_induction base64Encode bytes with
  | case1 a b c rest ih =>
    have ha := a.toNat_lt
    have hb := b.toNat_lt
    have hc := c.toNat_lt
    simp only [Nat.reducePow] at ha hb hc
    rw [base64DecodeFrom_sextetLetter (by omega), base64DecodeFrom_sextetLetter (by omega),
      base64DecodeFrom_sextetLetter (by omega), base64DecodeFrom_sextetLetter (by omega), ih]
    simp only [List.nil_append, List.cons_append, List.length_cons, List.length_nil,
      Nat.reduceAdd, Nat.reduceLT, if_true, if_false, Option.map_some, sextetBytes,
      Option.some.injEq, List.cons.injEq, and_true]
    refine ⟨?_, ?_, ?_⟩ <;> apply UInt8.toNat_inj.1 <;> simp <;> omega
  | case2 a b =>
    have ha := a.toNat_lt
    have hb := b.toNat_lt
    simp only [Nat.reducePow] at ha hb
    rw [base64DecodeFrom_sextetLetter (by omega), base64DecodeFrom_sextetLetter (by omega),
      base64DecodeFrom_sextetLetter (by omega)]
    simp only [List.nil_append, List.cons_append, List.length_cons, List.length_nil,
      Nat.reduceAdd, Nat.reduceLT, if_true, if_false, base64DecodeFrom, sextetBytes,
      Option.some.injEq, List.cons.injEq, and_true]
    refine ⟨?_, ?_⟩ <;> apply UInt8.toNat_inj.1 <;> simp <;> omega
  | case3 a =>
    have ha := a.toNat_lt
    simp only [Nat.reducePow] at ha
    rw [base64DecodeFrom_sextetLetter (by omega), base64DecodeFrom_sextetLetter (by omega)]
    simp only [List.nil_append, List.cons_append, List.length_cons, List.length_nil,
      Nat.reduceAdd, Nat.reduceLT, if_true, if_false, base64DecodeFrom, sextetBytes,
      Option.some.injEq, List.cons.injEq, and_true]
    apply UInt8.toNat_inj.1; simp; omega
  | case4 => rfl

end EventTracker
