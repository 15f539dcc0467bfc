import EventTracker.Text.Hex

/-!
# Percent encoding

ASCII letters, digits and `_`, `.`, `-`, `~` stand for themselves; every other byte is
written as `%` and two hexadecimal digits in upper case. `percentDecode` is a left
inverse of `percentEncode`.
-/

namespace EventTracker

/-- The bytes that stand for themselves. -/
def isUnreserved (b : UInt8) : Bool :=
  let n := b.toNat
  (0x41 ≤ n && n ≤ 0x5A) || (0x61 ≤ n && n ≤ 0x7A) || (0x30 ≤ n && n ≤ 0x39) || n == 0x5F ||
    n == 0x2E || n == 0x2D || n == 0x7E

/-- A hexadecimal digit in upper case. -/
def upperHexDigit (n : Nat) : Char := (Nat.digitChar n).toUpper

/-- One byte of a percent-encoded text. -/
def percentEncodeByte (b : UInt8) : List Char :=
  if isUnreserved b then [Char.ofNat b.toNat]
  else ['%', upperHexDigit (b.toNat / 16), upperHexDigit (b.toNat % 16)]

/-- The percent-encoded text of some bytes. -/
def percentEncode (bytes : List UInt8) : List Char :=
  bytes.flatMap percentEncodeByte

/-- The bytes that a percent-encoded text stands for; a lone `%` stands for itself. -/
def percentDecode : List Char → List UInt8
  | '%' :: high :: low :: rest =>
    match hexValue? high, hexValue? low with
    | some h, some l => UInt8.ofNat (16 * h + l) :: percentDecode rest
    | _, _ => 0x25 :: percentDecode (high :: low :: rest)
  | c :: rest => String.utf8EncodeChar c ++ percentDecode rest
  | [] => []
termination_by cs => cs.length

theorem hexValue?_upperHexDigit {n : Nat} (h : n < 16) : hexValue? (upperHexDigit n) = some n := by
  have all : ∀ n : Fin 16, hexValue? (upperHexDigit n) = some n.1 := by decide
  exact all ⟨n, h⟩

end EventTracker
