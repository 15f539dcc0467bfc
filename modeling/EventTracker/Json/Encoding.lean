import EventTracker.Json.Text
import EventTracker.Wire.Utf8

/-!
# JSON text in bytes

JSON may be written in UTF-8, UTF-16 or UTF-32. A byte order mark tells which; without
one, the zeros among the first four bytes do, since the first two characters of a JSON
text are ASCII. In each form surrogates may stand on their own.
-/

namespace EventTracker.Json

/-- Numbers joined two by two into digits of a base, the greater digit first if `bigEndian`; `none`
if one is left over. -/
def joinPairs? (base : Nat) (bigEndian : Bool) : List Nat → Option (List Nat)
  | [] => some []
  | a :: b :: rest =>
    (joinPairs? base bigEndian rest).map ((if bigEndian then a * base + b else a + b * base) :: ·)
  | [_] => none

/-- The code points of bytes in UTF-16. -/
def readUtf16? (bigEndian : Bool) (bytes : List Nat) : Option (List CodePoint) :=
  (joinPairs? 0x100 bigEndian bytes).map fun units => CodePoint.joinPairs (units.map .ofNat)

/-- The code points of bytes in UTF-32. -/
def readUtf32? (bigEndian : Bool) (bytes : List Nat) : Option (List CodePoint) :=
  (joinPairs? 0x100 bigEndian bytes).bind fun halves =>
    (joinPairs? 0x10000 bigEndian halves).bind fun codes =>
      codes.mapM fun n => if n < 0x110000 then some (.ofNat n) else none

/-- The code points of bytes in UTF-8 that are left after some that were read, last ones first. A
surrogate may be written in three bytes as a character of its number would be. -/
def readUtf8From? (read : List Nat) : List Nat → Option (List CodePoint)
  | 0xED :: b :: c :: rest =>
    if 0xA0 ≤ b ∧ b < 0xC0 ∧ 0x80 ≤ c ∧ c < 0xC0 then
      (plain? read).bind fun before =>
        (readUtf8From? [] rest).map fun after =>
          before ++ .ofNat (0xD000 + (b - 0x80) * 0x40 + (c - 0x80)) :: after
    else readUtf8From? (0xED :: read) (b :: c :: rest)
  | b :: rest => readUtf8From? (b :: read) rest
  | [] => plain? read
where
  plain? (read : List Nat) : Option (List CodePoint) :=
    (textOfUtf8? (read.reverse.map UInt8.ofNat)).map fun s => CodePoint.ofChars s.toList

/-- The code points of bytes in UTF-8. -/
def readUtf8? (bytes : List Nat) : Option (List CodePoint) := readUtf8From? [] bytes

/-- The code points of bytes in the form that their beginning tells. -/
def textOfBytes? (bytes : List Nat) : Option (List CodePoint) :=
  match bytes with
  | 0 :: 0 :: 0xFE :: 0xFF :: rest => readUtf32? true rest
  | 0xFF :: 0xFE :: 0 :: 0 :: rest => readUtf32? false rest
  | 0xFE :: 0xFF :: rest => readUtf16? true rest
  | 0xFF :: 0xFE :: rest => readUtf16? false rest
  | 0xEF :: 0xBB :: 0xBF :: rest => readUtf8? rest
  | 0 :: 0 :: _ :: _ :: _ => readUtf32? true bytes
  | 0 :: _ :: _ :: _ :: _ => readUtf16? true bytes
  | _ :: 0 :: 0 :: 0 :: _ => readUtf32? false bytes
  | _ :: 0 :: _ :: _ :: _ => readUtf16? false bytes
  | [0, _] => readUtf16? true bytes
  | [_, 0] => readUtf16? false bytes
  | _ => readUtf8? bytes

end EventTracker.Json
