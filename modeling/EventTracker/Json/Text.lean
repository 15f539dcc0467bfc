import EventTracker.Text.CodePoint
import EventTracker.Text.Hex

/-!
# JSON strings

`quoted` writes code points between double quotes, either with the few escapes that JSON
needs or in ASCII only, where characters beyond the first plane become two escapes of
UTF-16 units. `readText?` reads the rest of a string after its opening quote:
`readPieces?` yields code points and escaped units, and `joinPieces` puts those pairs of
escaped units together that stand for a character.
-/

namespace EventTracker.Json

/-- The escape of a UTF-16 unit. -/
def unitEscape (unit : Nat) : List Char := '\\' :: 'u' :: hexText 4 unit

/-- One character of a string. -/
def escapeChar (ascii : Bool) (c : Char) : List Char :=
  if c = '"' ∨ c = '\\' then ['\\', c]
  else if c = '\n' then ['\\', 'n']
  else if c = '\r' then ['\\', 'r']
  else if c = '\t' then ['\\', 't']
  else if c = '\x08' then ['\\', 'b']
  else if c = '\x0c' then ['\\', 'f']
  else if c.toNat < 0x20 then unitEscape c.toNat
  else if !ascii || c.toNat < 0x7F then [c]
  else if c.toNat < 0x10000 then unitEscape c.toNat
  else
    let n := c.toNat - 0x10000
    unitEscape (0xD800 + n / 0x400) ++ unitEscape (0xDC00 + n % 0x400)

/-- One code point of a string. Surrogates are always escaped, since there are no characters to
write them with. -/
def escapePoint (ascii : Bool) : CodePoint → List Char
  | .char c => escapeChar ascii c
  | .surrogate n => unitEscape (0xD800 + n)

/-- Code points between double quotes. -/
def quoted (ascii : Bool) (ps : List CodePoint) : List Char :=
  '"' :: ps.flatMap (escapePoint ascii) ++ ['"']

/-- The character of a one-letter escape. -/
def escapeLetter? : Char → Option Char
  | '"' => some '"'
  | '\\' => some '\\'
  | '/' => some '/'
  | 'b' => some '\x08'
  | 'f' => some '\x0c'
  | 'n' => some '\n'
  | 'r' => some '\r'
  | 't' => some '\t'
  | _ => none

/-- A part of a string: a code point, or an escaped UTF-16 unit. -/
inductive Piece where
  | point (p : CodePoint)
  | unit (n : Nat)
  deriving DecidableEq

/-- The pieces up to the closing quote, and the text after it. Control characters must be
escaped. -/
def readPieces? : List CodePoint → Option (List Piece × List CodePoint)
  | [] => none
  | .char '"' :: rest => some ([], rest)
  | .char '\\' :: .char 'u' :: .char a :: .char b :: .char c :: .char d :: rest =>
    (readHex? [a, b, c, d]).bind fun n =>
      (readPieces? rest).map fun (pieces, after) => (.unit n :: pieces, after)
  | .char '\\' :: .char letter :: rest =>
    (escapeLetter? letter).bind fun c =>
      (readPieces? rest).map fun (pieces, after) => (.point (.char c) :: pieces, after)
  | p :: rest =>
    if p.toNat < 0x20 ∨ p = .char '\\' then none
    else (readPieces? rest).map fun (pieces, after) => (.point p :: pieces, after)

/-- The code points of pieces. Only units that are both escaped stand for one together. -/
def joinPieces : List Piece → List CodePoint
  | .unit m :: .unit n :: rest =>
    match CodePoint.pair? (.ofNat m) (.ofNat n) with
    | some c => .char c :: joinPieces rest
    | none => .ofNat m :: joinPieces (.unit n :: rest)
  | .unit n :: rest => .ofNat n :: joinPieces rest
  | .point p :: rest => p :: joinPieces rest
  | [] => []

/-- The rest of a string after its opening quote, and the text after it. -/
def readText? (ps : List CodePoint) : Option (Text × List CodePoint) :=
  (readPieces? ps).map fun (pieces, after) => (.ofPoints (joinPieces pieces), after)

end EventTracker.Json
