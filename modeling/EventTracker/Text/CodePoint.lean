import EventTracker.Wire.Utf8

/-!
# Texts with surrogates

A `CodePoint` is a character or a surrogate, of which two in a row stand for a character in
UTF-16. Text in memory may hold surrogates, but UTF-8 has none, so a `Text` is either a
`String` or a `RoughText`, in which some surrogate stands. `Text.points` is the view of
both; `CodePoint.joinPairs` is what becomes of code points that are written as UTF-16 units
and read again.
-/

namespace EventTracker

/-- A character, or a surrogate by its distance from the first one. -/
inductive CodePoint where
  | char (c : Char)
  | surrogate (n : Fin 0x800)
  deriving DecidableEq

namespace CodePoint

/-- The number of a code point. -/
def toNat : CodePoint → Nat
  | .char c => c.toNat
  | .surrogate n => 0xD800 + n

/-- The code point of a number. -/
def ofNat (n : Nat) : CodePoint :=
  if h : 0xD800 ≤ n ∧ n < 0xE000 then .surrogate ⟨n - 0xD800, by omega⟩ else .char (Char.ofNat n)

/-- The character that a code point is, if it is one. -/
def char? : CodePoint → Option Char
  | .char c => some c
  | .surrogate _ => none

def isSurrogate : CodePoint → Bool
  | .char _ => false
  | .surrogate _ => true

/-- The code points of characters. -/
def ofChars (cs : List Char) : List CodePoint := cs.map .char

/-- The characters at the front, and the code points from the first surrogate on. -/
def splitChars : List CodePoint → List Char × List CodePoint
  | .char c :: rest => (c :: (splitChars rest).1, (splitChars rest).2)
  | ps => ([], ps)

/-- The character that two code points stand for together: a surrogate of the former half of them
and one of the latter. -/
def pair? : CodePoint → CodePoint → Option Char
  | .surrogate high, .surrogate low =>
    if high.val < 0x400 ∧ 0x400 ≤ low.val then
      some (Char.ofNat (0x10000 + high * 0x400 + (low - 0x400)))
    else none
  | _, _ => none

/-- Code points with a character in the place of each two that stand for one. -/
def joinPairs : List CodePoint → List CodePoint
  | p :: q :: rest =>
    match pair? p q with
    | some c => .char c :: joinPairs rest
    | none => p :: joinPairs (q :: rest)
  | [p] => [p]
  | [] => []

end CodePoint

/-- Text in which a surrogate stands. -/
structure RoughText where
  points : List CodePoint
  rough : points.any CodePoint.isSurrogate = true
  deriving DecidableEq

/-- Text in memory. -/
inductive Text where
  | plain (s : String)
  | rough (r : RoughText)
  deriving DecidableEq

namespace Text

instance : Coe String Text := ⟨.plain⟩

instance : Inhabited Text := ⟨.plain ""⟩

/-- The code points of a text. -/
def points : Text → List CodePoint
  | .plain s => CodePoint.ofChars s.toList
  | .rough r => r.points

/-- The text of code points. -/
def ofPoints (ps : List CodePoint) : Text :=
  if h : ps.any CodePoint.isSurrogate = true then .rough ⟨ps, h⟩
  else .plain (String.ofList (ps.filterMap CodePoint.char?))

/-- How many code points a text has. -/
def length : Text → Nat
  | .plain s => s.length
  | .rough r => r.points.length

/-- One text after another. -/
def append : Text → Text → Text
  | .plain a, .plain b => .plain (a ++ b)
  | a, b => ofPoints (a.points ++ b.points)

instance : Append Text := ⟨append⟩

/-- Texts with another text between them. -/
def intercalate (between : Text) : List Text → Text
  | [] => ""
  | [t] => t
  | t :: rest => t ++ (between ++ intercalate between rest)

/-- The UTF-8 bytes of a text that has them. -/
def utf8? : Text → Option (List UInt8)
  | .plain s => some (utf8Bytes s)
  | .rough _ => none

/-- Whether one text begins with another. -/
def startsWith (t mark : Text) : Bool := mark.points.isPrefixOf t.points

/-- A text with each two surrogates that stand for a character joined to it. -/
def joined : Text → Text
  | .plain s => .plain s
  | .rough r => ofPoints (CodePoint.joinPairs r.points)

/-- Whether some code points are the same as others or come before them, by their numbers. -/
def inOrder : List CodePoint → List CodePoint → Bool
  | [], _ => true
  | _ :: _, [] => false
  | p :: ps, q :: qs => if p = q then inOrder ps qs else p.toNat < q.toNat

/-- The order of texts by the numbers of their code points. -/
def le (a b : Text) : Bool := inOrder a.points b.points

/-- A text with three marks in the place of each surrogate, as its bytes are read where UTF-8 is
taken for granted. -/
def lossy : Text → String
  | .plain s => s
  | .rough r => String.ofList (r.points.flatMap fun p =>
      (p.char?.map fun c => [c]).getD (List.replicate 3 '\uFFFD'))

end Text

end EventTracker
