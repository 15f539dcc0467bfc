import EventTracker.Text.CodePoint
import EventTracker.Text.Hex
import EventTracker.Text.Printable

/-!
# Quoted text

`quotedText` and `quotedBytes` show text and bytes between quotes, in printable
characters only: the quote and the backslash are escaped, tab, line feed and carriage
return have letters, and all else that cannot be shown, surrogates included, is written in
hexadecimal.
-/

namespace EventTracker

/-- Single quotes, unless the text has one and no double quote. -/
def quoteFor (cs : List Char) : Char :=
  if cs.contains '\'' && !cs.contains '"' then '"' else '\''

/-- One character between quotes. -/
def quotedChar (quote c : Char) : List Char :=
  if c = quote ∨ c = '\\' then ['\\', c]
  else if c = '\t' then ['\\', 't']
  else if c = '\n' then ['\\', 'n']
  else if c = '\r' then ['\\', 'r']
  else if isPrintable c then [c]
  else if c.toNat < 0x100 then '\\' :: 'x' :: hexText 2 c.toNat
  else if c.toNat < 0x10000 then '\\' :: 'u' :: hexText 4 c.toNat
  else '\\' :: 'U' :: hexText 8 c.toNat

/-- One code point between quotes. -/
def quotedPoint (quote : Char) : CodePoint → List Char
  | .char c => quotedChar quote c
  | .surrogate n => '\\' :: 'u' :: hexText 4 (0xD800 + n)

/-- Text between quotes. -/
def quotedText (text : Text) : String :=
  let quote := quoteFor (text.points.filterMap CodePoint.char?)
  String.ofList (quote :: text.points.flatMap (quotedPoint quote) ++ [quote])

/-- One byte between quotes, as the ASCII character it stands for. -/
def quotedByte (quote : Char) (b : UInt8) : List Char :=
  if 0x7F ≤ b.toNat then '\\' :: 'x' :: hexText 2 b.toNat
  else quotedChar quote (Char.ofNat b.toNat)

/-- Bytes between quotes, after the letter `b`. -/
def quotedBytes (bytes : List UInt8) : String :=
  let quote := quoteFor (bytes.map fun b => Char.ofNat b.toNat)
  String.ofList ('b' :: quote :: bytes.flatMap (quotedByte quote) ++ [quote])

end EventTracker
