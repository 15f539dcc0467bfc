/-!
# Text as UTF-8

`utf8Bytes` and `textOfUtf8?` go from text to its UTF-8 bytes and back; bytes that are not
well formed have no text.
-/

namespace EventTracker

/-- The UTF-8 bytes of a text. -/
def utf8Bytes (text : String) : List UInt8 := text.toUTF8.data.toList

/-- The text of UTF-8 bytes, if they are well formed. -/
def textOfUtf8? (bytes : List UInt8) : Option String := String.fromUTF8? ⟨bytes.toArray⟩

theorem textOfUtf8?_utf8Bytes (text : String) : textOfUtf8? (utf8Bytes text) = some text := by
  simp [textOfUtf8?, utf8Bytes, String.fromUTF8?, String.toUTF8, text.isValidUTF8]
  rfl

end EventTracker
