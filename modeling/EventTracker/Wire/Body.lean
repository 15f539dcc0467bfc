import EventTracker.Json.Printer
import EventTracker.Json.Parser
import EventTracker.Text.Base64
import EventTracker.Text.Percent
import EventTracker.Wire.Utf8

/-!
# Request bodies

A payload travels as JSON in UTF-8, in base64, in the only field of a form:
`data=` and the percent-encoded base64 text. A payload in whose JSON surrogates stand
cannot be encoded. `decodeData` undoes `encodeData`.
-/

namespace EventTracker

/-- The JSON text that a payload travels as. -/
def payloadText (payload : Value) : Except Json.EncodeError String :=
  (Json.encode false payload).bind fun text =>
    ((Json.gap? payload).map Json.EncodeError.surrogates).elim (.ok text) .error

/-- The base64 text of a payload. -/
def encodeData (payload : Value) : Except Json.EncodeError String :=
  (payloadText payload).map fun text => String.ofList (base64Encode (utf8Bytes text))

/-- The form body of a payload. -/
def encodeBody (payload : Value) : Except Json.EncodeError String :=
  (encodeData payload).map fun data => "data=" ++ String.ofList (percentEncode (utf8Bytes data))

/-- Why a base64 text has no payload. -/
inductive DecodeError where
  | misuse (kind : Misuse)
  | base64
  | utf8
  | json (cause : Json.ParseError)
  deriving DecidableEq

/-- The payload of a base64 text. -/
def decodeText (text : List Char) : Except DecodeError Value :=
  match base64Decode text with
  | none => .error .base64
  | some bytes =>
    match textOfUtf8? bytes with
    | none => .error .utf8
    | some json => (Json.parse json.toList).mapError .json

/-- The payload of a base64 text, which may be given as bytes. -/
def decodeData : Value → Except DecodeError Value
  | .str (.plain s) =>
    if s.toList.all fun c => c.toNat < 0x80 then decodeText s.toList
    else .error (.misuse .badValue)
  | .str (.rough _) => .error (.misuse .badValue)
  | .bytes bs => decodeText (bs.map fun b => Char.ofNat b.toNat)
  | _ => .error (.misuse .wrongType)

/-- The text inside the `data` field of a form body. -/
def bodyText? (body : String) : Option String :=
  (Json.dropWord? "data=".toList body.toList).bind fun field =>
    (textOfUtf8? (percentDecode field)).bind fun data =>
      (base64Decode data.toList).bind textOfUtf8?

/-- The responses that say that a request was accepted. -/
def isAccepted (response : String) : Bool := response == "1" || response == "\"1\""

end EventTracker
