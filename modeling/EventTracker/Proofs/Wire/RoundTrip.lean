import EventTracker.Wire.Body
import EventTracker.Proofs.Json.RoundTrip
import EventTracker.Proofs.Json.Surrogates

/-!
# Request bodies carry their payload

A body is `data=` and text that is safe in a form. Its percent decoding is the base64 text
of the payload, and the payload is read back from that as its normal form
(`encodeBody_roundTrip`).
-/

namespace EventTracker

/-! ## Percent encoding -/

/-- What holds of the 256 bytes by number holds of every byte. -/
theorem forall_byte {P : UInt8 → Prop} (all : ∀ n : Fin 256, P (UInt8.ofNat n)) (b : UInt8) : P b := by
  have one := all ⟨b.toNat, b.toNat_lt⟩
  rwa [UInt8.ofNat_toNat] at one

theorem percentEncodeByte_of_unreserved {b : UInt8} (h : isUnreserved b = true) :
    percentEncodeByte b = [Char.ofNat b.toNat] := by
  rw [percentEncodeByte, if_pos h]

/-- An unreserved byte is the UTF-8 of its own character, which is not the escape mark. -/
theorem utf8EncodeChar_of_unreserved {b : UInt8} (h : isUnreserved b = true) :
    String.utf8EncodeChar (Char.ofNat b.toNat) = [b] ∧ Char.ofNat b.toNat ≠ '%' := by
  have all : ∀ b : UInt8, isUnreserved b = true →
      String.utf8EncodeChar (Char.ofNat b.toNat) = [b] ∧ Char.ofNat b.toNat ≠ '%' :=
    forall_byte (by decide +kernel)
  exact all b h

theorem percentDecode_percentEncodeByte (b : UInt8) (rest : List Char) :
    percentDecode (percentEncodeByte b ++ rest) = b :: percentDecode rest := by
  by_cases h : isUnreserved b = true
  · obtain ⟨utf8, ne⟩ := utf8EncodeChar_of_unreserved h
    rw [percentEncodeByte_of_unreserved h, List.singleton_append, percentDecode, utf8]
    · rfl
    · exact fun _ _ _ mark _ => ne mark
  · have small : b.toNat < 256 := b.toNat_lt
    rw [percentEncodeByte, if_neg h]
    simp only [List.cons_append, List.nil_append, percentDecode]
    rw [hexValue?_upperHexDigit (by omega), hexValue?_upperHexDigit (Nat.mod_lt _ (by decide))]
    simp only [Nat.div_add_mod, UInt8.ofNat_toNat]

/-- Reading undoes writing. -/
theorem percentDecode_percentEncode (bytes : List UInt8) :
    percentDecode (percentEncode bytes) = bytes := by
  unfold percentEncode
  induction bytes with
  | nil => simp [percentDecode]
  | cons b rest ih => rw [List.flatMap_cons, percentDecode_percentEncodeByte, ih]

/-! ## Base64 text inside a form -/

theorem sextetLetter_mem {n : Nat} (h : n < 64) : sextetLetter n ∈ base64Alphabet := by
  have all : ∀ n : Fin 64, sextetLetter n ∈ base64Alphabet := by decide
  exact all ⟨n, h⟩

/-- Base64 text is made of the letters of its alphabet and of padding. -/
theorem mem_base64Encode {bytes : List UInt8} {c : Char} (mem : c ∈ base64Encode bytes) :
    c ∈ base64Alphabet ∨ c = '=' := by
  fun_induction base64Encode bytes with
  | case1 a b d rest ih =>
    have ha : a.toNat < 256 := a.toNat_lt
    have hb : b.toNat < 256 := b.toNat_lt
    have hd : d.toNat < 256 := d.toNat_lt
    simp only [List.mem_cons] at mem
    rcases mem with rfl | rfl | rfl | rfl | mem
    · exact Or.inl (sextetLetter_mem (by omega))
    · exact Or.inl (sextetLetter_mem (by omega))
    · exact Or.inl (sextetLetter_mem (by omega))
    · exact Or.inl (sextetLetter_mem (by omega))
    · exact ih mem
  | case2 a b =>
    have ha : a.toNat < 256 := a.toNat_lt
    have hb : b.toNat < 256 := b.toNat_lt
    simp only [List.mem_cons, List.not_mem_nil, or_false] at mem
    rcases mem with rfl | rfl | rfl | rfl
    · exact Or.inl (sextetLetter_mem (by omega))
    · exact Or.inl (sextetLetter_mem (by omega))
    · exact Or.inl (sextetLetter_mem (by omega))
    · exact Or.inr rfl
  | case3 a =>
    have ha : a.toNat < 256 := a.toNat_lt
    simp only [List.mem_cons, List.not_mem_nil, or_false] at mem
    rcases mem with rfl | rfl | rfl | rfl
    · exact Or.inl (sextetLetter_mem (by omega))
    · exact Or.inl (sextetLetter_mem (by omega))
    · exact Or.inr rfl
    · exact Or.inr rfl
  | case4 => cases mem

/-- Text made of ASCII letters, digits and the escapes of `+`, `/` and `=`. -/
inductive FormSafe : List Char → Prop where
  | nil : FormSafe []
  | alphanumeric {c : Char} {rest : List Char} (h : c.isAlphanum = true) (safe : FormSafe rest) :
    FormSafe (c :: rest)
  | plus {rest : List Char} (safe : FormSafe rest) : FormSafe ('%' :: '2' :: 'B' :: rest)
  | slash {rest : List Char} (safe : FormSafe rest) : FormSafe ('%' :: '2' :: 'F' :: rest)
  | equals {rest : List Char} (safe : FormSafe rest) : FormSafe ('%' :: '3' :: 'D' :: rest)

/-- How a character of a base64 text stands in a form. -/
def formLetter (c : Char) : List Char := (String.utf8EncodeChar c).flatMap percentEncodeByte

theorem formLetter_of_mem {c : Char} (mem : c ∈ base64Alphabet ∨ c = '=') :
    (c.isAlphanum = true ∧ formLetter c = [c]) ∨ formLetter c = ['%', '2', 'B'] ∨
      formLetter c = ['%', '2', 'F'] ∨ formLetter c = ['%', '3', 'D'] := by
  -- the letters are listed, lest all characters be tried
  have all : ('=' :: base64Alphabet).all (fun c =>
      (c.isAlphanum = true ∧ formLetter c = [c]) ∨ formLetter c = ['%', '2', 'B'] ∨
        formLetter c = ['%', '2', 'F'] ∨ formLetter c = ['%', '3', 'D']) = true := by
    decide +kernel
  exact of_decide_eq_true (List.all_eq_true.1 all c (List.mem_cons.2 mem.symm))

theorem formSafe_flatMap_formLetter {cs : List Char}
    (all : ∀ c ∈ cs, c ∈ base64Alphabet ∨ c = '=') : FormSafe (cs.flatMap formLetter) := by
  induction cs with
  | nil => exact FormSafe.nil
  | cons c rest ih =>
    have safe := ih fun c mem => all c (List.mem_cons_of_mem _ mem)
    rw [List.flatMap_cons]
    rcases formLetter_of_mem (all c List.mem_cons_self) with ⟨letter, text⟩ | text | text | text
    · exact text ▸ FormSafe.alphanumeric letter safe
    · exact text ▸ FormSafe.plus safe
    · exact text ▸ FormSafe.slash safe
    · exact text ▸ FormSafe.equals safe

theorem utf8Bytes_ofList (cs : List Char) :
    utf8Bytes (String.ofList cs) = cs.flatMap String.utf8EncodeChar := by
  simp [utf8Bytes, String.toUTF8, List.utf8Encode]

theorem percentEncode_utf8Bytes_ofList (cs : List Char) :
    percentEncode (utf8Bytes (String.ofList cs)) = cs.flatMap formLetter := by
  rw [utf8Bytes_ofList, percentEncode, List.flatMap_assoc]
  rfl

/-- Base64 text is ASCII. -/
theorem toNat_lt_of_mem_base64Encode {bytes : List UInt8} {c : Char} (mem : c ∈ base64Encode bytes) :
    c.toNat < 0x80 := by
  have all : ('=' :: base64Alphabet).all (fun c => c.toNat < 0x80) = true := by decide
  exact of_decide_eq_true (List.all_eq_true.1 all c (List.mem_cons.2 (mem_base64Encode mem).symm))

/-! ## Payloads -/

/-- The JSON text travels unless surrogates stand in it. -/
theorem payloadText_eq_ok_iff {v : Value} {text : String} :
    payloadText v = .ok text ↔ Json.encode false v = .ok text ∧ v.isProper = true := by
  rw [payloadText, ← Json.gap?_eq_none_iff]
  cases Json.encode false v <;> cases Json.gap? v <;> simp [Except.bind]

theorem encodeData_eq_ok_iff {v : Value} {data : String} :
    encodeData v = .ok data ↔
      ∃ text, payloadText v = .ok text ∧ String.ofList (base64Encode (utf8Bytes text)) = data :=
  Json.map_eq_ok_iff

theorem encodeBody_eq_ok_iff {v : Value} {body : String} :
    encodeBody v = .ok body ↔
      ∃ data, encodeData v = .ok data ∧
        "data=" ++ String.ofList (percentEncode (utf8Bytes data)) = body :=
  Json.map_eq_ok_iff

/-- A payload is read back as its normal form. -/
theorem decodeData_encodeData {v : Value} {data : String} (encoded : encodeData v = .ok data) :
    decodeData (.str data) = .ok v.normal := by
  obtain ⟨text, written, rfl⟩ := encodeData_eq_ok_iff.1 encoded
  have json := (payloadText_eq_ok_iff.1 written).1
  have ascii : (base64Encode (utf8Bytes text)).all (fun c => c.toNat < 0x80) = true := by
    rw [List.all_eq_true]
    exact fun c mem => decide_eq_true (toNat_lt_of_mem_base64Encode mem)
  rw [decodeData, String.toList_ofList, if_pos ascii, decodeText, base64Decode_base64Encode]
  simp only [textOfUtf8?_utf8Bytes, Json.parse_encode json]
  rfl

theorem exists_encodeData_iff (v : Value) :
    (∃ data, encodeData v = .ok data) ↔
      v.writable = true ∧ v.depth ≤ maxDepth ∧ v.isProper = true := by
  rw [encodeData, Json.exists_map_eq_ok_iff]
  simp only [payloadText_eq_ok_iff, exists_and_right, Json.exists_encode_iff, and_assoc]

theorem exists_encodeBody_iff (v : Value) :
    (∃ body, encodeBody v = .ok body) ↔
      v.writable = true ∧ v.depth ≤ maxDepth ∧ v.isProper = true := by
  rw [encodeBody, Json.exists_map_eq_ok_iff, exists_encodeData_iff]

/-- A body exists exactly for writable values that are not too deep and hold no surrogates. It is
made of `data=` and safe text, which is the escaped base64 text of the payload, and the payload is
read back from that text as its normal form: unchanged if it is plain data. -/
theorem encodeBody_roundTrip (v : Value) :
    ((∃ body, encodeBody v = .ok body) ↔
        v.writable = true ∧ v.depth ≤ maxDepth ∧ v.isProper = true) ∧
      ∀ body, encodeBody v = .ok body →
        ∃ data field, encodeData v = .ok data ∧ body = "data=" ++ String.ofList field ∧
          FormSafe field ∧ textOfUtf8? (percentDecode field) = some data ∧
          decodeData (.str data) = .ok v.normal ∧
          (v.isPlain = true → decodeData (.str data) = .ok v) := by
  refine ⟨exists_encodeBody_iff v, fun body sent => ?_⟩
  obtain ⟨data, encoded, rfl⟩ := encodeBody_eq_ok_iff.1 sent
  have read := decodeData_encodeData encoded
  have safe : FormSafe (percentEncode (utf8Bytes data)) := by
    obtain ⟨text, -, rfl⟩ := encodeData_eq_ok_iff.1 encoded
    rw [percentEncode_utf8Bytes_ofList]
    exact formSafe_flatMap_formLetter fun c mem => mem_base64Encode mem
  refine ⟨data, _, encoded, rfl, safe, ?_, read, fun plain => ?_⟩
  · rw [percentDecode_percentEncode, textOfUtf8?_utf8Bytes]
  · rw [read, Value.normal_of_isPlain plain]

/-- Two keys of the same spelling with a tuple under the later of them, and text that is neither
ASCII nor free of escapes. -/
theorem encodeBody_roundTrip_collision :
    ∃ body data, encodeBody (.map [(.bool true, .str "😀\n"), (.null, .list []),
        (.str "true", .tuple [.str "é\"", .null])]) = .ok body ∧
      encodeData (.map [(.bool true, .str "😀\n"), (.null, .list []),
        (.str "true", .tuple [.str "é\"", .null])]) = .ok data ∧
      decodeData (.str data) =
        .ok (.map [(.str "true", .list [.str "é\"", .null]), (.str "null", .list [])]) := by
  have trip := encodeBody_roundTrip (.map [(.bool true, .str "😀\n"), (.null, .list []),
    (.str "true", .tuple [.str "é\"", .null])])
  obtain ⟨body, sent⟩ := trip.1.2 ⟨by decide, by decide, by decide⟩
  obtain ⟨data, -, encoded, -, -, -, decoded, -⟩ := trip.2 body sent
  exact ⟨body, data, sent, encoded, decoded⟩

end EventTracker
