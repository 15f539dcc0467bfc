import EventTracker.Proofs.Value.Key
import EventTracker.Proofs.Wire.RoundTrip
import EventTracker.Schema.Container
import EventTracker.Wire.Truncation

/-!
# What is found in a request body

The payload that was cut and encoded into a body is found in it in its normal form. Of a
table with distinct names, each name has the normal form of its value, with texts cut.
-/

namespace EventTracker

theorem dropWord?_append (word cs : List Char) : Json.dropWord? word (word ++ cs) = some cs := by
  induction word with
  | nil => rfl
  | cons c word ih => rw [List.cons_append, Json.dropWord?, if_pos rfl, ih]

/-- The text inside a form body is the JSON text of what was encoded. -/
theorem exists_bodyText?_of_encodeBody {v : Value} {body : String} (sent : encodeBody v = .ok body) :
    ∃ text, Json.encode false v = .ok text ∧ bodyText? body = some text := by
  obtain ⟨data, encoded, rfl⟩ := encodeBody_eq_ok_iff.1 sent
  obtain ⟨text, written, rfl⟩ := encodeData_eq_ok_iff.1 encoded
  refine ⟨text, (payloadText_eq_ok_iff.1 written).1, ?_⟩
  rw [bodyText?, String.toList_append, dropWord?_append, Option.bind_some, String.toList_ofList,
    percentDecode_percentEncode, textOfUtf8?_utf8Bytes, Option.bind_some, String.toList_ofList,
    base64Decode_base64Encode, Option.bind_some, textOfUtf8?_utf8Bytes]

/-- The payload inside a form body. -/
def payloadOf? (body : String) : Option Value :=
  (bodyText? body).bind fun text => (Json.parse text.toList).toOption

theorem payloadOf?_of_encodeBody {v : Value} {body : String} (sent : encodeBody v = .ok body) :
    payloadOf? body = some v.normal := by
  obtain ⟨text, json, found⟩ := exists_bodyText?_of_encodeBody sent
  rw [payloadOf?, found, Option.bind_some, Json.parse_encode json]
  rfl

theorem isProper_of_encodeBody {v : Value} {body : String} (sent : encodeBody v = .ok body) :
    v.isProper = true := ((exists_encodeBody_iff v).1 ⟨body, sent⟩).2.2

/-! ## Tables -/

theorem truncateEntries_eq_map (length : Int) (entries : List (Value × Value)) :
    truncateEntries length entries =
      entries.map fun entry => (entry.1, truncate length entry.2) := by
  induction entries with
  | nil => rfl
  | cons entry rest ih => rw [truncateEntries, ih, List.map_cons]

/-- The entries of a table as they are found in a body. -/
def Table.sent (t : Table Value) : Mapping :=
  t.map fun (name, v) => (.str name, (truncate maxTextLength v).normal)

/-- Where no surrogates are left, there are none in the names, and none are left in the values. -/
theorem Table.proper_of_truncate {t : Table Value} {length : Int}
    (proper : (truncate length t.toValue).isProper = true) :
    ∀ entry ∈ t, entry.1.isProper = true ∧ (truncate length entry.2).isProper = true := by
  rw [toValue, truncate, truncateEntries_eq_map, Value.isProper, Value.entriesProper_iff,
    List.map_map] at proper
  exact List.forall_mem_map.1 proper

theorem Table.proper_of_get? {t : Table Value} {length : Int} {name : Text} {v : Value}
    (proper : (truncate length t.toValue).isProper = true) (found : t.get? name = some v) :
    (truncate length v).isProper = true := by
  obtain ⟨front, key, back, rfl, -⟩ := Entries.exists_eq_append_of_find? found
  exact (proper_of_truncate proper _ (List.mem_append_right _ List.mem_cons_self)).2

theorem Table.normal_truncate {t : Table Value}
    (distinct : Entries.Distinct (fun a b => decide (a = b)) t)
    (proper : (truncate maxTextLength t.toValue).isProper = true) :
    (truncate maxTextLength t.toValue).normal = .map t.sent := by
  have names : t.map (fun entry => (Value.str entry.1.joined,
      (truncate maxTextLength entry.2).normal)) = t.sent := List.map_congr_left fun entry mem => by
    rw [Text.joined_of_isProper (proper_of_truncate proper entry mem).1]
  have apart : Entries.Distinct Value.sameKey t.sent := by
    rw [Entries.Distinct, sent, List.pairwise_map]
    exact distinct.imp fun names => by rw [Value.sameKey_str]; exact names
  rw [toValue, truncate, truncateEntries_eq_map, Value.normal, Value.normalEntries_eq_map,
    ← Entries.ofList_eq_latest keyEquality_sameKey, List.map_map, List.map_map]
  exact congrArg Value.map ((congrArg _ names).trans (Entries.ofList_of_distinct apart))

theorem Table.text?_sent (t : Table Value) (name : Text) :
    t.sent.text? name = (t.get? name).map fun v => (truncate maxTextLength v).normal := by
  rw [Mapping.text?, Mapping.get?, get?]
  induction t with
  | nil => rfl
  | cons entry rest ih =>
    rw [sent, List.map_cons, Entries.find?_cons, Entries.find?_cons, Value.sameKey_str]
    split
    · rfl
    · exact ih

end EventTracker
