import EventTracker.Proofs.Calendar.Stamp
import EventTracker.Proofs.Wire.Payload
import Mathlib.Data.List.Forall2

/-!
# Cut payloads on the wire

Cutting the texts of a payload and sending it comes to the same as sending it and cutting
what is found: the cut payload can be encoded exactly if the payload can, with the same
error if not, unless it is only surrogates that cannot be encoded, and they are cut off;
and it is read back as what the payload is read back as, with texts cut. Keys are not cut,
so keys that are spelled alike are still spelled alike, and dates, which become texts only
when they are written, are too short to be cut.
-/

namespace EventTracker

/-! ## How encoding ends -/

namespace Json

variable {ε α β : Type}

/-- How a step ends, whatever its result is. -/
def ending (x : Except ε α) : Except ε Unit := x.map fun _ => ()

@[simp] theorem ending_map (f : α → β) (x : Except ε α) : ending (x.map f) = ending x := by
  cases x <;> rfl

theorem ending_bind_of_const {x : Except ε α} {rest : α → Except ε β} {y : Except ε Unit}
    (same : ∀ a, ending (rest a) = y) : ending (x >>= rest) = (ending x >>= fun _ => y) := by
  cases x with
  | error cause => rfl
  | ok a => exact same a

theorem eq_error_iff_of_ending {x : Except ε α} {y : Except ε β} (same : ending x = ending y)
    (cause : ε) : x = .error cause ↔ y = .error cause := by
  cases x <;> cases y <;> simp_all [ending, Except.map]

theorem exists_ok_of_ending {x : Except ε α} {y : Except ε β} (same : ending x = ending y) {b : β}
    (ended : y = .ok b) : ∃ a, x = .ok a := by
  cases x <;> simp_all [ending, Except.map]

variable {ascii : Bool} {room : Nat}

theorem ending_printItems_cons (v : Value) (rest : List Value) :
    ending (printItems ascii room (v :: rest)) =
      (ending (print ascii room v) >>= fun _ => ending (printItems ascii room rest)) := by
  rw [printItems]
  refine ending_bind_of_const fun first => ?_
  cases printItems ascii room rest <;> rfl

theorem ending_printEntries_cons (k v : Value) (rest : List (Value × Value)) :
    ending (printEntries ascii room ((k, v) :: rest)) =
      (ending (keyText k) >>= fun _ => ending (print ascii room v) >>= fun _ =>
        ending (printEntries ascii room rest)) := by
  rw [printEntries]
  refine ending_bind_of_const fun key => ending_bind_of_const fun first => ?_
  cases printEntries ascii room rest <;> rfl

theorem ending_printItems_truncate {length : Int} {items : List Value}
    (each : ∀ v ∈ items,
      ending (print ascii room (truncate length v)) = ending (print ascii room v)) :
    ending (printItems ascii room (truncateItems length items)) =
      ending (printItems ascii room items) := by
  induction items with
  | nil => rfl
  | cons v rest ih =>
    obtain ⟨here, others⟩ := List.forall_mem_cons.1 each
    rw [truncateItems, ending_printItems_cons, ending_printItems_cons, here, ih others]

theorem ending_printEntries_truncate {length : Int} {entries : List (Value × Value)}
    (each : ∀ entry ∈ entries,
      ending (print ascii room (truncate length entry.2)) = ending (print ascii room entry.2)) :
    ending (printEntries ascii room (truncateEntries length entries)) =
      ending (printEntries ascii room entries) := by
  induction entries with
  | nil => rfl
  | cons entry rest ih =>
    obtain ⟨here, others⟩ := List.forall_mem_cons.1 each
    rw [truncateEntries, ending_printEntries_cons, ending_printEntries_cons, here, ih others]

/-- A value with texts cut is written exactly if the value is, and else fails with the same error:
errors come from keys, kinds of values and depth. -/
theorem ending_print_truncate (length : Int) (v : Value) :
    ending (print ascii room (truncate length v)) = ending (print ascii room v) := by
  induction v using Value.containerInduction generalizing room with
  | list items ih =>
    cases room with
    | zero => rfl
    | succ room =>
      rw [truncate, print, print, ending_map, ending_map,
        ending_printItems_truncate fun v mem => ih v mem]
  | tuple items ih =>
    cases room with
    | zero => rfl
    | succ room =>
      rw [truncate, print, print, ending_map, ending_map,
        ending_printItems_truncate fun v mem => ih v mem]
  | map entries ih =>
    cases room with
    | zero => rfl
    | succ room =>
      rw [truncate, print, print, ending_map, ending_map,
        ending_printEntries_truncate fun entry mem => ih entry mem]
  | str s => cases room <;> rfl
  | _ => rfl

end Json

theorem ending_encode_truncate (length : Int) (v : Value) :
    Json.ending (Json.encode false (truncate length v)) = Json.ending (Json.encode false v) := by
  rw [Json.encode, Json.encode, Json.ending_map, Json.ending_map, Json.ending_print_truncate]

/-- What has no JSON text fails with the cause of that. -/
theorem encodeData_of_encode_eq_error {v : Value} {cause : Json.EncodeError}
    (refused : Json.encode false v = .error cause) : encodeData v = .error cause := by
  rw [encodeData, payloadText, refused]
  rfl

/-- What has a JSON text fails if surrogates stand in it. -/
theorem exists_encodeData_eq_error_iff {v : Value} {text : String}
    (written : Json.encode false v = .ok text) :
    (∃ cause, encodeData v = .error cause) ↔ v.isProper = false := by
  rw [encodeData, payloadText, written, ← Bool.not_eq_true, ← Json.gap?_eq_none_iff]
  cases Json.gap? v <;> simp [Except.bind, Except.map]

/-! ## Cutting text -/

theorem takeInt_natCast {α : Type} (length : Nat) (items : List α) :
    takeInt length items = items.take length := by
  rw [takeInt, if_neg (by omega), Int.toNat_natCast]

theorem points_cutText (length : Nat) (t : Text) :
    (cutText length t).points = t.points.take length := by
  cases t with
  | plain s =>
    rw [cutText, cutString, takeInt_natCast, Text.points_plain, String.toList_ofList,
      Text.points_plain, CodePoint.ofChars, CodePoint.ofChars, List.map_take]
  | rough r => rw [cutText, takeInt_natCast, Text.points_ofPoints]; rfl

theorem cutText_cutText (m n : Nat) (t : Text) :
    cutText n (cutText m t) = cutText (min m n : Nat) t := by
  apply Text.points_injective
  rw [points_cutText, points_cutText, points_cutText, List.take_take, Nat.min_comm]

theorem isProper_cutText (length : Nat) {t : Text} (proper : t.isProper = true) :
    (cutText length t).isProper = true := by
  rw [Text.isProper_iff] at proper ⊢
  rw [points_cutText]
  exact fun p mem => proper p (List.mem_of_mem_take mem)

/-- What is cut off in front of all surrogates is the same after these were joined. -/
theorem cutText_joined (length : Nat) {t : Text} (front : (cutText length t).isProper = true) :
    cutText length t.joined = cutText length t := by
  rw [Text.isProper_iff, points_cutText] at front
  apply Text.points_injective
  rw [points_cutText, points_cutText, Text.points_joined, CodePoint.take_joinPairs front]

theorem truncateItems_eq_map (length : Int) (items : List Value) :
    truncateItems length items = items.map (truncate length) := by
  induction items with
  | nil => rfl
  | cons v rest ih => rw [truncateItems, ih, List.map_cons]

/-- Of two cuts the shorter counts. -/
theorem truncate_truncate (m n : Nat) (v : Value) :
    truncate n (truncate m v) = truncate (min m n : Nat) v := by
  induction v using Value.containerInduction with
  | str s => rw [truncate, truncate, truncate, cutText_cutText]
  | list items ih =>
    simp only [truncate, truncateItems_eq_map, List.map_map]
    exact congrArg Value.list (List.map_congr_left ih)
  | tuple items ih =>
    simp only [truncate, truncateItems_eq_map, List.map_map]
    exact congrArg Value.list (List.map_congr_left ih)
  | map entries ih =>
    simp only [truncate, truncateEntries_eq_map, List.map_map]
    refine congrArg Value.map (List.map_congr_left fun entry mem => ?_)
    rw [Function.comp_apply, ih entry mem]
  | _ => rfl

/-- Cutting leaves no surrogates where there are none. -/
theorem isProper_truncate (length : Nat) {v : Value} (proper : v.isProper = true) :
    (truncate length v).isProper = true := by
  induction v using Value.containerInduction with
  | str t => exact isProper_cutText length proper
  | list items ih | tuple items ih =>
    rw [Value.isProper, Value.itemsProper_iff] at proper
    rw [truncate, Value.isProper, Value.itemsProper_iff, truncateItems_eq_map]
    exact List.forall_mem_map.2 fun v mem => ih v mem (proper v mem)
  | map entries ih =>
    rw [Value.isProper, Value.entriesProper_iff] at proper
    rw [truncate, Value.isProper, Value.entriesProper_iff, truncateEntries_eq_map]
    refine List.forall_mem_map.2 fun entry mem => ?_
    obtain ⟨key, value⟩ := proper entry mem
    exact ⟨key, ih entry mem value⟩
  | _ => exact proper

/-! ## What a cut changes -/

/-- Whether a value is neither a text nor a container. -/
def Value.isScalar : Value → Bool
  | .str _ | .list _ | .tuple _ | .map _ => false
  | _ => true

/-- A value and one that is the same but for its texts, each of which is a prefix of the text in its
place, of no more than `limit` code points. -/
inductive Value.Cut (limit : Nat) : Value → Value → Prop where
  | text {s t : Text} (front : t.points <+: s.points) (short : t.length ≤ limit) :
    Cut limit (.str s) (.str t)
  | list {items items' : List Value} (all : List.Forall₂ (Cut limit) items items') :
    Cut limit (.list items) (.list items')
  | tuple {items items' : List Value} (all : List.Forall₂ (Cut limit) items items') :
    Cut limit (.tuple items) (.list items')
  | map {entries entries' : Mapping} (keys : entries'.map Prod.fst = entries.map Prod.fst)
    (all : List.Forall₂ (Cut limit) (entries.map Prod.snd) (entries'.map Prod.snd)) :
    Cut limit (.map entries) (.map entries')
  | scalar {v : Value} (same : v.isScalar = true) : Cut limit v v

theorem cut_truncate (limit : Nat) (v : Value) : v.Cut limit (truncate limit v) := by
  have items {items : List Value} (each : ∀ v ∈ items, v.Cut limit (truncate limit v)) :
      List.Forall₂ (Value.Cut limit) items (truncateItems limit items) := by
    rw [truncateItems_eq_map, List.forall₂_map_right_iff]
    exact List.forall₂_same.2 each
  induction v using Value.containerInduction with
  | str s =>
    rw [truncate]
    refine .text ?_ ?_
    · rw [points_cutText]
      exact List.take_prefix _ _
    · rw [Text.length_eq, points_cutText]
      exact List.length_take_le _ _
  | list _ ih => exact .list (items ih)
  | tuple _ ih => exact .tuple (items ih)
  | map entries ih =>
    rw [truncate, truncateEntries_eq_map]
    refine .map (by simp) ?_
    rw [List.map_map, List.forall₂_map_right_iff, List.forall₂_map_left_iff]
    exact List.forall₂_same.2 ih
  | _ => exact .scalar rfl

/-! ## Dates are short -/

theorem length_fractionText_le {microseconds : Nat} (small : microseconds < 1000000) :
    (fractionText microseconds).length ≤ 7 := by
  rw [fractionText]
  split
  · exact Nat.zero_le _
  · rw [List.length_cons, length_padded (by decide) small]

theorem length_timeText_le {microseconds : Nat} (within : microseconds < dayMicroseconds) :
    (timeText false microseconds).length ≤ 15 := by
  obtain ⟨hours, minutes, seconds⟩ := length_dayParts within
  have fraction := length_fractionText_le (Nat.mod_lt microseconds (show 0 < 1000000 by decide))
  simp only [timeText, List.length_append, List.length_cons, Bool.false_eq_true, if_false]
  omega

theorem Offset.length_text_le (o : Offset) : o.text.length ≤ 16 := by
  obtain ⟨hours, minutes, seconds⟩ := length_dayParts o.lt_day
  have fraction := length_fractionText_le
    (Nat.mod_lt o.microseconds.natAbs (show 0 < 1000000 by decide))
  simp only [text, List.length_append, List.length_cons]
  split
  · rw [List.length_nil]
    omega
  · simp only [List.length_cons, List.length_append]
    omega

theorem DateTime.length_isoText_le (t : DateTime) : t.isoText.length ≤ 42 := by
  have date := t.date.length_isoText
  have time := length_timeText_le (Nat.mod_lt t.wall (show 0 < dayMicroseconds by decide))
  have offset : ((t.offset.map Offset.text).getD []).length ≤ 16 := by
    cases t.offset with
    | none => exact Nat.zero_le _
    | some o => exact o.length_text_le
  simp only [isoText, styledText, timeOfDay, List.length_append, List.length_cons]
  omega

/-! ## Cutting and sending -/

theorem cutText_of_length_le (limit : Nat) {cs : List Char} (short : cs.length ≤ limit) :
    cutText limit (String.ofList cs) = .plain (String.ofList cs) := by
  rw [cutText, cutString, takeInt_natCast, String.toList_ofList, List.take_of_length_le short]

/-- Where dates are not cut and no surrogates are left, texts may be cut before or after a value went
through JSON. -/
theorem normal_truncate (limit : Nat) (long : 42 ≤ limit) {v : Value}
    (proper : (truncate limit v).isProper = true) :
    (truncate limit v).normal = truncate limit v.normal := by
  have items {items : List Value}
      (each : ∀ v ∈ items, (truncate limit v).normal = truncate limit v.normal) :
      Value.normalItems (truncateItems limit items) =
        truncateItems limit (Value.normalItems items) := by
    simp only [truncateItems_eq_map, Value.normalItems_eq_map, List.map_map]
    exact List.map_congr_left each
  induction v using Value.containerInduction with
  | str t =>
    rw [truncate, Value.normal, Value.normal, truncate, cutText_joined limit proper,
      Text.joined_of_isProper proper]
  | date d =>
    rw [truncate, Value.normal, truncate, cutText_of_length_le]
    exact Nat.le_trans (Nat.le_of_eq d.length_isoText) (by omega)
  | datetime t =>
    rw [truncate, Value.normal, truncate, cutText_of_length_le]
    exact Nat.le_trans t.length_isoText_le long
  | list _ ih | tuple _ ih =>
    rw [truncate, Value.isProper, Value.itemsProper_iff, truncateItems_eq_map] at proper
    rw [truncate, Value.normal, Value.normal, truncate,
      items fun v mem => ih v mem (proper _ (List.mem_map_of_mem mem))]
  | map entries ih =>
    rw [truncate, Value.isProper, Value.entriesProper_iff, truncateEntries_eq_map] at proper
    have inner := List.forall_mem_map.1 proper
    -- keys are spelled as before, so those that fall together are the same
    have spelled : Value.normalEntries (truncateEntries limit entries) =
        (Value.normalEntries entries).map fun entry => (entry.1, truncate limit entry.2) := by
      rw [Value.normalEntries_eq_map, Value.normalEntries_eq_map, truncateEntries_eq_map,
        List.map_map, List.map_map]
      refine List.map_congr_left fun entry mem => ?_
      simp only [Function.comp_apply, ih entry mem (inner entry mem).2]
    rw [truncate, Value.normal, Value.normal, truncate, spelled, Entries.latest_map_values,
      truncateEntries_eq_map]
  | _ => rfl

/-- Cutting the texts of a payload goes with sending it. What has no JSON text fails with the same
error, cut or not. The cut payload fails to be encoded exactly if the payload does, unless that has
a JSON text and no surrogates are left in it after the cut. Where the payload is encoded, the cut one
is read back as what the payload is read back as, with texts cut: each text in it is a prefix of at
most 255 characters, and keys, lengths of lists and other values are the same. Of two cuts the
shorter counts. -/
theorem truncate_goes_with_encodeData (v : Value) :
    (∀ cause, Json.encode false v = .error cause →
        encodeData v = .error cause ∧ encodeData (truncate maxTextLength v) = .error cause) ∧
      ((∃ cause, encodeData (truncate maxTextLength v) = .error cause) ↔
        (∃ cause, encodeData v = .error cause) ∧
          ¬ ((∃ text, Json.encode false v = .ok text) ∧
            (truncate maxTextLength v).isProper = true)) ∧
      (∀ data, encodeData v = .ok data →
        ∃ cut found, encodeData (truncate maxTextLength v) = .ok cut ∧
          decodeData (.str data) = .ok found ∧
          decodeData (.str cut) = .ok (truncate maxTextLength found) ∧
          found.Cut 255 (truncate maxTextLength found)) ∧
      ∀ m n : Nat, truncate n (truncate m v) = truncate (min m n : Nat) v := by
  have ending := ending_encode_truncate maxTextLength v
  have refused {cause : Json.EncodeError} (refused : Json.encode false v = .error cause) :
      encodeData v = .error cause ∧ encodeData (truncate maxTextLength v) = .error cause :=
    ⟨encodeData_of_encode_eq_error refused, encodeData_of_encode_eq_error
      ((Json.eq_error_iff_of_ending ending cause).2 refused)⟩
  refine ⟨fun cause => refused, ?_, fun data encoded => ?_, fun m n => truncate_truncate m n v⟩
  · cases written : Json.encode false v with
    | error cause =>
      obtain ⟨whole, cut⟩ := refused written
      simp [whole, cut]
    | ok text =>
      obtain ⟨shorter, cut⟩ := Json.exists_ok_of_ending ending written
      rw [exists_encodeData_eq_error_iff written, exists_encodeData_eq_error_iff cut]
      cases proper : v.isProper with
      | false => simp
      | true =>
        have front : (truncate maxTextLength v).isProper = true := isProper_truncate 255 proper
        simp [front]
  · have proper := ((exists_encodeData_iff v).1 ⟨data, encoded⟩).2.2
    obtain ⟨text, written, -⟩ := encodeData_eq_ok_iff.1 encoded
    obtain ⟨shorter, written⟩ := Json.exists_ok_of_ending ending (payloadText_eq_ok_iff.1 written).1
    obtain ⟨cut, sent⟩ : ∃ cut, encodeData (truncate maxTextLength v) = .ok cut := by
      refine Json.exists_map_eq_ok_iff.2 ⟨shorter, payloadText_eq_ok_iff.2 ⟨written, ?_⟩⟩
      exact isProper_truncate 255 proper
    refine ⟨cut, v.normal, sent, decodeData_encodeData encoded, ?_, cut_truncate 255 v.normal⟩
    rw [decodeData_encodeData sent]
    exact congrArg Except.ok (normal_truncate 255 (by decide) (isProper_truncate 255 proper))

/-- Two keys of one spelling, and under the later of them a tuple of a date and a text that is too
long by one character. -/
theorem truncate_goes_with_encodeData_collision :
    let long (n : Nat) : Value := .str (String.ofList (List.replicate n 'é'))
    let payload : Value :=
      .map [(.bool true, long 300), (.str "true", .tuple [.date ⟨⟨0, by decide⟩⟩, long 256])]
    ∃ data cut, encodeData payload = .ok data ∧
      encodeData (truncate maxTextLength payload) = .ok cut ∧
      decodeData (.str data) =
        .ok (.map [(.str "true", .list [.str "0001-01-01", long 256])]) ∧
      decodeData (.str cut) =
        .ok (.map [(.str "true", .list [.str "0001-01-01", long 255])]) := by
  intro long payload
  obtain ⟨data, encoded⟩ : ∃ data, encodeData payload = .ok data :=
    (exists_encodeData_iff payload).2 ⟨by rfl, by decide, by rfl⟩
  obtain ⟨cut, found, sent, whole, front, -⟩ :=
    (truncate_goes_with_encodeData payload).2.2.1 data encoded
  obtain rfl : found = payload.normal :=
    Except.ok.inj (whole.symm.trans (decodeData_encodeData encoded))
  have shorter : truncate maxTextLength (long 256) = long 255 := by
    show Value.str (cutText (255 : Nat) _) = _
    rw [cutText, cutString, takeInt_natCast, String.toList_ofList, List.take_replicate]
    rfl
  have short : cutText maxTextLength "0001-01-01" = .plain "0001-01-01" :=
    cutText_of_length_le 255 (show "0001-01-01".toList.length ≤ 255 by decide)
  have normal : payload.normal = .map [(.str "true", .list [.str "0001-01-01", long 256])] := rfl
  refine ⟨data, cut, encoded, sent, normal ▸ whole, front.trans ?_⟩
  rw [normal, truncate, truncateEntries, truncateEntries, truncate, truncateItems, truncateItems,
    truncateItems, truncate, short, shorter]

/-- A surrogate behind the 255 characters that are kept: the payload cannot be encoded, but once
it is cut, it can. -/
theorem surrogate_is_cut_off :
    let payload : Value :=
      .map [(.str "x", .str (.ofPoints (List.replicate 255 (.char 'a') ++ [.surrogate 0])))]
    (∃ cause, encodeData payload = .error cause) ∧
      ∃ cut, encodeData (truncate maxTextLength payload) = .ok cut := by
  intro payload
  obtain ⟨text, written⟩ : ∃ text, Json.encode false payload = .ok text :=
    (Json.exists_encode_iff payload).2 ⟨by rfl, by decide⟩
  refine ⟨(exists_encodeData_eq_error_iff written).2 (by decide +kernel), ?_⟩
  exact (exists_encodeData_iff _).2 ⟨by rfl, by decide +kernel, by decide +kernel⟩

end EventTracker
