import EventTracker.Proofs.Profile.WireForm
import EventTracker.Proofs.Store.Layers
import EventTracker.Proofs.Tracker.Handling
import EventTracker.Proofs.Tracker.Returns
import EventTracker.Proofs.Wire.Truncation

/-!
# Charges

A charge of an amount appends one transaction to the profile: the caller's properties,
with the amount, and with a time as a stamp. A charge of what is no amount makes no
request, and its callback is told so, and so it is if surrogates would stand in the body.
An integer and its text charge the same if the integer is a double; else the text charges
the nearest double, or is no amount.
-/

namespace EventTracker

/-! ## Requests that are made -/

/-- A value with a JSON text has one after its texts were cut. -/
theorem exists_encode_truncate {v : Value} (writable : v.writable = true)
    (shallow : v.depth ≤ maxDepth) :
    ∃ text, Json.encode false (truncate maxTextLength v) = .ok text := by
  obtain ⟨text, written⟩ : ∃ text, Json.encode false v = .ok text :=
    (Json.exists_encode_iff v).2 ⟨writable, shallow⟩
  exact Json.exists_ok_of_ending (ending_encode_truncate maxTextLength v) written

theorem exists_encodeBody_truncate {v : Value} (writable : v.writable = true)
    (shallow : v.depth ≤ maxDepth) (proper : (truncate maxTextLength v).isProper = true) :
    ∃ body, encodeBody (truncate maxTextLength v) = .ok body := by
  obtain ⟨text, written⟩ := exists_encode_truncate writable shallow
  obtain ⟨writable, shallow⟩ := (Json.exists_encode_iff _).1 ⟨text, written⟩
  exact (exists_encodeBody_iff _).2 ⟨writable, shallow, proper⟩

/-- Surrogates that are left are all that keeps such a value from being encoded. -/
theorem exists_gap_encodeBody_truncate {v : Value} (writable : v.writable = true)
    (shallow : v.depth ≤ maxDepth) (rough : (truncate maxTextLength v).isProper = false) :
    ∃ gap, encodeBody (truncate maxTextLength v) = .error (.surrogates gap) := by
  obtain ⟨text, written⟩ := exists_encode_truncate writable shallow
  rw [← Bool.not_eq_true, ← Json.gap?_eq_none_iff, ← ne_eq, Option.ne_none_iff_exists'] at rough
  obtain ⟨gap, first⟩ := rough
  refine ⟨gap, ?_⟩
  rw [encodeBody, encodeData, payloadText, written, first]
  rfl

variable {w w' : World} {t : Tracker}

/-- A payload that can be cut and encoded is scheduled in a loop. -/
theorem exists_submit_eq {payload : Value} {body : String} (fits : payload.FitsBelow 0)
    (encoded : encodeBody (truncate maxTextLength payload) = .ok body) (looping : w.looping = true)
    (endpoint : Endpoint) (callback : Value) :
    ∃ log, w.submit t endpoint payload callback =
      ({ w with
          log
          queue := w.queue ++ [⟨w.created, w.currentPlace, endpoint,
            t.config.apiHost ++ endpoint.path ++ "/", body, callback⟩]
          created := w.created + 1 }, .ok (.ok w.created)) := by
  have cut : truncated maxTextLength payload = .ok (truncate maxTextLength payload) := if_pos fits
  unfold World.submit
  simp only [cut, encoded]
  exact ⟨_, if_pos looping⟩

/-- What makes no mutation is told to the listener. -/
theorem exists_mutate_of_invalid {operation : Field} {operand : Value} {report : Report}
    (known : t.distinctId ≠ "")
    (invalid : ProfileMutation.schema.checkFields
      [(.str ProfileMutation.tokenField.name, .str t.token),
        (.str ProfileMutation.distinctIdField.name, .str t.distinctId),
        (.str operation.name, operand)] = .error report) (method : String) (callback : Value) :
    ∃ records, w.mutate t method callback operation operand =
      (w.record records).refuse callback (.validation (.invalidMutation method report)) := by
  unfold World.mutate World.withDistinctId
  rw [Store.distinctId_of_props (s := w.store t) rfl]
  simp only [if_neg known, invalid]
  exact ⟨_, rfl⟩

namespace ProfileMutation

/-- Surrogates may stand neither in the token of a mutation nor in its user. -/
theorem exists_report_of_rough {token id : Text} {operation : Field}
    (names : operation.name ≠ "$token" ∧ operation.name ≠ "$distinct_id")
    (rough : ¬ (token.isProper = true ∧ id.isProper = true)) (operand : Value) :
    ∃ report, schema.checkFields [(.str tokenField.name, .str token),
      (.str distinctIdField.name, .str id), (.str operation.name, operand)] = .error report := by
  cases checked : schema.checkFields [(.str tokenField.name, .str token),
      (.str distinctIdField.name, .str id), (.str operation.name, operand)] with
  | error report => exact ⟨report, rfl⟩
  | ok m =>
    refine absurd ⟨?_, ?_⟩ rough
    · rw [token_of_checkFields names.1 checked]
      rfl
    · rw [distinctId_of_checkFields names.2 checked]
      rfl

variable {m : ProfileMutation}

theorem isProper_truncate_wire (m : ProfileMutation) :
    (truncate maxTextLength m.wire.toValue).isProper =
      (truncate maxTextLength m.operation.operand).isProper := by
  have text (s : String) : (cutText maxTextLength s).isProper = true :=
    isProper_cutText 255 (t := .plain s) rfl
  have plain (s : String) : Text.isProper (.plain s) = true := rfl
  simp [wire, Table.toValue, truncate, truncateEntries, Value.isProper, Value.entriesProper,
    Value.keySpelling, text, plain]

/-- What is found in the body of a mutation. -/
theorem normal_truncate_wire (proper : (truncate maxTextLength m.operation.operand).isProper = true) :
    (truncate maxTextLength m.wire.toValue).normal =
      .map [(.str "$token", .str (firstCharacters m.token)),
        (.str "$distinct_id", .str (firstCharacters m.distinctId)),
        (.str m.operation.wireName, (truncate maxTextLength m.operation.operand).normal)] := by
  have text (s : String) : (truncate maxTextLength (.str s)).normal = .str (firstCharacters s) :=
    normal_truncate_str (isProper_cutText 255 (t := .plain s) rfl)
  rw [Table.normal_truncate m.distinct_wire (m.isProper_truncate_wire.trans proper), ← text, ← text]
  rfl

theorem writable_wire (writable : m.operation.operand.writable = true) :
    m.wire.toValue.writable = true := by
  simp [Table.toValue, wire, Value.writable, Value.entriesWritable, Value.spellable, writable]

end ProfileMutation

/-- Whether a mutation of the profile of a tracker's user can be written in UTF-8: surrogates stand
neither in the token and the user, nor in what is left of the operand after its texts were cut. -/
structure Tracker.CanSend (t : Tracker) (operation : ProfileOperation) : Prop where
  token : t.token.isProper = true
  user : t.distinctId.isProper = true
  operand : (truncate maxTextLength operation.operand).isProper = true

/-- An operation with a JSON text that is not nested too deeply makes one request, which holds it, if
it can be written in UTF-8; else none is made, and the callback is told of one error. -/
theorem mutate_sends_or_refuses (field : Field) {operand : Value} {operation : ProfileOperation}
    (names : field.name ≠ "$token" ∧ field.name ≠ "$distinct_id")
    (makes : ∀ token user : String, token ≠ "" → user ≠ "" → ProfileMutation.schema.checkFields
      [(.str ProfileMutation.tokenField.name, .str token),
        (.str ProfileMutation.distinctIdField.name, .str user),
        (.str field.name, operand)] = .ok ⟨token, user, operation⟩)
    (writable : operation.operand.writable = true) (fits : operation.operand.FitsBelow 1)
    (hasToken : t.token ≠ "") (known : t.distinctId ≠ "") (looping : w.looping = true)
    (method : String) (callback : Value) :
    (t.CanSend operation → ∃ log body,
      payloadOf? body = some (.map [(.str "$token", .str (firstCharacters t.token)),
        (.str "$distinct_id", .str (firstCharacters t.distinctId)),
        (.str operation.wireName, (truncate maxTextLength operation.operand).normal)]) ∧
      w.mutate t method callback field operand =
        ({ w with
            log
            queue := w.queue ++ [⟨w.created, w.currentPlace, .engage,
              t.config.apiHost ++ Endpoint.engage.path ++ "/", body, callback⟩]
            created := w.created + 1 }, .ok (some w.created))) ∧
    (¬ t.CanSend operation → ∃ records problem, w.mutate t method callback field operand =
      (w.record records).refuse callback (.validation problem)) := by
  by_cases named : t.token.isProper = true ∧ t.distinctId.isProper = true
  case neg =>
    obtain ⟨report, invalid⟩ := ProfileMutation.exists_report_of_rough names named operand
    obtain ⟨records, refused⟩ := exists_mutate_of_invalid (w := w) known invalid method callback
    exact ⟨fun can => absurd ⟨can.token, can.user⟩ named, fun _ => ⟨records, _, refused⟩⟩
  case pos =>
    obtain ⟨token, own⟩ := Text.isProper_iff_exists.1 named.1
    obtain ⟨user, same⟩ := Text.isProper_iff_exists.1 named.2
    have made := makes token user (mt Text.plain_inj.2 (own ▸ hasToken))
      (mt Text.plain_inj.2 (same ▸ known))
    rw [← own, ← same] at made
    have room : (ProfileMutation.wire ⟨token, user, operation⟩).toValue.FitsBelow 0 := by
      rw [Value.FitsBelow, ProfileMutation.depth_wire]
      exact fits
    have shallow := Nat.le_trans room (show maxCutDepth ≤ maxDepth by decide)
    have writes := ProfileMutation.writable_wire (m := ⟨token, user, operation⟩) writable
    have front := ProfileMutation.isProper_truncate_wire ⟨token, user, operation⟩
    refine ⟨fun can => ?_, fun cannot => ?_⟩
    · obtain ⟨body, encoded⟩ := exists_encodeBody_truncate writes shallow (front.trans can.operand)
      obtain ⟨log, submitted⟩ := exists_submit_eq (t := t) room encoded looping .engage callback
      refine ⟨log, body, ?_, ?_⟩
      · rw [payloadOf?_of_encodeBody encoded, ProfileMutation.normal_truncate_wire can.operand, own,
          same]
      · unfold World.mutate World.withDistinctId
        rw [Store.distinctId_of_props (s := w.store t) rfl]
        simp only [if_neg known, made, submitted]
        rfl
    · have rough : (truncate maxTextLength operation.operand).isProper = false :=
        Bool.eq_false_iff.2 fun proper => cannot ⟨named.1, named.2, proper⟩
      obtain ⟨gap, refused⟩ := exists_gap_encodeBody_truncate writes shallow (front.trans rough)
      have cut : truncated maxTextLength _ = .ok _ := if_pos room
      unfold World.mutate World.withDistinctId World.submit
      rw [Store.distinctId_of_props (s := w.store t) rfl]
      simp only [if_neg known, made, cut, refused]
      exact ⟨_, _, rfl⟩

/-- The operation that appends a value to a list in a profile. -/
def ProfileOperation.appending (name : String) (v : Value) : ProfileOperation := .append [(name, v)]

namespace ProfileOperation

variable (name : String) (v : Value)

theorem depth_appending : (appending name v).operand.depth = v.depth + 1 := by
  simp [appending, operand, Table.toValue, Value.depth, Value.entriesDepth]

theorem writable_appending : (appending name v).operand.writable = v.writable := by
  simp [appending, operand, Table.toValue, Value.writable, Value.entriesWritable, Value.spellable]

theorem isProper_truncate_appending :
    (truncate maxTextLength (appending name v).operand).isProper =
      (truncate maxTextLength v).isProper := by
  have plain : Text.isProper (.plain name) = true := rfl
  simp [appending, operand, Table.toValue, truncate, truncateEntries, Value.isProper,
    Value.entriesProper, Value.keySpelling, plain]

theorem normal_truncate_appending :
    (truncate maxTextLength (appending name v).operand).normal =
      .map [(.str name, (truncate maxTextLength v).normal)] := rfl

end ProfileOperation

namespace ProfileMutation

/-- Where there is a token and a user, a mutation that appends passes its checks. -/
theorem checkFields_appending {token id : String} (hasToken : token ≠ "") (known : id ≠ "")
    (name : String) (v : Value) :
    schema.checkFields [(.str tokenField.name, .str token), (.str distinctIdField.name, .str id),
      (.str appendField.name, .map [(.str name, v)])] = .ok ⟨token, id, .appending name v⟩ := by
  have passed : checkProperties (.map [(.str name, v)]) = .ok [(name, v)] :=
    Table.checkProperties_asMapping [(name, v)]
  exact Schema.checkFields_eq_ok_iff.2 ⟨⟨token, id, none, none, none, none, some [(name, v)]⟩,
    check_eq_ok_iff.2 ⟨Field.required_text rfl hasToken, Field.required_text rfl known, rfl, rfl, rfl,
      rfl, Field.withDefault_of_find? rfl nofun passed⟩, rfl, rfl⟩

end ProfileMutation

/-! ## Transactions -/

/-- A value that is sent is put into its JSON form, with texts cut. -/
def Value.SentAs (v sent : Value) : Prop :=
  ∃ text form, Json.encode true v = .ok text ∧ Json.parse text.toList = .ok form ∧
    sent = truncate maxTextLength form

/-- A transaction of some entries and an amount: it has their names and that of the amount, the amount
under its name, and a stamp for a point in time. The other values become what they become. -/
structure Transaction (Becomes : Value → Value → Prop) (given : Mapping) (number : Number)
    (entries : Mapping) : Prop where
  keys : entries.map Prod.fst = given.map Prod.fst ++
    if given.contains (.str "$amount") then [] else [.str "$amount"]
  amount : entries.text? "$amount" = some number.value
  time : ∀ moment, given.text? "$time" = some (.datetime moment) →
    ∃ stamp, moment.utcStamp = .ok stamp ∧ entries.text? "$time" = some (.str (String.ofList stamp))
  others : ∀ name v, given.text? name = some v → name ≠ "$amount" →
    (name = "$time" → ∀ moment, v ≠ .datetime moment) →
    ∃ v', Becomes v v' ∧ entries.text? name = some v'

/-- Properties that can be charged: values with a JSON text that are not nested too deeply, under
texts, and with a time that can be written in universal time, if they give one. -/
structure Value.Chargeable (properties : Value) : Prop where
  texts : properties.TextKeyed
  json : ∀ entry ∈ chargedEntries properties, ∃ text, Json.encode true entry.2 = .ok text
  timed : ∀ moment, chargedAt? properties = some (.datetime moment) →
    moment.InCalendar ∧ moment.Located
  fits : properties.FitsBelow 2

theorem Mapping.map_fst_insert (m : Mapping) (key value : Value) :
    (m.insert key value).map Prod.fst = m.map Prod.fst ++ if m.contains key then [] else [key] := by
  unfold insert contains
  cases present : Entries.has Value.sameKey key m with
  | true => rw [Entries.map_fst_put_of_present present, if_pos rfl, List.append_nil]
  | false =>
    rw [Entries.put_of_absent present, List.map_append]
    rfl

/-- A charge that is made has the entries with the amount, and if it has a time, the stamp of it. -/
theorem transaction_cases {properties : Value} (texts : properties.TextKeyed) {number : Number}
    {entries : Mapping} (made : World.transaction properties number = .ok entries) :
    (∃ moment stamp, chargedAt? properties = some (.datetime moment) ∧
      moment.utcStamp = .ok stamp ∧
      entries = (chargeOf properties number).insert (.str "$time") (.str (String.ofList stamp))) ∨
    (∀ moment, chargedAt? properties ≠ some (.datetime moment)) ∧
      entries = chargeOf properties number := by
  obtain ⟨given, taken, stamped | untimed⟩ := exists_of_transaction made
  all_goals obtain rfl := Except.ok.inj (taken.symm.trans (taken_eq texts))
  · obtain ⟨moment, stamp, timed, stamped, rfl⟩ := stamped
    exact .inl ⟨moment, stamp, (text?_chargeOf properties number).symm.trans timed, stamped, rfl⟩
  · obtain ⟨untimed, rfl⟩ := untimed
    refine .inr ⟨fun moment timed => untimed moment ?_, rfl⟩
    exact (text?_chargeOf properties number).trans timed

/-- What a charge comes to is a transaction. -/
theorem transaction_of_eq_ok {properties : Value} (texts : properties.TextKeyed) {number : Number}
    {entries : Mapping} (made : World.transaction properties number = .ok entries) :
    Transaction Eq (chargedEntries properties) number entries := by
  have charged (name : Text) : (chargeOf properties number).text? name =
      if "$amount" = name then some number.value else (chargedEntries properties).text? name :=
    Mapping.get?_insert_text _ _ _ _
  have keys := (chargedEntries properties).map_fst_insert (.str "$amount") number.value
  obtain ⟨moment, stamp, timed, stamped, rfl⟩ | ⟨untimed, rfl⟩ := transaction_cases texts made
  · have held (name : Text) : Mapping.text? ((chargeOf properties number).insert (.str "$time")
        (.str (String.ofList stamp))) name =
          if "$time" = name then some (.str (String.ofList stamp))
          else (chargeOf properties number).text? name := Mapping.get?_insert_text _ _ _ _
    have present : (chargeOf properties number).contains (.str "$time") = true := by
      rw [Mapping.contains, Entries.has_eq_isSome_find?]
      exact Option.isSome_iff_exists.2 ⟨_, (text?_chargeOf properties number).trans timed⟩
    rw [chargedAt?_eq] at timed
    refine ⟨?_, ?_, fun other same => ?_, fun name v given other untimed => ⟨v, rfl, ?_⟩⟩
    · rw [Mapping.map_fst_insert, present, if_pos rfl, List.append_nil]
      exact keys
    · rw [held, if_neg (by decide), charged, if_pos rfl]
    · obtain rfl : moment = other := by simpa using timed.symm.trans same
      exact ⟨stamp, stamped, by rw [held, if_pos rfl]⟩
    · have late : "$time" ≠ name := by
        rintro rfl
        exact untimed rfl moment (Option.some.inj (given.symm.trans timed))
      rw [held, if_neg late, charged, if_neg (Ne.symm other), given]
  · refine ⟨keys, ?_, fun moment timed => ?_, fun name v given other _ => ⟨v, rfl, ?_⟩⟩
    · rw [charged, if_pos rfl]
    · rw [← chargedAt?_eq] at timed
      exact absurd timed (untimed moment)
    · rw [charged, if_neg (Ne.symm other), given]

namespace Mapping.TextKeyed

variable {m : Mapping}

theorem insert (keyed : m.TextKeyed) (name : Text) (v : Value) :
    (m.insert (.str name) v).TextKeyed :=
  show (m.overlay [(.str name, v)]).TextKeyed from keyed.overlay rfl

/-- Surrogates are left in a mapping if they are in its names or left in what stands under them. -/
theorem isProper_truncate_iff (keyed : m.TextKeyed) :
    (truncate maxTextLength (.map m)).isProper = true ↔
      ∀ name v, m.text? name = some v →
        name.isProper = true ∧ (truncate maxTextLength v).isProper = true := by
  rw [truncate, Value.isProper, Value.entriesProper_iff, truncateEntries_eq_map, List.forall_mem_map]
  constructor
  · intro all name v found
    exact all _ (keyed.text?_eq_some_iff.1 found)
  · rintro all ⟨key, v⟩ mem
    obtain ⟨name, rfl⟩ : ∃ name, key = .str name := Schema.hasTextKeys_iff.1 keyed.texts _ mem
    exact all name v (keyed.text?_eq_some_iff.2 mem)

/-- What is found of a mapping under texts in a body. -/
theorem exists_normal_truncate (keyed : m.TextKeyed)
    (proper : (truncate maxTextLength (.map m)).isProper = true) :
    ∃ sent : Mapping, (truncate maxTextLength (.map m)).normal = .map sent ∧
      sent.map Prod.fst = m.map Prod.fst ∧
      ∀ name, sent.text? name = (m.text? name).map fun v => (truncate maxTextLength v).normal := by
  obtain ⟨table, rfl, distinct⟩ := keyed.exists_eq_asMapping
  refine ⟨table.sent, Table.normal_truncate distinct proper, ?_, fun name => ?_⟩
  · rw [Table.sent, Table.asMapping, List.map_map, List.map_map]
    rfl
  · rw [Table.text?_sent, Table.text?_asMapping]

theorem writable (keyed : m.TextKeyed) (all : ∀ entry ∈ m, entry.2.writable = true) :
    (Value.map m).writable = true := by
  rw [Value.writable, Value.entriesWritable_iff]
  intro entry mem
  obtain ⟨name, text⟩ := Schema.hasTextKeys_iff.1 keyed.texts entry mem
  exact ⟨by rw [text]; rfl, all entry mem⟩

end Mapping.TextKeyed

theorem keyed_chargedEntries {properties : Value} (texts : properties.TextKeyed) :
    (chargedEntries properties).TextKeyed := by
  cases properties with
  | map entries => exact Mapping.TextKeyed.empty.overlay texts
  | _ => exact Mapping.TextKeyed.empty

/-- Numbers of amounts that can be shown can be written. -/
theorem Value.StandsFor.writable {amount : Value} {number : Number}
    (stands : amount.StandsFor number) {shown : String}
    (printed : amount.shown = .ok shown) : number.value.writable = true := by
  cases stands with
  | int n =>
    rw [Number.value, Value.writable, Bool.not_eq_true']
    rw [Value.shown, Value.spelled, limitedIntegerText?] at printed
    cases small : exceedsDigitLimit n with
    | false => rfl
    | true => rw [small] at printed; cases printed
  | float | text | foreign => rfl

namespace Value.Chargeable

variable {properties amount : Value} {number : Number} {entries : Mapping}

/-- Properties that can be charged are charged. -/
theorem exists_transaction (charges : properties.Chargeable) (number : Number) :
    ∃ entries, World.transaction properties number = .ok entries := by
  cases made : World.transaction properties number with
  | ok entries => exact ⟨entries, rfl⟩
  | error fault =>
    obtain ⟨moment, error, timed, failed, -⟩ := (transaction_error_iff charges.texts number).1 made
    obtain ⟨range, located⟩ := charges.timed moment timed
    rw [DateTime.utcStamp_eq range located] at failed
    cases failed

theorem keyed (charges : properties.Chargeable)
    (made : World.transaction properties number = .ok entries) : entries.TextKeyed := by
  have keyed : (chargeOf properties number).TextKeyed :=
    (keyed_chargedEntries charges.texts).insert "$amount" number.value
  obtain ⟨moment, stamp, -, -, rfl⟩ | ⟨-, rfl⟩ := transaction_cases charges.texts made
  · exact keyed.insert "$time" _
  · exact keyed

theorem writable (charges : properties.Chargeable) (amount : number.value.writable = true)
    (made : World.transaction properties number = .ok entries) :
    (Value.map entries).writable = true := by
  refine (charges.keyed made).writable (forall_of_transaction
    (Q := fun v => v.writable = true) made (fun table taken => ?_) amount fun _ => rfl)
  obtain rfl := Except.ok.inj (taken.symm.trans (taken_eq charges.texts))
  exact fun entry mem => ((Json.exists_encode_iff entry.2).1 (charges.json entry mem)).1

/-- What an entry that is given is sent as. -/
theorem sentAs (charges : properties.Chargeable) {name : Text} {v : Value}
    (given : (chargedEntries properties).text? name = some v)
    (proper : (truncate maxTextLength v).isProper = true) :
    v.SentAs (truncate maxTextLength v).normal := by
  obtain ⟨text, encoded⟩ :=
    charges.json _ ((keyed_chargedEntries charges.texts).text?_eq_some_iff.1 given)
  exact ⟨text, v.normal, encoded, Json.parse_encode encoded,
    EventTracker.normal_truncate 255 (by decide) proper⟩

/-- Stamps are too short to be cut. -/
theorem normal_truncate_stamp (charges : properties.Chargeable) {moment : DateTime}
    {stamp : List Char} (timed : chargedAt? properties = some (.datetime moment))
    (stamped : moment.utcStamp = .ok stamp) :
    (truncate maxTextLength (.str (String.ofList stamp))).normal = .str (String.ofList stamp) := by
  obtain ⟨range, located⟩ := charges.timed moment timed
  rw [DateTime.utcStamp_eq range located] at stamped
  obtain rfl := Except.ok.inj stamped
  have short : (String.ofList (moment.utc range).stamp).toList.length ≤ 255 := by
    rw [String.toList_ofList, DateTime.length_stamp]
    decide
  rw [truncate, show maxTextLength = ((255 : Nat) : Int) from rfl, cutText_of_length_le 255,
    Value.normal, Text.joined_plain]
  rwa [String.toList_ofList] at short

/-- Surrogates are left in a transaction if they are in the names that are given or left in what
stands under them, but for the amount. -/
theorem isProper_truncate_iff (charges : properties.Chargeable)
    (made : World.transaction properties number = .ok entries) :
    (truncate maxTextLength (.map entries)).isProper = true ↔
      ∀ name v, (chargedEntries properties).text? name = some v → name ≠ "$amount" →
        name.isProper = true ∧ (truncate maxTextLength v).isProper = true := by
  have composed := transaction_of_eq_ok charges.texts made
  rw [(charges.keyed made).isProper_truncate_iff]
  constructor
  · intro all name v given other
    by_cases timed : name = "$time" ∧ ∃ moment, v = .datetime moment
    · obtain ⟨rfl, moment, rfl⟩ := timed
      exact ⟨rfl, rfl⟩
    · obtain ⟨_, rfl, held⟩ := composed.others name v given other fun late moment same =>
        timed ⟨late, moment, same⟩
      exact all name v held
  · intro all name v held
    by_cases amount : name = "$amount"
    · obtain rfl := amount
      obtain rfl := Option.some.inj (composed.amount.symm.trans held)
      exact ⟨rfl, by cases number <;> rfl⟩
    · obtain ⟨given, found⟩ : ∃ given, (chargedEntries properties).text? name = some given := by
        have named : Value.str name ∈ entries.map Prod.fst :=
          List.mem_map_of_mem ((charges.keyed made).text?_eq_some_iff.1 held)
        rw [composed.keys, List.mem_append] at named
        obtain before | added := named
        · obtain ⟨⟨key, v⟩, mem, rfl⟩ := List.mem_map.1 before
          exact ⟨v, (keyed_chargedEntries charges.texts).text?_eq_some_iff.2 mem⟩
        · split at added
          · cases added
          · cases List.mem_singleton.1 added
            exact absurd rfl amount
      obtain ⟨proper, front⟩ := all name given found amount
      refine ⟨proper, ?_⟩
      by_cases timed : name = "$time" ∧ ∃ moment, given = .datetime moment
      · obtain ⟨rfl, moment, rfl⟩ := timed
        obtain ⟨stamp, -, stamped⟩ := composed.time moment found
        obtain rfl := Option.some.inj (stamped.symm.trans held)
        exact isProper_cutText 255 (t := .plain (String.ofList stamp)) rfl
      · obtain ⟨_, rfl, same⟩ := composed.others name given found amount fun late moment same =>
          timed ⟨late, moment, same⟩
        obtain rfl := Option.some.inj (same.symm.trans held)
        exact front

/-- The transaction of a charge, as it is found in a body. -/
theorem exists_sent (charges : properties.Chargeable) (stands : amount.StandsFor number)
    (made : World.transaction properties number = .ok entries)
    (proper : (truncate maxTextLength (.map entries)).isProper = true) :
    ∃ sent, (truncate maxTextLength (.map entries)).normal = .map sent ∧
      Transaction Value.SentAs (chargedEntries properties) number sent := by
  obtain ⟨sent, normal, keys, values⟩ := (charges.keyed made).exists_normal_truncate proper
  have composed := transaction_of_eq_ok charges.texts made
  refine ⟨sent, normal, keys.trans composed.keys, ?_, fun moment timed => ?_,
    fun name v given other untimed => ⟨_, charges.sentAs given
      ((charges.isProper_truncate_iff made).1 proper name v given other).2, ?_⟩⟩
  · rw [values, composed.amount, Option.map_some, stands.normal_truncate]
  · obtain ⟨stamp, stamped, held⟩ := composed.time moment timed
    refine ⟨stamp, stamped, ?_⟩
    rw [← chargedAt?_eq] at timed
    rw [values, held, Option.map_some, charges.normal_truncate_stamp timed stamped]
  · obtain ⟨_, rfl, held⟩ := composed.others name v given other untimed
    rw [values, held, Option.map_some]

end Value.Chargeable

/-! ## Requests of charges -/

/-- A request that appends one transaction to the profile of a tracker's user. -/
structure Task.Appends (task : Task) (t : Tracker) (transaction : Mapping) : Prop where
  endpoint : task.endpoint = .engage
  url : task.url = t.config.apiHost ++ "/engage" ++ "/"
  body : payloadOf? task.body = some (.map [(.str "$token", .str (firstCharacters t.token)),
    (.str "$distinct_id", .str (firstCharacters t.distinctId)),
    (.str "$append", .map [(.str "$transactions", .map transaction)])])

/-- A call that is refused: no request is made, and its callback is told of one error. Only what the
callback does then may make a request. -/
def World.Refuses (w : World) (t : Tracker) (listener : Value) (error : TrackerError)
    (result : World × Except Fault ClientAnswer) : Prop :=
  result.2 = .ok (.of (.task none)) ∧
    ∃ tasks, Aftermath listener tasks ∧
      Extends t w result.1 (heard listener (.failed error)) tasks

/-- Whether a transaction of some entries can be written for a tracker in UTF-8: surrogates stand
neither in its token, its user and the names, nor in what is left of the values under them. An amount
that is given does not count. -/
structure Tracker.CanCharge (t : Tracker) (given : Mapping) : Prop where
  token : t.token.isProper = true
  user : t.distinctId.isProper = true
  others : ∀ name v, given.text? name = some v → name ≠ "$amount" →
    name.isProper = true ∧ (truncate maxTextLength v).isProper = true

/-- The charge of a number: one request is made, which appends the transaction of the number. If its
transaction cannot be written, no request is made, and the callback is told of one error. -/
structure World.Charges (w : World) (t : Tracker) (listener : Value) (given : Mapping)
    (number : Number) (result : World × Except Fault ClientAnswer) : Prop where
  sent : t.CanCharge given → ∃ log task sent,
    result = ({ w with log, queue := w.queue ++ [task], created := w.created + 1 },
      .ok (.of (.task (some w.created)))) ∧
    task.number = w.created ∧ task.callback = listener ∧ task.Appends t sent ∧
    Transaction Value.SentAs given number sent
  refused : ¬ t.CanCharge given → ∃ problem, w.Refuses t listener (.validation problem) result

theorem World.Serves.refuses (serves : w.Serves t) {call : ClientCall} {records : List LogRecord}
    {listener : Value} {error : TrackerError}
    (refused : call.perform w t = (w.record records).refuse listener error) :
    w.Refuses t listener error ((ClientAction.act (.request call)).perform w t) := by
  obtain ⟨tasks, aftermath, effect⟩ := extends_deliver (w := w.record records) serves.alone
    listener (.failed error)
  rw [ClientAction.perform, Action.perform, Action.perform.answer, refused]
  exact ⟨rfl, tasks, aftermath, ((Extends.refl serves.alone).record records).trans effect⟩

/-- The charge of what is no amount: no request is made, and the callback is told so. Only what the
callback does then may make one. -/
def World.RefusesCharge (w : World) (t : Tracker) (listener amount : Value) (shown : String)
    (result : World × Except Fault ClientAnswer) : Prop :=
  result.2 = .ok (.of (.task none)) ∧
    ∃ tasks, Aftermath listener tasks ∧
      Extends t w result.1 (heard listener (.failed (.invalidAmount amount shown))) tasks

section Charges

variable {properties amount : Value}

theorem trackCharge_of_number (known : t.distinctId ≠ "") {number : Number}
    (stands : amount.StandsFor number) {entries : Mapping}
    (made : World.transaction (givenProperties properties) number = .ok entries) (callback : Value) :
    w.trackCharge t amount properties callback =
      w.mutate t "track_charge" (ClientCall.charge amount properties callback).listener
        ProfileMutation.appendField (.map [(.str "$transactions", .map entries)]) := by
  unfold World.trackCharge World.withDistinctId
  rw [arguments_eq, Store.distinctId_of_props (s := w.store t) rfl]
  simp only [if_neg known, amountOf_eq_ok_some_iff.2 stands, made]
  rfl

theorem exists_trackCharge_of_worthless (known : t.distinctId ≠ "") {shown : String}
    (printed : amount.shown = .ok shown)
    (worthless : ∀ number, ¬ amount.StandsFor number) (callback : Value) :
    ∃ records, w.trackCharge t amount properties callback =
      (w.record records).refuse (ClientCall.charge amount properties callback).listener
        (.invalidAmount amount shown) := by
  unfold World.trackCharge World.withDistinctId
  rw [arguments_eq, Store.distinctId_of_props (s := w.store t) rfl]
  simp only [if_neg known, amountOf_eq_ok_none printed worthless, printed]
  exact ⟨_, rfl⟩

theorem charges_of_standsFor (serves : w.Serves t) (hasToken : t.token ≠ "")
    (known : t.distinctId ≠ "") (looping : w.looping = true) (charges : (givenProperties properties).Chargeable)
    {shown : String} (printed : amount.shown = .ok shown) {number : Number}
    (stands : amount.StandsFor number) (callback : Value) :
    let call : ClientCall := .charge amount properties callback
    w.Charges t call.listener (chargedEntries (givenProperties properties)) number
      ((ClientAction.act (.request call)).perform w t) := by
  intro call
  obtain ⟨entries, made⟩ := charges.exists_transaction number
  have charged : w.trackCharge t amount properties callback = _ :=
    trackCharge_of_number known stands made callback
  have writable := charges.writable (stands.writable printed) made
  rw [← ProfileOperation.writable_appending "$transactions"] at writable
  have fits : (ProfileOperation.appending "$transactions" (.map entries)).operand.FitsBelow 1 := by
    rw [Value.FitsBelow, ProfileOperation.depth_appending]
    exact fitsBelow_of_transaction charges.texts charges.fits made
  obtain ⟨sends, refuses⟩ := mutate_sends_or_refuses (w := w) ProfileMutation.appendField
    ⟨by decide, by decide⟩ (fun _ _ hasToken known =>
      ProfileMutation.checkFields_appending hasToken known "$transactions" (.map entries))
    writable fits hasToken known looping "track_charge" call.listener
  have front := ProfileOperation.isProper_truncate_appending "$transactions" (.map entries)
  refine ⟨fun can => ?_, fun cannot => ?_⟩
  · have proper := (charges.isProper_truncate_iff made).2 can.others
    obtain ⟨sent, normal, transaction⟩ := charges.exists_sent stands made proper
    obtain ⟨log, body, found, mutated⟩ := sends ⟨can.token, can.user, front.trans proper⟩
    refine ⟨log, ⟨w.created, w.currentPlace, .engage, _, body, call.listener⟩, sent, ?_, rfl, rfl,
      ⟨rfl, rfl, ?_⟩, transaction⟩
    · rw [ClientAction.perform, Action.perform, Action.perform.answer, ClientCall.perform, charged,
        mutated]
      rfl
    · rw [found, ProfileOperation.normal_truncate_appending, normal]
      rfl
  · obtain ⟨records, problem, refused⟩ := refuses fun sendable => cannot
      ⟨sendable.token, sendable.user,
        (charges.isProper_truncate_iff made).1 (front.symm.trans sendable.operand)⟩
    exact ⟨problem, serves.refuses (charged.trans refused)⟩

theorem refusesCharge_of_worthless (serves : w.Serves t) (known : t.distinctId ≠ "")
    {shown : String} (printed : amount.shown = .ok shown)
    (worthless : ∀ number, ¬ amount.StandsFor number) (callback : Value) :
    let call : ClientCall := .charge amount properties callback
    w.RefusesCharge t call.listener amount shown
      ((ClientAction.act (.request call)).perform w t) := by
  intro call
  obtain ⟨records, refused⟩ : ∃ records, w.trackCharge t amount properties callback =
      (w.record records).refuse call.listener (.invalidAmount amount shown) :=
    exists_trackCharge_of_worthless known printed worthless callback
  exact serves.refuses refused

end Charges

/-- A client that is opened has a token, whatever it has been asked. -/
theorem exists_token_handled {token : Value} {config : Config} {environment : Option Environment}
    {connection : Connection} {shared : Bool} (alone : w.trackers = []) (idle : w.queue = [])
    (opened : w.openTracker token config environment connection shared = (w', .ok ()))
    (before : List ClientStep) : ∃ t, (w'.handled before).Serves t ∧ t.token ≠ "" := by
  obtain ⟨t₀, serves, hasToken⟩ := exists_token_openTracker alone idle opened
  obtain ⟨t, serves, same⟩ := World.exists_serves_handled serves before
  exact ⟨t, serves, by rwa [same]⟩

/-- Lists in one another. -/
def nested : Nat → Value
  | 0 => .null
  | n + 1 => .list [nested n]

/-- The charges of an integer and of its text, whatever a client has been asked before: the integer
itself is charged as it is, and its text as the nearest double, which is the integer if any double
is. A text whose nearest double is infinity is no amount. -/
theorem integer_texts_charge_nearest_doubles {token : Value} {config : Config}
    {environment : Option Environment} {connection : Connection} {shared : Bool}
    (alone : w.trackers = []) (idle : w.queue = [])
    (opened : w.openTracker token config environment connection shared = (w', .ok ()))
    (before : List ClientStep)
    (known : ∀ t, (w'.handled before).current? = some t → t.distinctId ≠ "")
    {properties : Value} (charges : (givenProperties properties).Chargeable) (callback : Value)
    {n : Int} (printable : exceedsDigitLimit n = false) :
    let text : Value := .str (String.ofList (integerText n))
    let call (amount : Value) : ClientCall := .charge amount properties callback
    let step (amount : Value) : ClientStep := ⟨true, .act (.request (call amount))⟩
    let start (amount : Value) := (w'.handled before).during (step amount)
    let charged (amount : Value) := (w'.handled before).handle (step amount)
    let given := chargedEntries (givenProperties properties)
    ∃ t, (w'.handled before).current? = some t ∧
      (start (.int n)).Charges t (call (.int n)).listener given (.int n) (charged (.int n)) ∧
      (∀ d, Double.ofInt? n = some d →
        (start text).Charges t (call text).listener given (.float d) (charged text) ∧
          (d.whole? = some n ↔ Double.Representable n.natAbs)) ∧
      (Double.ofInt? n = none →
        (∃ shown, (start text).RefusesCharge t (call text).listener text shown (charged text)) ∧
          ¬ Double.Representable n.natAbs) := by
  intro text call step start charged given
  obtain ⟨t, serves, hasToken⟩ := exists_token_handled alone idle opened before
  have known := known t serves.current
  have same (amount : Value) : charged amount = (step amount).action.perform (start amount) t :=
    World.handle_eq serves (step amount)
  have printed : (Value.int n).shown = .ok (String.ofList (integerText n)) := by
    rw [Value.shown, Value.spelled, limitedIntegerText?, printable]
    rfl
  refine ⟨t, serves.current, ?_, fun d nearest => ?_, fun nearest => ?_⟩
  · rw [same]
    exact charges_of_standsFor (serves.during _) hasToken known rfl charges printed (.int n) callback
  · refine ⟨?_, Double.representable_of_whole?, fun representable => ?_⟩
    · rw [same]
      exact charges_of_standsFor (serves.during _) hasToken known rfl charges rfl
        (standsFor_integerText_iff.2 ⟨d, nearest, rfl⟩) callback
    · obtain ⟨own, found, whole⟩ := Double.exists_ofInt?_of_representable representable
      rwa [Option.some.inj (nearest.symm.trans found)]
  · refine ⟨⟨quotedText (String.ofList (integerText n)), ?_⟩, fun representable => ?_⟩
    · rw [same]
      refine refusesCharge_of_worthless (serves.during _) known rfl (fun number stands => ?_)
        callback
      obtain ⟨d, found, -⟩ := standsFor_integerText_iff.1 stands
      cases nearest.symm.trans found
    · obtain ⟨d, found, -⟩ := Double.exists_ofInt?_of_representable representable
      cases nearest.symm.trans found

/-- The text of five is charged as the double that is five. -/
theorem integer_texts_charge_nearest_doubles_five :
    let opened := (World.fresh ⟨.memory [] [] 0, ⟨[]⟩, []⟩ []).openTracker (.str "T") .standard none
      .direct true
    let charged := opened.1.handle ⟨true, .act (.request (.charge (.str "5") .null .null))⟩
    ∃ t task sent d, opened.1.current? = some t ∧ charged.1.queue = [task] ∧ task.Appends t sent ∧
      sent.text? "$amount" = some (.float d) ∧ d.whole? = some 5 := by
  intro opened charged
  have given : opened = (opened.1, .ok ()) := rfl
  have charges : (givenProperties .null).Chargeable :=
    ⟨trivial, List.forall_mem_nil _, nofun, show 0 + 2 ≤ maxCutDepth by decide⟩
  obtain ⟨t, current, -, made, -⟩ := integer_texts_charge_nearest_doubles (n := 5) rfl rfl given []
    (by rintro t ⟨⟩; decide) charges .null (by decide +kernel)
  obtain ⟨d, nearest, whole⟩ := Double.exists_ofInt?_of_representable
    (show Double.Representable (Int.natAbs 5) from ⟨5, 0, by decide, by decide, rfl⟩)
  have can : t.CanCharge (chargedEntries (givenProperties .null)) := by
    obtain rfl : _ = t := Option.some.inj current
    exact ⟨rfl, rfl, nofun⟩
  obtain ⟨log, task, sent, same, -, -, appends, transaction⟩ := (made d nearest).1.sent can
  have handled : charged = _ := same
  refine ⟨t, task, sent, d, current, ?_, appends, transaction.amount, whole⟩
  rw [handled]
  show opened.1.queue ++ [task] = [task]
  rfl

/-- The first integer that is no double is charged as the one before it, where its text is given. -/
theorem integer_text_is_charged_as_neighbour :
    ∃ d, amountOf (.str "9007199254740993") = .ok (some (.float d)) ∧
      d.whole? = some 9007199254740992 ∧
      amountOf (.int 9007199254740993) = .ok (some (.int 9007199254740993)) := by
  have whole : (Double.ofInt? 9007199254740993).bind Double.whole? = some 9007199254740992 := by
    decide +kernel
  obtain ⟨d, nearest, same⟩ := Option.bind_eq_some_iff.1 whole
  exact ⟨d, amountOf_eq_ok_some_iff.2 (standsFor_integerText_iff.2 ⟨d, nearest, rfl⟩), same, rfl⟩

end EventTracker
