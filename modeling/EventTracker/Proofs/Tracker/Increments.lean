import EventTracker.Proofs.Tracker.Charges
import EventTracker.Proofs.Tracker.Shapes
import EventTracker.Proofs.Wire.Depth

/-!
# Increments

An increment adds numbers to the profile, each under the name that its amount stands under.
Integers and doubles are added as they are, and what can be read as one of them is added as
what it is read as. If one of the amounts cannot be read, or surrogates would stand in the
body, nothing is added.
-/

namespace EventTracker

/-! ## Amounts that are read as numbers -/

/-- The numbers that amounts are read as: integers and doubles as what they are, flags as one and
zero, and texts, also in UTF-8, as the integer that they spell, or else the double. -/
inductive Value.ReadAs : Value → Number → Prop where
  | int (n : Int) : ReadAs (.int n) (.int n)
  | float (d : Double) : ReadAs (.float d) (.float d)
  | flag (b : Bool) : ReadAs (.bool b) (.int (if b then 1 else 0))
  | integerText {v : Value} {s : String} {n : Int} (text : checkPlainText v = .ok s)
    (read : integerOfText s = .ok n) : ReadAs v (.int n)
  | doubleText {v : Value} {s : String} {d : Double} (text : checkPlainText v = .ok s)
    (noInteger : ∀ n, integerOfText s ≠ .ok n) (read : doubleOfText s = .ok d) : ReadAs v (.float d)

/-- A text is an integer if it can be one, else a double. -/
theorem checkNumber_of_text {v : Value} {s : String} (text : checkPlainText v = .ok s) :
    checkNumber v =
      match integerOfText s, doubleOfText s with
      | .ok n, _ => .ok (.int n)
      | .error _, .ok d => .ok (.float d)
      | .error flaws, .error more =>
        .error (flaws.map (Flaw.within (.name "int")) ++ more.map (Flaw.within (.name "float"))) := by
  have both : checkInteger v = integerOfText s ∧ checkDouble v = doubleOfText s := by
    obtain rfl | ⟨bytes, rfl, read⟩ := checkPlainText_eq_ok_iff.1 text
    · exact ⟨rfl, rfl⟩
    · simp only [checkInteger, checkDouble, textOf?, read]
      exact ⟨rfl, rfl⟩
  obtain rfl | ⟨bytes, rfl, -⟩ := checkPlainText_eq_ok_iff.1 text
  all_goals
    simp only [checkNumber, both]
    cases integerOfText s <;> cases doubleOfText s <;> rfl

theorem checkNumber_eq_ok_iff {v : Value} {number : Number} :
    checkNumber v = .ok number ↔ v.ReadAs number := by
  constructor
  · intro passed
    cases text : checkPlainText v with
    | ok s =>
      rw [checkNumber_of_text text] at passed
      split at passed
      case h_1 read => cases passed; exact .integerText text read
      case h_2 unread read => cases passed; exact .doubleText text (by rw [unread]; nofun) read
      case h_3 => cases passed
    | error flaws =>
      cases v with
      | int n => cases passed; exact .int n
      | float d => cases passed; exact .float d
      | bool b => cases passed; exact .flag b
      | str t =>
        cases t with
        | plain s => cases text
        | rough r => cases passed
      | bytes bs =>
        cases decoded : textOfUtf8? bs with
        | some s => rw [checkPlainText_eq_ok_iff.2 (.inr ⟨bs, rfl, decoded⟩)] at text; cases text
        | none => simp [checkNumber, checkInteger, checkDouble, textOf?, decoded, Checked.flaw,
            Except.bind] at passed
      | _ => cases passed
  · rintro (_ | _ | _ | ⟨text, read⟩ | ⟨text, noInteger, read⟩)
    · rfl
    · rfl
    · rfl
    · rw [checkNumber_of_text text, read]
    · rw [checkNumber_of_text text, read]
      split
      case h_1 found => exact absurd found (noInteger _)
      case h_2 same => rw [Except.ok.inj same]
      case h_3 failed => cases failed

/-! ## Numbers of texts can be written -/

theorem exceedsDigitLimit_of_readPlainInteger? {cs : List Char} {n : Int}
    (read : readPlainInteger? cs = some n) : exceedsDigitLimit n = false := by
  unfold readPlainInteger? at read
  simp only at read
  split at read
  · cases read
  · next short =>
    obtain ⟨k, digits, rfl⟩ := Option.map_eq_some_iff.1 read
    unfold readDigits? at digits
    split at digits
    · next all =>
      cases digits
      refine Json.exceedsDigitLimit_of_digits (List.all_eq_true.1 all.2)
        (fun long => short (.inl long)) ?_
      split <;> omega
    · cases digits

theorem exceedsDigitLimit_of_integerOfText {s : String} {n : Int} (read : integerOfText s = .ok n) :
    exceedsDigitLimit n = false := by
  unfold integerOfText at read
  simp only at read
  split at read
  · next plain => cases read; exact exceedsDigitLimit_of_readPlainInteger? plain
  · split at read
    · cases read
    · cases tidied : (tidyInteger? s.toList).bind readPlainInteger? with
      | none => rw [tidied] at read; cases read
      | some k =>
        rw [tidied] at read
        cases read
        obtain ⟨cs, -, plain⟩ := Option.bind_eq_some_iff.1 tidied
        exact exceedsDigitLimit_of_readPlainInteger? plain

/-- What an amount is read as can be written, unless it is itself an integer that cannot. -/
theorem Value.ReadAs.writable {v : Value} {number : Number} (read : v.ReadAs number)
    (printable : ∀ n, v = .int n → exceedsDigitLimit n = false) :
    number.value.writable = true := by
  have integer {n : Int} (small : exceedsDigitLimit n = false) : (Value.int n).writable = true := by
    rw [Value.writable, small]
    rfl
  cases read with
  | int n => exact integer (printable n rfl)
  | flag b => exact integer (by cases b <;> decide +kernel)
  | integerText _ read => exact integer (exceedsDigitLimit_of_integerOfText read)
  | float | doubleText => rfl

/-! ## Mutations that add -/

/-- The numbers that the amounts of a mapping are read as, under their names and in their order. -/
def Mapping.ReadAs (amounts : Mapping) (table : Table Number) : Prop :=
  List.Forall₂ (fun given read => given.1 = .str read.1 ∧ given.2.ReadAs read.2) amounts table

namespace Mapping.ReadAs

variable {amounts : Mapping} {table : Table Number}

theorem map_fst_eq (read : amounts.ReadAs table) :
    amounts.map Prod.fst = table.map fun entry => .str entry.1 := by
  induction read with
  | nil => rfl
  | cons here _ ih => rw [List.map_cons, List.map_cons, here.1, ih]

/-- The names of the amounts are those of the numbers. -/
theorem forall_name_iff (read : amounts.ReadAs table) {P : Text → Prop} :
    (∀ name v, (Value.str name, v) ∈ amounts → P name) ↔ ∀ entry ∈ table, P entry.1 := by
  have named : (∀ name v, (Value.str name, v) ∈ amounts → P name) ↔
      ∀ name, Value.str name ∈ amounts.map Prod.fst → P name := by
    simp
  rw [named, read.map_fst_eq]
  simp

theorem distinct (read : amounts.ReadAs table) (keyed : amounts.TextKeyed) :
    Entries.Distinct (fun a b => decide (a = b)) table := by
  have apart : (amounts.map Prod.fst).Pairwise fun a b => Value.sameKey a b = false :=
    List.pairwise_map.2 keyed.distinct
  rw [read.map_fst_eq, List.pairwise_map] at apart
  simp only [Value.sameKey_str] at apart
  exact apart

end Mapping.ReadAs

theorem checkTable_eq_ok_iff {amounts : Mapping} (keyed : amounts.TextKeyed) {table : Table Number} :
    checkTable checkNumber (.map amounts) = .ok table ↔ amounts.ReadAs table := by
  have all {named : Table Number} :
      checkAll (checkEntry checkNumber) amounts = .ok named ↔ amounts.ReadAs named := by
    obtain ⟨named, rfl, -⟩ := keyed.exists_eq_asMapping
    have text {name other : Text} :
        checkText (.str name) = .ok other ↔ Value.str name = .str other := by
      simp [checkText]
    simp only [checkAll_eq_ok_iff, Mapping.ReadAs, Table.asMapping, List.forall₂_map_left_iff,
      checkEntry_eq_ok_iff, checkNumber_eq_ok_iff, text]
  rw [checkTable, Checked.map_eq_ok_iff]
  simp only [all]
  constructor
  · rintro ⟨named, read, rfl⟩
    rwa [Table.ofList, Entries.ofList_of_distinct (read.distinct keyed)]
  · exact fun read => ⟨table, read, Entries.ofList_of_distinct (read.distinct keyed)⟩

/-- Amounts are read as numbers if each of them is. -/
theorem Mapping.exists_readAs_iff {amounts : Mapping} (keyed : amounts.TextKeyed) :
    (∃ table, amounts.ReadAs table) ↔ ∀ entry ∈ amounts, ∃ number, entry.2.ReadAs number := by
  constructor
  · rintro ⟨table, read⟩ entry mem
    obtain ⟨place, within, rfl⟩ := List.getElem_of_mem mem
    exact ⟨_, (read.get within (read.length_eq ▸ within)).2⟩
  · intro all
    have texts := Schema.hasTextKeys_iff.1 keyed.texts
    clear keyed
    induction amounts with
    | nil => exact ⟨[], .nil⟩
    | cons entry rest ih =>
      obtain ⟨⟨name, text⟩, texts⟩ := List.forall_mem_cons.1 texts
      obtain ⟨⟨number, read⟩, all⟩ := List.forall_mem_cons.1 all
      obtain ⟨table, others⟩ := ih all texts
      exact ⟨(name, number) :: table, .cons ⟨text, read⟩ others⟩

/-- A number as it is found in a body: only a NaN loses its payload. -/
def Number.found : Number → Value
  | .int n => .int n
  | .float d => .float d.readBack

namespace ProfileMutation

/-- Where there is a token and a user, amounts that are read make a mutation that adds. -/
theorem checkFields_adding {token id : String} (hasToken : token ≠ "") (known : id ≠ "")
    {amounts : Mapping} {table : Table Number}
    (read : checkTable checkNumber (.map amounts) = .ok table) :
    schema.checkFields [(.str tokenField.name, .str token), (.str distinctIdField.name, .str id),
      (.str addField.name, .map amounts)] = .ok ⟨token, id, .add table⟩ :=
  Schema.checkFields_eq_ok_iff.2 ⟨⟨token, id, none, none, none, some table, none⟩,
    check_eq_ok_iff.2 ⟨Field.required_text rfl hasToken, Field.required_text rfl known, rfl, rfl, rfl,
      Field.withDefault_of_find? rfl nofun read, rfl⟩, rfl, rfl⟩

/-- Amounts that make a mutation are read. -/
theorem exists_checkTable_of_checkFields {token id : Text} {amounts : Mapping} {m : ProfileMutation}
    (made : schema.checkFields [(.str tokenField.name, .str token),
      (.str distinctIdField.name, .str id), (.str addField.name, .map amounts)] = .ok m) :
    ∃ table, checkTable checkNumber (.map amounts) = .ok table := by
  obtain ⟨draft, sound, -⟩ := Schema.checkFields_eq_ok_iff.1 made
  obtain ⟨-, -, -, -, -, add, -⟩ := check_eq_ok_iff.1 sound
  have passed : Checked.within (.name "add") ((checkTable checkNumber (.map amounts)).map some) =
      .ok draft.add := add
  obtain ⟨table, read, -⟩ := Checked.map_eq_ok_iff.1 (Checked.within_eq_ok_iff.1 passed)
  exact ⟨table, read⟩

end ProfileMutation

namespace ProfileOperation

variable {table : Table Number}

theorem isProper_truncate_adding (table : Table Number) :
    (truncate maxTextLength (add table).operand).isProper = true ↔
      ∀ entry ∈ table, entry.1.isProper = true := by
  rw [operand, Table.toValue, truncate, truncateEntries_eq_map, Value.isProper,
    Value.entriesProper_iff, List.forall_mem_map, List.forall_mem_map, List.forall_mem_map]
  refine forall₂_congr fun entry _ => and_iff_left ?_
  obtain ⟨name, n⟩ := entry
  cases n <;> rfl

theorem normal_truncate_adding (distinct : Entries.Distinct (fun a b => decide (a = b)) table)
    (proper : (truncate maxTextLength (add table).operand).isProper = true) :
    (truncate maxTextLength (add table).operand).normal =
      .map (table.map fun entry => (.str entry.1, entry.2.found)) := by
  have apart : Entries.Distinct (fun a b => decide (a = b))
      (table.map fun entry => (entry.1, entry.2.value)) := List.pairwise_map.2 distinct
  rw [operand, Table.normal_truncate apart proper, Table.sent, List.map_map]
  refine congrArg Value.map (List.map_congr_left fun entry _ => ?_)
  obtain ⟨name, n⟩ := entry
  cases n <;> rfl

theorem writable_adding (writable : ∀ entry ∈ table, entry.2.value.writable = true) :
    (add table).operand.writable = true := by
  rw [operand, Table.toValue, Value.writable, Value.entriesWritable_iff, List.map_map,
    List.forall_mem_map]
  exact fun entry mem => ⟨rfl, writable entry mem⟩

end ProfileOperation

/-! ## What increments come to -/

/-- A request that adds numbers to the profile of a tracker's user. -/
structure Task.Adds (task : Task) (t : Tracker) (numbers : Mapping) : Prop where
  endpoint : task.endpoint = .engage
  url : task.url = t.config.apiHost ++ "/engage" ++ "/"
  body : payloadOf? task.body = some (.map [(.str "$token", .str (firstCharacters t.token)),
    (.str "$distinct_id", .str (firstCharacters t.distinctId)), (.str "$add", .map numbers)])

/-- Whether amounts can be written for a tracker in UTF-8: surrogates stand neither in its token and
its user nor in their names. -/
structure Tracker.CanIncrement (t : Tracker) (amounts : Mapping) : Prop where
  token : t.token.isProper = true
  user : t.distinctId.isProper = true
  names : ∀ name v, (Value.str name, v) ∈ amounts → name.isProper = true

/-- The increment by some amounts: one request is made, which adds what each of them is read as. If
their names cannot be written, no request is made, and the callback is told of one error. -/
structure World.Adds (w : World) (t : Tracker) (listener : Value) (amounts : Mapping)
    (result : World × Except Fault ClientAnswer) : Prop where
  sent : t.CanIncrement amounts → ∃ log task table,
    result = ({ w with log, queue := w.queue ++ [task], created := w.created + 1 },
      .ok (.of (.task (some w.created)))) ∧
    task.number = w.created ∧ task.callback = listener ∧ amounts.ReadAs table ∧
    task.Adds t (table.map fun entry => (.str entry.1, entry.2.found))
  refused : ¬ t.CanIncrement amounts → ∃ problem, w.Refuses t listener (.validation problem) result

/-- The amounts that an increment gives: those of a mapping, beside which there may be a callback, or
the one under a name, which is one where there is none. -/
inductive GivesAmounts (amount : Value) : Value → Mapping → Prop where
  | mapping {amounts : Mapping} (keyed : amounts.TextKeyed)
    (beside : amount = .null ∨ amount.callable = true) : GivesAmounts amount (.map amounts) amounts
  | named (name : Text) : GivesAmounts amount (.str name) [(.str name, addend amount)]

variable {w w' : World} {t : Tracker} {prop amount : Value} {amounts : Mapping}

theorem GivesAmounts.keyed (given : GivesAmounts amount prop amounts) : amounts.TextKeyed := by
  cases given with
  | mapping keyed _ => exact keyed
  | named name => exact ⟨rfl, List.pairwise_singleton _ _⟩

theorem incrementProfile_eq (given : GivesAmounts amount prop amounts) (callback : Value) :
    w.incrementProfile t prop amount callback =
      w.mutate t "increment" (ClientCall.increment prop amount callback).listener
        ProfileMutation.addField (.map amounts) := by
  cases given with
  | mapping _ beside =>
    cases amount with
    | null | callback => rfl
    | _ => simp [Value.callable] at beside
  | named name => exact ClientCall.incrementProfile_single rfl amount callback

theorem adds_of_readAs (serves : w.Serves t) (hasToken : t.token ≠ "") (known : t.distinctId ≠ "")
    (looping : w.looping = true) (given : GivesAmounts amount prop amounts)
    (read : ∀ entry ∈ amounts, ∃ number, entry.2.ReadAs number)
    (printable : ∀ entry ∈ amounts, ∀ n, entry.2 = .int n → exceedsDigitLimit n = false)
    (callback : Value) :
    let call : ClientCall := .increment prop amount callback
    w.Adds t call.listener amounts ((ClientAction.act (.request call)).perform w t) := by
  intro call
  obtain ⟨table, read⟩ := (Mapping.exists_readAs_iff given.keyed).2 read
  have writable : ∀ entry ∈ table, entry.2.value.writable = true := by
    intro entry mem
    obtain ⟨place, within, rfl⟩ := List.getElem_of_mem mem
    have within' : place < amounts.length := read.length_eq ▸ within
    exact (read.get within' within).2.writable (printable _ (List.getElem_mem within'))
  have fits : (ProfileOperation.add table).operand.FitsBelow 1 :=
    Nat.add_le_add_right (Nat.le_trans (ProfileOperation.depth_add_le table) (by decide)) 1
  obtain ⟨sends, refuses⟩ := mutate_sends_or_refuses (w := w) ProfileMutation.addField
    ⟨by decide, by decide⟩ (fun _ _ hasToken known => ProfileMutation.checkFields_adding hasToken known
      ((checkTable_eq_ok_iff given.keyed).2 read))
    (ProfileOperation.writable_adding writable) fits hasToken known looping "increment" call.listener
  have same : t.CanSend (.add table) ↔ t.CanIncrement amounts :=
    have names := (ProfileOperation.isProper_truncate_adding table).trans
      (read.forall_name_iff (P := fun name => name.isProper = true)).symm
    ⟨fun can => ⟨can.token, can.user, names.1 can.operand⟩,
      fun can => ⟨can.token, can.user, names.2 can.names⟩⟩
  rw [same] at sends refuses
  refine ⟨fun can => ?_, fun cannot => ?_⟩
  · obtain ⟨log, body, found, mutated⟩ := sends can
    refine ⟨log, ⟨w.created, w.currentPlace, .engage, _, body, call.listener⟩, table, ?_, rfl, rfl,
      read, rfl, rfl, ?_⟩
    · rw [ClientAction.perform, Action.perform, Action.perform.answer, ClientCall.perform,
        incrementProfile_eq given, mutated]
      rfl
    · rw [found, ProfileOperation.normal_truncate_adding (read.distinct given.keyed)
        (same.2 can).operand]
      rfl
  · obtain ⟨records, problem, refused⟩ := refuses cannot
    exact ⟨problem, serves.refuses ((incrementProfile_eq given callback).trans refused)⟩

theorem refuses_of_unread (serves : w.Serves t) (known : t.distinctId ≠ "")
    (given : GivesAmounts amount prop amounts)
    (unread : ∃ entry ∈ amounts, ∀ number, ¬ entry.2.ReadAs number) (callback : Value) :
    let call : ClientCall := .increment prop amount callback
    ∃ report, w.Refuses t call.listener (.validation (.invalidMutation "increment" report))
      ((ClientAction.act (.request call)).perform w t) := by
  intro call
  cases made : ProfileMutation.schema.checkFields
      [(.str ProfileMutation.tokenField.name, .str t.token),
        (.str ProfileMutation.distinctIdField.name, .str t.distinctId),
        (.str ProfileMutation.addField.name, .map amounts)] with
  | ok m =>
    obtain ⟨table, read⟩ := ProfileMutation.exists_checkTable_of_checkFields made
    have all := (Mapping.exists_readAs_iff given.keyed).1
      ⟨table, (checkTable_eq_ok_iff given.keyed).1 read⟩
    obtain ⟨entry, mem, unread⟩ := unread
    obtain ⟨number, read⟩ := all entry mem
    exact absurd read (unread number)
  | error report =>
    obtain ⟨records, refused⟩ := exists_mutate_of_invalid (w := w) known made "increment" call.listener
    exact ⟨report, serves.refuses ((incrementProfile_eq given callback).trans refused)⟩

/-- The increments of a client, whatever it has been asked before. Amounts that are all read as
numbers make one request, which adds these numbers under the names of the amounts, in their order. If
one of them is not, none is made, and its callback is told of one error. So it is, too, where a
mapping has an amount beside it. -/
theorem increments_add_numbers_or_nothing {token : Value} {config : Config}
    {environment : Option Environment} {connection : Connection} {shared : Bool}
    (alone : w.trackers = []) (idle : w.queue = [])
    (opened : w.openTracker token config environment connection shared = (w', .ok ()))
    (before : List ClientStep)
    (known : ∀ t, (w'.handled before).current? = some t → t.distinctId ≠ "")
    (prop amount callback : Value) :
    let call : ClientCall := .increment prop amount callback
    let step : ClientStep := ⟨true, .act (.request call)⟩
    let start := (w'.handled before).during step
    let asked := (w'.handled before).handle step
    ∃ t, start.current? = some t ∧
      (∀ amounts, GivesAmounts amount prop amounts →
        ((∀ entry ∈ amounts, ∃ number, entry.2.ReadAs number) →
          (∀ entry ∈ amounts, ∀ n, entry.2 = .int n → exceedsDigitLimit n = false) →
          start.Adds t call.listener amounts asked) ∧
        ((∃ entry ∈ amounts, ∀ number, ¬ entry.2.ReadAs number) →
          ∃ report, start.Refuses t call.listener
            (.validation (.invalidMutation "increment" report)) asked)) ∧
      (∀ amounts, prop = .map amounts → amount ≠ .null → amount.callable = false →
        start.Refuses t callback (.validation (.needlessValue "increment")) asked) := by
  intro call step start asked
  obtain ⟨t, serves, hasToken⟩ := exists_token_handled alone idle opened before
  have here : start.Serves t := serves.during step
  have known := known t serves.current
  have same : asked = step.action.perform start t := World.handle_eq serves step
  rw [same]
  refine ⟨t, here.current, fun amounts given => ⟨fun read printable => ?_, fun unread => ?_⟩, ?_⟩
  · exact adds_of_readAs here hasToken known rfl given read printable callback
  · exact refuses_of_unread here known given unread callback
  · rintro amounts rfl present uncalled
    have refused : call.perform start t =
        (start.record []).refuse callback (.validation (.needlessValue "increment")) := by
      rw [World.record_nil]
      cases amount with
      | null => exact absurd rfl present
      | callback c => cases uncalled
      | _ => rfl
    exact here.refuses refused

/-- Amounts of all kinds, and one among them that is no number. -/
theorem increments_add_numbers_or_nothing_mixed :
    let opened := (World.fresh ⟨.memory [] [] 0, ⟨[]⟩, []⟩ []).openTracker (.str "T") .standard none
      .direct true
    let told : Value := .callback ⟨"A", .settle, 0⟩
    let amounts : Mapping := [(.str "a", .bool true), (.str "b", .str "2"), (.str "c", .int (-3))]
    let asked (amounts : Mapping) :=
      opened.1.handle ⟨true, .act (.request (.increment (.map amounts) told .null))⟩
    (∃ t task, opened.1.current? = some t ∧ (asked amounts).1.queue = [task] ∧
      task.Adds t [(.str "a", .int 1), (.str "b", .int 2), (.str "c", .int (-3))]) ∧
    ∃ report, (asked (amounts ++ [(.str "d", .null)])).1.queue = [] ∧
      (asked (amounts ++ [(.str "d", .null)])).1.deliveries =
        [("A", .failed (.validation (.invalidMutation "increment" report)))] := by
  intro opened told amounts asked
  have given : opened = (opened.1, .ok ()) := rfl
  have keyed : amounts.TextKeyed := ⟨rfl, by simp [Entries.Distinct, amounts, Value.sameKey_str]⟩
  have keyed' : Mapping.TextKeyed (amounts ++ [(.str "d", .null)]) :=
    ⟨rfl, by simp [Entries.Distinct, amounts, Value.sameKey_str]⟩
  have read : amounts.ReadAs [(.plain "a", .int 1), (.plain "b", .int 2), (.plain "c", .int (-3))] :=
    (checkTable_eq_ok_iff keyed).1 rfl
  have increments (amounts : Mapping) := increments_add_numbers_or_nothing rfl rfl given []
    (by rintro t ⟨⟩; decide) (.map amounts) told .null
  constructor
  · obtain ⟨t, current, made, -⟩ := increments amounts
    have adds := (made amounts (.mapping keyed (.inr rfl))).1
      ((Mapping.exists_readAs_iff keyed).1 ⟨_, read⟩) (by
        simp only [amounts, List.forall_mem_cons]
        refine ⟨?_, ?_, ?_, List.forall_mem_nil _⟩ <;> rintro n ⟨⟩
        decide +kernel)
    have can : t.CanIncrement amounts := by
      obtain rfl : _ = t := Option.some.inj current
      exact ⟨rfl, rfl, read.forall_name_iff.2 (by simp [Text.isProper])⟩
    obtain ⟨log, task, table, same, -, -, read', adds⟩ := adds.sent can
    have taken := (checkTable_eq_ok_iff keyed).2 read
    obtain rfl : table = [(.plain "a", .int 1), (.plain "b", .int 2), (.plain "c", .int (-3))] :=
      Except.ok.inj (((checkTable_eq_ok_iff keyed).2 read').symm.trans taken)
    refine ⟨t, task, current, ?_, adds⟩
    have handled : asked amounts = _ := same
    rw [handled]
    rfl
  · obtain ⟨t, current, made, -⟩ := increments (amounts ++ [(.str "d", .null)])
    obtain ⟨report, -, tasks, aftermath, effect⟩ := (made _ (.mapping keyed' (.inr rfl))).2
      ⟨(.str "d", .null), by simp, fun number read => by
        have := checkNumber_eq_ok_iff.2 read
        cases this⟩
    obtain rfl : tasks = [] := by
      obtain none | ⟨_, _, _, _, other, -⟩ := aftermath
      · exact none
      · cases other
    exact ⟨report, effect.queue, effect.deliveries⟩

/-- Null is read as no number, but where an amount stands, it is none, and one is added. -/
theorem increment_by_null_adds_one :
    let opened := (World.fresh ⟨.memory [] [] 0, ⟨[]⟩, []⟩ []).openTracker (.str "T") .standard none
      .direct true
    let told : Value := .callback ⟨"A", .settle, 0⟩
    let asked := opened.1.handle ⟨true, .act (.request (.increment (.str "a") .null told))⟩
    (∀ number, ¬ Value.null.ReadAs number) ∧ Value.null.callable = false ∧
      asked.1.queue.length = 1 ∧ asked.1.deliveries = [] := by
  intro opened told asked
  refine ⟨fun number read => ?_, rfl, by decide +kernel, by decide +kernel⟩
  cases (checkNumber_eq_ok_iff.2 read : checkNumber .null = .ok number)

end EventTracker
