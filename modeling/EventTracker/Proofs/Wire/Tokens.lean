import EventTracker.Proofs.Json.Surrogates
import EventTracker.Proofs.Profile.Mutation
import EventTracker.Proofs.Store.Composition
import EventTracker.Proofs.Value.SameBut
import EventTracker.Proofs.Wire.Payload
import EventTracker.Tracker.Transport

/-!
# Payloads that differ in the token

The token stands in one place of a payload: in an event among the properties, in a
mutation at the top. Payloads that differ only there are masked to the same copy for the
log, are as deep as each other, and both have a body or neither has: what is found in
their bodies differs only there, and so do the errors, in the place at which surrogates
are found.
-/

namespace EventTracker

open Entries (SameBut)

/-- Payloads that are the same but for the token, where requests to an endpoint carry it. -/
inductive Endpoint.SameButToken : Endpoint → Value → Value → Prop where
  | track (event : Value) {properties properties' : Mapping}
    (alike : SameBut (.str "token") properties properties') :
    SameButToken .track
      (.map [(.str "event", event), (.str "properties", .map properties)])
      (.map [(.str "event", event), (.str "properties", .map properties')])
  | engage {entries entries' : Mapping} (alike : SameBut (.str "$token") entries entries') :
    SameButToken .engage (.map entries) (.map entries')

variable {key : Value} {m m' : Mapping}

namespace Json

/-- A gap without its place. -/
def Gap.unplaced (g : Gap) : Gap := { g with place := 0 }

theorem Gap.map_unplaced_after (gap : Option Gap) (count : Nat) :
    (gap.map (Gap.after count)).map Gap.unplaced = gap.map Gap.unplaced := Option.map_map _ _ _

/-- Errors that are the same but for the place of surrogates. -/
inductive EncodeError.SameButPlace : EncodeError → EncodeError → Prop where
  | same (cause : EncodeError) : SameButPlace cause cause
  | surrogates {g g' : Gap} (same : g'.unplaced = g.unplaced) :
    SameButPlace (.surrogates g) (.surrogates g')

/-- Texts without surrogates have no say in which surrogates come first. -/
theorem map_entriesGap?_eq_of_sameBut (alike : SameBut key m m') :
    (entriesGap? m').map Gap.unplaced = (entriesGap? m).map Gap.unplaced := by
  have none (s : String) : gap? (.str s) = none := textGap?_eq_none_iff.2 rfl
  induction alike with
  | nil => rfl
  | same entry others ih =>
    simp only [entriesGap?, Option.map_or, Gap.map_unplaced_after, ih]
  | text s s' others ih =>
    simp only [entriesGap?, none, Option.none_or, Option.map_or, Gap.map_unplaced_after, ih]

end Json

/-- What is masked does not reach the log. -/
theorem redactEntries_eq_of_sameBut (masked : isTokenKey key = true) (length : Int)
    (alike : SameBut key m m') : redactEntries length m' = redactEntries length m := by
  induction alike with
  | nil => rfl
  | same entry others ih => rw [redactEntries, redactEntries, ih]
  | text s s' others ih => rw [redactEntries, redactEntries, ih, if_pos masked, if_pos masked]

theorem truncateEntries_sameBut (length : Int) (alike : SameBut key m m') :
    SameBut key (truncateEntries length m) (truncateEntries length m') := by
  rw [truncateEntries_eq_map, truncateEntries_eq_map]
  exact alike.map (f := id) fun s => ⟨cutString length s, rfl⟩

namespace Endpoint.SameButToken

variable {endpoint : Endpoint} {payload payload' : Value}

theorem depth_eq (alike : endpoint.SameButToken payload payload') :
    payload'.depth = payload.depth := by
  cases alike with
  | track event alike =>
    simp only [Value.depth, Value.entriesDepth, entriesDepth_eq_of_sameBut alike]
  | engage alike => rw [Value.depth, Value.depth, entriesDepth_eq_of_sameBut alike]

theorem redact_eq (alike : endpoint.SameButToken payload payload') (length : Int) :
    redact length payload' = redact length payload := by
  cases alike with
  | track event alike =>
    simp only [redact, redactEntries, redactEntries_eq_of_sameBut rfl length alike]
  | engage alike => rw [redact, redact, redactEntries_eq_of_sameBut rfl length alike]

theorem truncate (alike : endpoint.SameButToken payload payload') (length : Int) :
    endpoint.SameButToken (truncate length payload) (EventTracker.truncate length payload') := by
  cases alike with
  | track event alike =>
    simp only [EventTracker.truncate, truncateEntries]
    exact .track _ (truncateEntries_sameBut length alike)
  | engage alike =>
    rw [EventTracker.truncate, EventTracker.truncate]
    exact .engage (truncateEntries_sameBut length alike)

theorem normal (alike : endpoint.SameButToken payload payload') :
    endpoint.SameButToken payload.normal payload'.normal := by
  cases alike with
  | track event alike =>
    exact .track event.normal (latest_sameBut (normalEntries_sameBut alike))
  | engage alike =>
    rw [Value.normal, Value.normal]
    exact .engage (latest_sameBut (normalEntries_sameBut alike))

theorem print_matched (alike : endpoint.SameButToken payload payload') (room : Nat) :
    Matched (fun _ _ => True) (Json.print false room payload) (Json.print false room payload') := by
  cases alike with
  | @track event properties properties' alike =>
    cases room with
    | zero => exact .error Json.EncodeError.tooDeep
    | succ room =>
      refine (printEntries_matched ?_).map_true _ _
      refine .cons ⟨rfl, .refl (fun _ => trivial) _⟩ (.cons ⟨rfl, ?_⟩ .nil)
      exact print_map_matched false room alike
  | engage alike => exact print_map_matched false room alike

/-- Surrogates stand in both payloads or in neither, and the first of them are the same. -/
theorem map_gap?_eq (alike : endpoint.SameButToken payload payload') :
    (Json.gap? payload').map Json.Gap.unplaced = (Json.gap? payload).map Json.Gap.unplaced := by
  cases alike with
  | track event alike =>
    simp only [Json.gap?, Json.entriesGap?, Option.map_or, Json.Gap.map_unplaced_after,
      Json.map_entriesGap?_eq_of_sameBut alike]
  | engage alike =>
    simp only [Json.gap?, Json.Gap.map_unplaced_after,
      Json.map_entriesGap?_eq_of_sameBut alike]

/-- Both payloads have a body or neither has, and what is found in the bodies differs in the token
only, and the errors in the place of surrogates. -/
theorem encodeBody_cases (alike : endpoint.SameButToken payload payload') :
    (∃ body body' sent sent', encodeBody payload = .ok body ∧ encodeBody payload' = .ok body' ∧
      payloadOf? body = some sent ∧ payloadOf? body' = some sent' ∧
      endpoint.SameButToken sent sent') ∨
    ∃ cause cause', encodeBody payload = .error cause ∧ encodeBody payload' = .error cause' ∧
      cause.SameButPlace cause' := by
  have written : Matched (fun _ _ => True) (Json.encode false payload) (Json.encode false payload') :=
    (alike.print_matched maxDepth).map_true _ _
  have gaps := alike.map_gap?_eq
  have bodies {body body' : String} (found : encodeBody payload = .ok body)
      (found' : encodeBody payload' = .ok body') : ∃ sent sent', payloadOf? body = some sent ∧
        payloadOf? body' = some sent' ∧ endpoint.SameButToken sent sent' :=
    ⟨_, _, payloadOf?_of_encodeBody found, payloadOf?_of_encodeBody found', alike.normal⟩
  unfold encodeBody encodeData payloadText at bodies ⊢
  generalize Json.encode false payload = text at written bodies ⊢
  generalize Json.encode false payload' = text' at written bodies ⊢
  generalize Json.gap? payload = gap at gaps bodies ⊢
  generalize Json.gap? payload' = gap' at gaps bodies ⊢
  cases written with
  | error cause => exact .inr ⟨cause, cause, rfl, rfl, .same cause⟩
  | ok =>
    cases gap with
    | none =>
      obtain rfl : gap' = none := by simpa using gaps
      obtain ⟨sent, sent', found⟩ := bodies rfl rfl
      exact .inl ⟨_, _, sent, sent', rfl, rfl, found⟩
    | some gap =>
      obtain ⟨gap', rfl, same⟩ := Option.map_eq_some_iff.1 gaps
      exact .inr ⟨_, _, rfl, rfl, .surrogates same⟩

end Endpoint.SameButToken

/-! ## Checks -/

/-- Checks that match after others that match. -/
theorem Matched.apply {α α' β β' : Type} {A : α → α' → Prop} {B : β → β' → Prop}
    {f : Checked (α → β)} {f' : Checked (α' → β')} {a : Checked α} {a' : Checked α'}
    (first : Matched (fun f f' => ∀ a a', A a a' → B (f a) (f' a')) f f') (next : Matched A a a') :
    Matched B (f.apply a) (f'.apply a') := by
  cases first with
  | error flaws => cases next <;> exact .error _
  | ok one =>
    cases next with
    | error flaws => exact .error _
    | ok other => exact .ok (one _ _ other)

theorem Matched.within {α β : Type} {R : α → β → Prop} {a : Checked α} {b : Checked β}
    (matched : Matched R a b) (step : Step) : Matched R (a.within step) (b.within step) := by
  cases matched with
  | ok one => exact .ok one
  | error flaws => exact .error _

/-! ## Events -/

theorem checkProperties_matched {name : Text} (alike : SameBut (.str name) m m') :
    Matched (SameBut name) (checkProperties (.map m)) (checkProperties (.map m')) := by
  have entries : Matched (SameBut name) (checkAll (checkEntry .ok) m)
      (checkAll (checkEntry .ok) m') := by
    induction alike with
    | nil => exact .ok .nil
    | same entry others ih =>
      refine Matched.apply ((Matched.refl (fun _ => rfl) _).map ?_) ih
      rintro named _ rfl _ _ others
      exact .same named others
    | text s s' others ih => exact Matched.apply (.ok fun _ _ others => .text s s' others) ih
  exact entries.map fun _ _ alike => alike.ofList fun _ same => of_decide_eq_true same

/-- Events that are the same but for the token among the properties. -/
def Event.SameButToken (e e' : Event) : Prop :=
  e'.name = e.name ∧ SameBut (.plain "token") e.properties e'.properties

theorem Event.SameButToken.wire {e e' : Event} (alike : e.SameButToken e') :
    Endpoint.SameButToken .track e.wire.toValue e'.wire.toValue := by
  obtain ⟨text, properties⟩ := e
  obtain ⟨text', properties'⟩ := e'
  obtain ⟨rfl, alike⟩ := alike
  exact .track (.str text') (alike.map (f := Value.str) (g := id) fun s => ⟨s, rfl⟩)

theorem ofValues_matched (name : Value) (alike : SameBut (.str "token") m m') :
    Matched Event.SameButToken (Event.ofValues name m) (Event.ofValues name m') := by
  rw [Event.ofValues_eq, Event.ofValues_eq]
  refine Matched.mapError ?_ _
  refine Matched.apply (Matched.apply (.ok ?_) (Matched.refl (fun _ => rfl) _))
    ((checkProperties_matched alike).within _)
  rintro name _ rfl properties properties' alike
  exact ⟨rfl, alike⟩

theorem lastLayer_sameBut (a b : String) (distinctId : Text) (time : Double) (insertId : String) :
    SameBut (.str "token") (Store.lastLayer a distinctId time insertId)
      (Store.lastLayer b distinctId time insertId) :=
  .of_text _ a b _

/-- The token has no say in what composing an event draws, and in the event it is all that
differs. -/
theorem composeFor_matched (s : Store) (distinctId : Text) (a b : String)
    (environment : Option Environment) (event properties : Value) :
    (s.composeFor distinctId b environment event properties).1 =
        (s.composeFor distinctId a environment event properties).1 ∧
      Matched Event.SameButToken (s.composeFor distinctId a environment event properties).2
        (s.composeFor distinctId b environment event properties).2 := by
  unfold Store.composeFor
  simp only
  split
  case h_1 => exact ⟨rfl, .error _⟩
  case h_2 =>
    split
    case h_1 => exact ⟨rfl, .error _⟩
    case h_2 =>
      refine ⟨rfl, (ofValues_matched event ?_).mapError _⟩
      exact (SameBut.refl _ _).overlay eq_of_sameKey_str (lastLayer_sameBut a b _ _ _)

/-! ## Mutations -/

/-- Under which name an input has a field is a matter of its keys. -/
theorem Field.map_fst_find? (f : Field) (input : Mapping) :
    (f.find? input).map Prod.fst = f.names.find? fun name => input.contains (.str (.plain name)) := by
  unfold find?
  induction f.names with
  | nil => rfl
  | cons name rest ih =>
    have present : input.contains (.str (.plain name)) = (input.text? name).isSome :=
      Entries.has_eq_isSome_find? _ _ _
    rw [List.findSome?_cons, List.find?_cons, present]
    cases input.text? name with
    | none => exact ih
    | some value => rfl

theorem Field.find?_eq_of_sameBut {name : String} (alike : SameBut (.str name) m m') {f : Field}
    (other : name ∉ f.names) : f.find? m' = f.find? m := by
  unfold find?
  generalize f.names = names at other
  induction names with
  | nil => rfl
  | cons first rest ih =>
    rw [List.mem_cons, not_or] at other
    have same : m'.text? first = m.text? first :=
      alike.find?_eq <| by
        rw [Value.sameKey_str]
        exact decide_eq_false fun same => other.1 (Text.plain.inj same)
    rw [List.findSome?_cons, List.findSome?_cons, same, ih other.2]

/-- Which inputs are no field's is a matter of the keys. -/
theorem extraFlaws_eq_of_sameBut (fields : List Field) (alike : SameBut key m m') :
    extraFlaws fields m' = extraFlaws fields m := by
  have present (other : Value) : m'.contains other = m.contains other := by
    rw [Mapping.contains, Mapping.contains, Entries.has_eq_any_map_fst,
      Entries.has_eq_any_map_fst, alike.keys_eq]
  have used (f : Field) : (f.find? m').map Prod.fst = (f.find? m).map Prod.fst := by
    rw [Field.map_fst_find?, Field.map_fst_find?]
    simp only [present]
  unfold extraFlaws
  simp only [used]
  generalize fields.filterMap (fun f => (f.find? m).map Prod.fst) = names
  clear used present
  induction alike with
  | nil => rfl
  | same entry others ih | text s s' others ih => rw [List.flatMap_cons, List.flatMap_cons, ih]

/-- Inputs that pass the checks of their fields alike are checked alike. -/
theorem Schema.checkFields_matched {δ α : Type} {s : Schema δ α} {R : δ → δ → Prop}
    {S : α → α → Prop} (alike : SameBut key m m') (fields : Matched R (s.check m) (s.check m'))
    (finished : ∀ d d', R d d' → Matched S (s.finish d) (s.finish d')) :
    Matched S (s.checkFields m) (s.checkFields m') := by
  unfold checkFields
  simp only [extraFlaws_eq_of_sameBut s.fields alike]
  generalize (if (extraFlaws s.fields m).isEmpty = true then (.ok () : Checked Unit)
    else .error (extraFlaws s.fields m)) = rest
  generalize s.check m = checked at fields
  generalize s.check m' = checked' at fields
  cases fields with
  | error flaws => cases rest <;> exact .error _
  | ok one =>
    cases rest with
    | error extras => exact .error _
    | ok => exact (finished _ _ one).mapError _

namespace ProfileMutation

/-- A token that is not empty passes its check. -/
theorem required_tokenField {token : String} (nonempty : token ≠ "") {rest : Mapping}
    (other : Mapping.text? rest "$token" = none) :
    tokenField.required ((.str tokenField.name, .str token) :: rest) checkNonemptyText =
      .ok token := by
  have found : tokenField.find? ((.str tokenField.name, .str token) :: rest) =
      some ("token", .str token) := by
    have other : Entries.find? Value.sameKey (.str "$token") rest = none := other
    simp [Field.find?, Field.names, tokenField, Mapping.text?, Mapping.get?, Entries.find?_cons,
      other]
  rw [Field.required, found]
  show Checked.within _ (if token = "" then _ else Except.ok token) = _
  rw [if_neg nonempty]
  rfl

/-- Mutations that are the same but for the token. -/
def SameButToken (m m' : ProfileMutation) : Prop := m' = { m with token := m'.token }

theorem SameButToken.wire {m m' : ProfileMutation} (alike : m.SameButToken m') :
    Endpoint.SameButToken .engage m.wire.toValue m'.wire.toValue := by
  rw [alike]
  exact .engage (.of_text _ m.token m'.token _)

/-- The token has no say in whether a mutation is valid, if it is not empty. -/
theorem checkFields_matched {a b : String} (hasToken : a ≠ "") (hasToken' : b ≠ "") (id : Text)
    {operation : Field} (other : operation.name ≠ "$token") (operand : Value) :
    Matched SameButToken
      (schema.checkFields [(.str tokenField.name, .str a), (.str distinctIdField.name, .str id),
        (.str operation.name, operand)])
      (schema.checkFields [(.str tokenField.name, .str b), (.str distinctIdField.name, .str id),
        (.str operation.name, operand)]) := by
  have alike := SameBut.of_text (Value.str tokenField.name) a b
    [(.str distinctIdField.name, .str id), (.str operation.name, operand)]
  have same (f : Field) (apart : "token" ∉ f.names) := Field.find?_eq_of_sameBut alike apart
  have absent : Mapping.text? [(.str distinctIdField.name, .str id),
      (.str operation.name, operand)] "$token" = none := by
    simp [Mapping.text?, Mapping.get?, Entries.find?_cons, Entries.find?_nil, distinctIdField,
      other]
  refine Schema.checkFields_matched (R := fun d d' : Draft => d' = { d with token := d'.token })
    alike ?_ ?_
  · simp only [schema, required_tokenField hasToken absent, required_tokenField hasToken' absent]
    simp only [Field.required, Field.withDefault]
    rw [same distinctIdField (by decide), same setField (by decide), same setOnceField (by decide),
      same unsetField (by decide), same addField (by decide), same appendField (by decide)]
    refine Matched.apply (.apply (.apply (.apply (.apply (.apply (.ok ?_)
      (.refl (fun _ => rfl) _)) (.refl (fun _ => rfl) _)) (.refl (fun _ => rfl) _))
      (.refl (fun _ => rfl) _)) (.refl (fun _ => rfl) _)) (.refl (fun _ => rfl) _)
    rintro _ _ rfl _ _ rfl _ _ rfl _ _ rfl _ _ rfl _ _ rfl
    rfl
  · rintro d d' tokens
    have operations : d'.operations = d.operations := by rw [tokens]; rfl
    have user : d'.distinctId = d.distinctId := by rw [tokens]
    simp only [schema, operations, user]
    split
    · exact .ok rfl
    · exact .error _

end ProfileMutation

end EventTracker
