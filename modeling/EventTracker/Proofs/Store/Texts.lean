import EventTracker.Proofs.Store.Composition
import EventTracker.Proofs.Store.Loading
import EventTracker.Store.SuperProperties

/-!
# Bags under texts

Where callers give mappings under texts, a bag has texts as its keys, all of them
different: it is so when it is loaded, and each operation keeps it so. An event that is
composed of such a bag holds what the bag holds, except where the caller or the last
layer overrides it.
-/

namespace EventTracker

/-- A mapping under texts, no two of which are the same. -/
structure Mapping.TextKeyed (m : Mapping) : Prop where
  texts : Schema.hasTextKeys m = true
  distinct : Entries.Distinct Value.sameKey m

/-- A mapping under texts, or nothing. -/
def Value.TextKeyed : Value → Prop
  | .map entries => Schema.hasTextKeys entries = true
  | .null => True
  | _ => False

/-- The value that a mapping gives a name. -/
def Value.entry? (given : Value) (name : Text) : Option Value :=
  match given with
  | .map entries => Mapping.text? entries name
  | _ => none

theorem hasTextKeys_overlay {m patch : Mapping} (texts : Schema.hasTextKeys m = true)
    (given : Schema.hasTextKeys patch = true) : Schema.hasTextKeys (m.overlay patch) = true := by
  rw [Schema.hasTextKeys_iff] at texts given ⊢
  intro entry mem
  exact (Entries.forall_overlay (P := fun key => ∃ s, key = .str s) (Q := fun _ => True)
    (fun entry mem => ⟨texts entry mem, trivial⟩) (fun entry mem => ⟨given entry mem, trivial⟩)
    entry mem).1

theorem hasTextKeys_filter {m : Mapping} (texts : Schema.hasTextKeys m = true)
    (keep : Value × Value → Bool) : Schema.hasTextKeys (m.filter keep) = true :=
  Schema.hasTextKeys_iff.2 fun entry mem =>
    Schema.hasTextKeys_iff.1 texts entry (List.mem_filter.1 mem).1

theorem hashable_of_texts {m : Mapping} (texts : Schema.hasTextKeys m = true) :
    ∀ entry ∈ m, entry.1.hashable = true := by
  intro entry mem
  obtain ⟨name, text⟩ := Schema.hasTextKeys_iff.1 texts entry mem
  rw [text]
  rfl

namespace Mapping.TextKeyed

variable {m patch : Mapping}

theorem overlay (keyed : m.TextKeyed) (given : Schema.hasTextKeys patch = true) :
    (m.overlay patch).TextKeyed :=
  ⟨hasTextKeys_overlay keyed.texts given, Entries.distinct_overlay keyed.distinct patch⟩

theorem empty : TextKeyed [] := ⟨rfl, List.Pairwise.nil⟩

theorem filter (keyed : m.TextKeyed) (keep : Value × Value → Bool) : TextKeyed (m.filter keep) where
  texts := hasTextKeys_filter keyed.texts keep
  distinct := keyed.distinct.filter keep

/-- What a mapping has under a name is what stands there. -/
theorem text?_eq_some_iff (keyed : m.TextKeyed) {name : Text} {v : Value} :
    m.text? name = some v ↔ (.str name, v) ∈ m := by
  constructor
  · intro found
    obtain ⟨front, key, back, rfl, same⟩ := Entries.exists_eq_append_of_find? found
    rw [Value.sameKey_str_iff.1 same]
    exact List.mem_append_right _ List.mem_cons_self
  · intro mem
    obtain ⟨front, back, rfl⟩ := List.append_of_mem mem
    have apart := (List.pairwise_append.1 keyed.distinct).2.2
    have absent : Entries.find? Value.sameKey (.str name) front = none := Entries.find?_of_absent <|
      Entries.has_eq_false_iff.2 fun entry earlier => apart entry earlier _ List.mem_cons_self
    rw [text?, get?, Entries.find?_append, absent, Option.none_or, Entries.find?_cons, if_pos]
    exact Value.sameKey_str_iff.2 rfl

/-- A mapping that was read from JSON is under texts. -/
theorem of_isKeyed (keyed : (Value.map m).IsKeyed) : m.TextKeyed :=
  ⟨Schema.hasTextKeys_iff.2 keyed.1, keyed.2.1⟩

end Mapping.TextKeyed

/-- A mapping keeps what a patch that is put on top of it does not name. -/
theorem Mapping.text?_overlay_of_none (m : Mapping) {patch : Mapping} {name : Text}
    (missing : patch.text? name = none) : (m.overlay patch).text? name = m.text? name := by
  rw [text?, get?, overlay, Entries.find?_overlay keyEquality_sameKey,
    Entries.find?_reverse_eq_none missing, Option.none_or]
  rfl

/-! ## Operations of the store -/

namespace Store

variable {s : Store}

theorem keyed_registerEntries (keyed : s.props.TextKeyed) (entries : List (String × Value)) :
    (s.registerEntries entries).props.TextKeyed := by
  rw [registerEntries_props]
  exact keyed.overlay (Schema.hasTextKeys_map (fun _ => ⟨_, rfl⟩) entries)

theorem keyed_enterAnonymous (keyed : s.props.TextKeyed) : s.enterAnonymous.props.TextKeyed :=
  keyed_registerEntries (s := { s with ids := s.ids.device.2 }) keyed _

theorem keyed_ensureIdentity (keyed : s.props.TextKeyed) : s.ensureIdentity.props.TextKeyed := by
  unfold ensureIdentity
  split
  · exact keyed_enterAnonymous keyed
  · exact keyed

theorem keyed_reset : s.reset.props.TextKeyed := by
  refine keyed_enterAnonymous ?_
  rw [clear_props]
  exact .empty

theorem keyed_identify (keyed : s.props.TextKeyed) (id : Value) :
    (s.identify id).1.props.TextKeyed := by
  unfold identify
  split
  · split
    · exact keyed
    · exact keyed_registerEntries keyed _
  · exact keyed

theorem keyed_register (keyed : s.props.TextKeyed) {entries : Mapping}
    (texts : Schema.hasTextKeys entries = true) :
    (s.register (.map entries)).1.props.TextKeyed := by
  rw [register, Mapping.absorb]
  simp only [save_props]
  exact keyed.overlay texts

theorem keyed_registerOnce (keyed : s.props.TextKeyed) {entries : Mapping}
    (texts : Schema.hasTextKeys entries = true) :
    (s.registerOnce (.map entries)).1.props.TextKeyed := by
  rcases s.registerOnce_cases entries with same | saved
  · rw [same]
    exact keyed
  · rw [saved, save_props]
    exact keyed.overlay (hasTextKeys_filter texts _)

theorem keyed_unregister (keyed : s.props.TextKeyed) (key : Value) :
    (s.unregister key).1.props.TextKeyed := by
  rcases s.unregister_cases key with ⟨fault, refused⟩ | saved
  · rw [refused]
    exact keyed
  · rw [saved, save_props]
    exact keyed.filter _

/-- What is left of a mapping under texts, if it is one, is under texts that are not of the
identity. -/
theorem withoutReserved_cases (s : Store) {patch : Value} (given : patch.TextKeyed) :
    (∃ fault, s.withoutReserved patch = (s, .error fault)) ∨
      ∃ warned entries, s.withoutReserved patch = (warned, .ok entries) ∧ SameBut s warned ∧
        Schema.hasTextKeys entries = true ∧ ∀ entry ∈ entries, isReserved entry.1 = false := by
  cases patch with
  | map entries =>
    obtain ⟨warned, same, kept⟩ := s.exists_withoutReserved_eq (hashable_of_texts given)
    refine .inr ⟨warned, _, kept, same, hasTextKeys_filter given _, fun entry mem => ?_⟩
    simpa using (List.mem_filter.1 mem).2
  | null => exact .inl ⟨_, rfl⟩
  | _ => cases given

theorem keyed_registerSuper (keyed : s.props.TextKeyed) {patch : Value} (given : patch.TextKeyed) :
    (s.registerSuper patch).1.props.TextKeyed := by
  rw [registerSuper]
  rcases s.withoutReserved_cases given with
    ⟨fault, refused⟩ | ⟨warned, entries, kept, same, texts, -⟩
  · rw [refused]
    exact keyed
  · rw [kept]
    exact keyed_register (same.props ▸ keyed) texts

theorem keyed_registerSuperOnce (keyed : s.props.TextKeyed) {patch : Value}
    (given : patch.TextKeyed) : (s.registerSuperOnce patch).1.props.TextKeyed := by
  rw [registerSuperOnce]
  rcases s.withoutReserved_cases given with
    ⟨fault, refused⟩ | ⟨warned, entries, kept, same, texts, -⟩
  · rw [refused]
    exact keyed
  · rw [kept]
    exact keyed_registerOnce (same.props ▸ keyed) texts

theorem keyed_unregisterSuper (keyed : s.props.TextKeyed) (key : Value) :
    (s.unregisterSuper key).1.props.TextKeyed := by
  rcases s.unregisterSuper_cases key with same | ⟨-, removed⟩
  · exact same.props ▸ keyed
  · exact removed ▸ keyed_unregister keyed key

/-- The bag of a new store is the one that is found stored, or empty. -/
theorem openNew_props (desk : Desk) (name : Value) (debug : Bool) :
    (openNew desk name debug).props = ((desk.get name).toOption.bind storedBag?).getD [] := by
  cases got : desk.get name with
  | error fault =>
    rw [openNew, load]
    simp only [got]
    rfl
  | ok stored => exact load_props { desk with name, props := [], debug } got

/-- What is found stored is under texts, whatever it is. -/
theorem keyed_storedBag? (stored : Option Value) :
    ((stored.bind storedBag?).getD []).TextKeyed := by
  cases found : stored.bind storedBag? with
  | none => exact .empty
  | some entries =>
    obtain ⟨content, -, found⟩ := Option.bind_eq_some_iff.1 found
    exact .of_isKeyed (isKeyed_of_storedBag? found)

theorem keyed_openNew (desk : Desk) (name : Value) (debug : Bool) :
    (openNew desk name debug).props.TextKeyed := by
  rw [openNew_props]
  exact keyed_storedBag? _

/-! ## Identity -/

/-- The distinct id that is registered, before another entry of the identity. -/
theorem distinctId_registerEntries (s : Store) (id : Text) {key : String}
    (other : key ≠ distinctIdKey) (value : Value) :
    (s.registerEntries [(distinctIdKey, .str id), (key, value)]).distinctId = id := by
  have held : (s.registerEntries [(distinctIdKey, .str id), (key, value)]).props.text?
      distinctIdKey = some (.str id) := by
    rw [registerEntries_props, Mapping.text?, Mapping.get?, Mapping.overlay,
      Entries.find?_overlay keyEquality_sameKey]
    simp [Entries.find?_cons, other]
  rw [distinctId, held]

/-- A user that is identified is the one that was given, and the distinct id before is returned. -/
theorem distinctId_identify {s' : Store} {id : Value} {previous : Text}
    (identified : s.identify id = (s', .ok previous)) :
    id = .str s'.distinctId ∧ s'.distinctId ≠ "" ∧ previous = s.distinctId := by
  unfold identify identify.refusal at identified
  split at identified
  case h_1 text =>
    split at identified
    · split at identified <;> cases identified
    case isFalse nonempty =>
      obtain ⟨rfl, result⟩ := Prod.mk.inj identified
      rw [distinctId_registerEntries s text (by decide)]
      exact ⟨rfl, nonempty, (Except.ok.inj result).symm⟩
  case h_2 => split at identified <;> cases identified

/-- Identifying changes no super-property. -/
theorem text?_identify (s : Store) (id : Value) {name : Text}
    (super : isReserved (.str name) = false) :
    (s.identify id).1.props.text? name = s.props.text? name := by
  unfold identify
  split
  · split
    · rfl
    · rw [registerEntries_props]
      refine Mapping.text?_overlay_of_none _ ?_
      simp only [isReserved, reservedKeys, List.any_cons, List.any_nil, Bool.or_false,
        Bool.or_eq_false_iff, beq_eq_false_iff_ne] at super
      simp [Mapping.text?, Mapping.get?, Entries.find?_cons, Entries.find?_nil, eq_comm, super]
  · rfl

theorem distinctId_enterAnonymous_eq (s : Store) :
    s.enterAnonymous.distinctId = .plain (deviceMark ++ s.ids.device.1) := by
  have other : deviceIdKey ≠ distinctIdKey := by decide
  exact distinctId_registerEntries { s with ids := s.ids.device.2 } _ other (.str s.ids.device.1)

theorem distinctId_enterAnonymous (s : Store) : s.enterAnonymous.distinctId ≠ "" := by
  rw [distinctId_enterAnonymous_eq]
  simp [deviceMark]

theorem distinctId_ensureIdentity (s : Store) : s.ensureIdentity.distinctId ≠ "" := by
  unfold ensureIdentity
  split
  · exact s.distinctId_enterAnonymous
  case isFalse named => exact named

/-! ## Composition -/

variable {s' : Store} {token : Text} {environment : Option Environment} {event given : Value}
  {e : Event}

theorem texts_baseLayers (texts : Schema.hasTextKeys s.props = true)
    (environment : Option Environment) :
    Schema.hasTextKeys (s.baseLayers environment) = true :=
  hasTextKeys_overlay (Schema.hasTextKeys_map (fun _ => ⟨_, rfl⟩) _) texts

theorem text?_baseLayers (bag : s.props.TextKeyed) (environment : Option Environment)
    {name : Text} {value : Value} (held : s.props.text? name = some value) :
    (s.baseLayers environment).text? name = some value := by
  rw [baseLayers, Mapping.text?, Mapping.get?, Mapping.overlay,
    Entries.find?_overlay keyEquality_sameKey,
    Entries.find?_reverse keyEquality_sameKey bag.distinct, ← Mapping.get?, ← Mapping.text?, held,
    Option.some_or]

/-- Layers under texts, and what they hold of the bag. -/
theorem lowerLayers_of_texts (bag : s.props.TextKeyed) (texts : given.TextKeyed)
    (environment : Option Environment) :
    Schema.hasTextKeys (s.lowerLayers environment given).1 = true ∧
      ∀ name value, s.props.text? name = some value → given.entry? name = none →
        (s.lowerLayers environment given).1.text? name = some value := by
  have base := texts_baseLayers bag.texts environment
  unfold lowerLayers
  cases given with
  | null => exact ⟨base, fun name value held _ => text?_baseLayers bag environment held⟩
  | map entries =>
    cases entries with
    | nil => exact ⟨base, fun name value held _ => text?_baseLayers bag environment held⟩
    | cons entry rest =>
      refine ⟨hasTextKeys_overlay base texts, fun name value held own => ?_⟩
      exact (Mapping.text?_overlay_of_none _ own).trans (text?_baseLayers bag environment held)
  | _ => cases texts

/-- The names of the last layer. -/
def lastNames : List Text :=
  [.plain "token", .plain "distinct_id", .plain "time", .plain "$insert_id"]

/-- An event holds what layers under texts hold, under all names but those of the last layer. -/
theorem get?_of_ofValues_lower {lower : Mapping} {distinctId name : Text} {insertId : String}
    {time : Double} {value : Value} (distinct : Entries.Distinct Value.sameKey lower)
    (texts : Schema.hasTextKeys lower = true)
    (valid : Event.ofValues event (lower.overlay (lastLayer token distinctId time insertId)) = .ok e)
    (held : lower.text? name = some value) (other : name ∉ lastNames) :
    e.properties.get? name = some value := by
  obtain ⟨named, read, same⟩ := checkProperties_eq_ok_iff.1 (Event.ofValues_eq_ok_iff.1 valid).2
  rw [← same]
  refine read.get?_of_text (Entries.distinct_overlay distinct _) ?_ fun shadowed =>
    Mapping.not_shadowed_of_texts name (Schema.hasTextKeys_iff.1 texts)
      (shadowed.of_overlay lastLayer_texts)
  refine (Mapping.text?_overlay_of_none _ ?_).trans held
  simp only [lastNames, List.mem_cons, List.not_mem_nil, or_false, not_or] at other
  simp [Mapping.text?, Mapping.get?, lastLayer, Entries.find?_cons, Entries.find?_nil, eq_comm,
    other]

/-- An event that is composed of layers under texts is for the store's distinct id, and holds the
bag's values under all names but those that the caller or the last layer has. -/
theorem holds_of_compose (bag : s.props.TextKeyed) (texts : given.TextKeyed)
    (composed : s.compose token environment event given = (s', .ok e)) :
    Entries.Distinct (fun a b => decide (a = b)) e.properties ∧
      e.properties.get? (.plain "distinct_id") = some (.str s.distinctId) ∧
      ∀ name value, s.props.text? name = some value → given.entry? name = none →
        name ∉ lastNames → e.properties.get? name = some value := by
  obtain ⟨lower, time, clock, layers, -, -, valid⟩ := exists_of_composeFor_eq_ok composed
  obtain ⟨lowerTexts, held⟩ := lowerLayers_of_texts bag texts environment
  have lowerDistinct := s.lowerLayers_distinct environment given
  rw [layers] at lowerTexts held lowerDistinct
  refine ⟨distinct_of_compose composed, ?_, fun name value inBag own other => ?_⟩
  · exact get?_of_ofValues_lastLayer lowerDistinct valid (by simp [lastLayer])
      (Mapping.not_shadowed_of_texts "distinct_id" (Schema.hasTextKeys_iff.1 lowerTexts))
  · exact get?_of_ofValues_lower lowerDistinct lowerTexts valid (held name value inBag own) other

/-- An event holds what the caller gives under texts that are all different, under all names but those
of the last layer. -/
theorem get?_given_of_compose (bag : s.props.TextKeyed) {entries : Mapping}
    (keyed : entries.TextKeyed)
    (composed : s.compose token environment event (.map entries) = (s', .ok e)) {name : Text}
    {value : Value} (held : entries.text? name = some value) (other : name ∉ lastNames) :
    e.properties.get? name = some value := by
  obtain ⟨lower, time, clock, layers, -, -, valid⟩ := exists_of_composeFor_eq_ok composed
  have callers : (Value.map entries).TextKeyed := keyed.texts
  have texts := (lowerLayers_of_texts bag callers environment).1
  have distinct := s.lowerLayers_distinct environment (.map entries)
  have merged : s.lowerLayers environment (.map entries) =
      ((s.baseLayers environment).overlay entries, none) := by
    cases entries <;> rfl
  rw [layers] at texts distinct merged
  refine get?_of_ofValues_lower distinct texts valid ?_ other
  rw [(Prod.mk.inj merged).1, Mapping.text?, Mapping.get?, Mapping.overlay,
    Entries.find?_overlay keyEquality_sameKey,
    Entries.find?_reverse keyEquality_sameKey keyed.distinct, ← Mapping.get?, ← Mapping.text?, held,
    Option.some_or]

end Store

end EventTracker
