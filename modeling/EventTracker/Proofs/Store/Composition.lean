import EventTracker.Proofs.Schema.Container
import EventTracker.Store.Composition

/-!
# What a composed event holds

The layers of an event are merged by their keys, and only then is each key read as a text.
So the last layer overrides what other layers have under its names, and what it holds is
held by the event, unless another layer has one of its names in bytes.
-/

namespace EventTracker

/-- Making an event checks its name, then its properties. -/
theorem Event.ofValues_eq (name : Value) (properties : Mapping) :
    Event.ofValues name properties =
      ((Checked.apply (.ok Event.mk) ((checkText name).within (.name "event"))).apply
        ((checkProperties (.map properties)).within (.name "properties"))).mapError
        (⟨"EventPayload", ·⟩) := by
  have fields : Event.schema.check [(.str "event", name), (.str "properties", .map properties)] =
      (Checked.apply (.ok Event.mk) ((checkText name).within (.name "event"))).apply
        ((checkProperties (.map properties)).within (.name "properties")) := rfl
  have extras : extraFlaws Event.schema.fields
      [(.str "event", name), (.str "properties", .map properties)] = [] := rfl
  rw [Event.ofValues, Schema.checkFields, fields, extras]
  cases checkText name <;> cases checkProperties (.map properties) <;> rfl

theorem Event.ofValues_eq_ok_iff {name : Value} {properties : Mapping} {e : Event} :
    Event.ofValues name properties = .ok e ↔
      checkText name = .ok e.name ∧ checkProperties (.map properties) = .ok e.properties := by
  obtain ⟨text, table⟩ := e
  rw [Event.ofValues_eq]
  cases checkText name <;> cases checkProperties (.map properties) <;>
    simp [Checked.apply, Checked.within, Except.mapError]

theorem Mapping.distinct_absorb {m : Mapping} (distinct : Entries.Distinct Value.sameKey m)
    (source : Value) : Entries.Distinct Value.sameKey (m.absorb source).1 := by
  have pairs (elements : List Value) : Entries.Distinct Value.sameKey (m.absorbPairs elements).1 := by
    induction elements generalizing m with
    | nil => exact distinct
    | cons element rest ih =>
      rw [absorbPairs]
      cases pair? element with
      | ok pair => exact ih (Entries.distinct_put distinct _ _)
      | error kind => exact distinct
  unfold absorb
  split
  · exact Entries.distinct_overlay distinct _
  · split
    · exact pairs _
    · exact distinct

/-! ## The layers -/

/-- The names that an environment can give properties, in their order. -/
def Environment.propertyNames : List Text :=
  ["$os", "$browser", "$browser_version", "$device", "$current_url", "$referrer",
    "$referring_domain", "$screen_height", "$screen_width", "mp_lib", "$lib_version"]

/-- The names of an optional part of a table. -/
theorem Table.names_getD_sublist {α : Type} {part : α → Table Value} {names : List Text}
    (same : ∀ a, (part a).map Prod.fst = names) (o : Option α) :
    (((o.map part).getD []).map Prod.fst).Sublist names := by
  cases o with
  | none => exact List.nil_sublist _
  | some a => exact same a ▸ List.Sublist.refl _

theorem Environment.properties_sublist (e : Environment) :
    (e.properties.map Prod.fst).Sublist (propertyNames.take 9) := by
  have parts : propertyNames.take 9 =
      propertyNames.take 4 ++ [.plain "$current_url"] ++
        [.plain "$referrer", .plain "$referring_domain"] ++ [.plain "$screen_height"] ++
        [.plain "$screen_width"] := rfl
  simp only [properties, List.map_append]
  rw [parts]
  refine .append (.append (.append (.append ?_ ?_) ?_) ?_) ?_ <;>
    exact Table.names_getD_sublist (by intro _; rfl) _

theorem Environment.defaultProperties_sublist (e : Option Environment) :
    ((defaultProperties e).map Prod.fst).Sublist propertyNames := by
  rw [defaultProperties, List.map_append]
  have known : (((e.map properties).getD []).map Prod.fst).Sublist (propertyNames.take 9) := by
    cases e with
    | none => exact List.nil_sublist _
    | some e => exact e.properties_sublist
  exact known.append (List.Sublist.refl _)

namespace Store

variable {s s' : Store} {environment : Option Environment} {properties : Value}

theorem distinct_baseLayers (s : Store) (environment : Option Environment) :
    Entries.Distinct Value.sameKey (s.baseLayers environment) := by
  refine Entries.distinct_overlay ?_ _
  have names := (Environment.defaultProperties_sublist environment).nodup (by decide)
  rw [Entries.Distinct, List.pairwise_map]
  exact (List.pairwise_map.1 names).imp fun apart => by simpa using apart

/-- The layers below the last, and what is wrong with the caller's, if anything is. -/
def lowerLayers (s : Store) (environment : Option Environment) (properties : Value) :
    Mapping × Option Misuse :=
  if properties.truthy then (s.baseLayers environment).absorb properties
  else (s.baseLayers environment, none)

theorem lowerLayers_distinct (s : Store) (environment : Option Environment) (properties : Value) :
    Entries.Distinct Value.sameKey (s.lowerLayers environment properties).1 := by
  unfold lowerLayers
  split
  · exact Mapping.distinct_absorb (s.distinct_baseLayers environment) properties
  · exact s.distinct_baseLayers environment

theorem lastLayer_texts {token distinctId : Text} {insertId : String} {time : Double} :
    ∀ entry ∈ lastLayer token distinctId time insertId, ∃ name, entry.1 = .str name := by
  simp [lastLayer]

theorem text?_overlay_lastLayer {lower : Mapping} {token distinctId name : Text} {insertId : String}
    {time : Double} {value : Value}
    (mem : (.str name, value) ∈ lastLayer token distinctId time insertId) :
    (lower.overlay (lastLayer token distinctId time insertId)).text? name = some value := by
  have last : Entries.find? Value.sameKey (.str name)
      (lastLayer token distinctId time insertId).reverse = some value := by
    simp only [lastLayer, List.mem_cons, Prod.mk.injEq, Value.str.injEq, List.not_mem_nil,
      or_false] at mem
    rcases mem with ⟨rfl, rfl⟩ | ⟨rfl, rfl⟩ | ⟨rfl, rfl⟩ | ⟨rfl, rfl⟩ <;>
      simp [lastLayer, Entries.find?_cons]
  rw [Mapping.text?, Mapping.get?, Mapping.overlay, Entries.find?_overlay keyEquality_sameKey, last,
    Option.some_or]

/-- What composing an event comes to when the layers can be merged and the clock be read. -/
theorem compose_of_layers {lower : Mapping} {time : Double} {clock : Clock}
    (layers : s.lowerLayers environment properties = (lower, none))
    (read : s.clock.read = (.ok time, clock)) (token : Text) (event : Value) :
    s.compose token environment event properties =
      ({ s with clock, ids := s.ids.insert.2 },
        (Event.ofValues event (lower.overlay
          (lastLayer token s.distinctId time s.ids.insert.1))).mapError .invalid) := by
  rw [lowerLayers] at layers
  simp only [compose, composeFor, layers, read]

/-- What composing an event comes to, if it is valid. -/
theorem exists_of_composeFor_eq_ok {distinctId token : Text} {event : Value} {e : Event}
    (composed : s.composeFor distinctId token environment event properties = (s', .ok e)) :
    ∃ lower time clock, s.lowerLayers environment properties = (lower, none) ∧
      s.clock.read = (.ok time, clock) ∧ s' = { s with clock, ids := s.ids.insert.2 } ∧
      Event.ofValues event
        (lower.overlay (lastLayer token distinctId time s.ids.insert.1)) = .ok e := by
  unfold composeFor at composed
  simp only [← lowerLayers.eq_def] at composed
  generalize layers : s.lowerLayers environment properties = lower at composed
  obtain ⟨lower, _ | kind⟩ := lower
  case some => cases composed
  case none =>
    simp only at composed
    generalize reading : s.clock.read = read at composed
    obtain ⟨_ | time, clock⟩ := read
    case error fault => cases composed
    case ok =>
      obtain ⟨rfl, valid⟩ := Prod.mk.inj composed
      refine ⟨lower, time, clock, rfl, rfl, rfl, ?_⟩
      generalize Event.ofValues event _ = checked at valid
      cases checked with
      | error report => cases valid
      | ok e =>
        cases valid
        rfl

/-- The names of a composed event's properties are all different. -/
theorem distinct_of_compose {token : Text} {event : Value} {e : Event}
    (composed : s.compose token environment event properties = (s', .ok e)) :
    Entries.Distinct (fun a b => decide (a = b)) e.properties := by
  obtain ⟨lower, time, clock, -, -, -, valid⟩ := exists_of_composeFor_eq_ok composed
  obtain ⟨named, -, same⟩ := checkProperties_eq_ok_iff.1 (Event.ofValues_eq_ok_iff.1 valid).2
  exact same ▸ Entries.distinct_ofList named

/-- An event holds what the last layer holds, under each name that no lower layer shadows. -/
theorem get?_of_ofValues_lastLayer {lower : Mapping} {token distinctId name : Text}
    {insertId : String} {time : Double} {event value : Value} {e : Event}
    (distinct : Entries.Distinct Value.sameKey lower)
    (valid : Event.ofValues event (lower.overlay (lastLayer token distinctId time insertId)) = .ok e)
    (mem : (.str name, value) ∈ lastLayer token distinctId time insertId)
    (clear : ¬ lower.Shadowed name) : e.properties.get? name = some value := by
  obtain ⟨named, read, same⟩ := checkProperties_eq_ok_iff.1 (Event.ofValues_eq_ok_iff.1 valid).2
  rw [← same]
  refine read.get?_of_text (Entries.distinct_overlay distinct _) (text?_overlay_lastLayer mem) ?_
  exact fun shadowed => clear (shadowed.of_overlay lastLayer_texts)

/-- A composed event holds the token, the store's distinct id, the reading that this call took of
the clock and the id that it drew, each unless a lower layer shadows its name. -/
theorem compose_holds_last_layer {token : Text} {event : Value} {e : Event}
    (composed : s.compose token environment event properties = (s', .ok e)) :
    ∃ lower time, s.lowerLayers environment properties = (lower, none) ∧
      s.clock.read = (.ok time, s'.clock) ∧ s'.ids = s.ids.insert.2 ∧
      (¬ lower.Shadowed "token" → e.properties.get? "token" = some (.str token)) ∧
      (¬ lower.Shadowed "distinct_id" →
        e.properties.get? "distinct_id" = some (.str s.distinctId)) ∧
      (¬ lower.Shadowed "time" → e.properties.get? "time" = some (.float time)) ∧
      (¬ lower.Shadowed "$insert_id" →
        e.properties.get? "$insert_id" = some (.str s.ids.insert.1)) := by
  obtain ⟨lower, time, clock, layers, read, rfl, valid⟩ := exists_of_composeFor_eq_ok composed
  have distinct : Entries.Distinct Value.sameKey lower := by
    have := s.lowerLayers_distinct environment properties
    rwa [layers] at this
  refine ⟨lower, time, layers, read, rfl, ?_, ?_, ?_, ?_⟩ <;>
    exact get?_of_ofValues_lastLayer distinct valid (by simp [lastLayer])

/-- The store of a new device, in memory. -/
def ofNewDevice : Store :=
  (openNew ⟨⟨.memory [] [] 0, ⟨[]⟩, []⟩, ⟨.succ, 0, []⟩, .ticking 0⟩ (.str "mon_T") false).ensureIdentity

/-- What a caller gives under texts overrides nothing of the last layer. -/
theorem compose_holds_last_layer_forged_texts :
    ∃ s' e, ofNewDevice.compose "T" none (.str "E")
        (.map [(.str "token", .str "forged"), (.str "distinct_id", .str "forged")]) = (s', .ok e) ∧
      e.properties.get? "token" = some (.str "T") ∧
      e.properties.get? "distinct_id" =
        some (.str "$device:00000000-0000-0000-0000-000000000001") := by
  refine ⟨_, _, rfl, ?_⟩
  obtain ⟨lower, time, layers, -, -, token, distinctId, -, -⟩ := compose_holds_last_layer
    (show ofNewDevice.compose "T" none (.str "E")
      (.map [(.str "token", .str "forged"), (.str "distinct_id", .str "forged")]) = _ from rfl)
  have texts : Schema.hasTextKeys lower = true :=
    (congrArg (fun layers => Schema.hasTextKeys layers.1) layers).symm.trans rfl
  have clear := fun name => Mapping.not_shadowed_of_texts name (Schema.hasTextKeys_iff.1 texts)
  exact ⟨token (clear "token"), distinctId (clear "distinct_id")⟩

/-- Bytes that stand behind the text that they encode override what the last layer holds: the keys
of an event are read as texts only after the layers have been merged. -/
theorem compose_forged_by_bytes :
    ∃ s' e, ofNewDevice.compose "T" none (.str "E")
        (.map [(.bytes (utf8Bytes "distinct_id"), .str "forged")]) = (s', .ok e) ∧
      ofNewDevice.distinctId = .plain "$device:00000000-0000-0000-0000-000000000001" ∧
      e.properties.get? "distinct_id" = some (.str "forged") :=
  ⟨_, _, rfl, rfl, rfl⟩

end Store

end EventTracker
