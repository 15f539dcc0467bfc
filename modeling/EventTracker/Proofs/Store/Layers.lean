import EventTracker.Proofs.Store.Texts
import Mathlib.Data.List.Induction
import Mathlib.Data.List.Nodup

/-!
# The layers of an event

An event is merged of four layers: the environment's defaults, the bag, what the caller
gives, and the last layer. Where the bag and the caller's mapping are under texts, each
layer is a table, and so is what they are merged to: its names are those of the layers in
the order in which they first come, and each has the value of the last layer that has it,
null included.
-/

namespace EventTracker

namespace Entries

variable {κ κ' ν : Type} {same : κ → κ → Bool} {same' : κ' → κ' → Bool} {f : κ → κ'}
  (agree : ∀ a b, same' (f a) (f b) = same a b)

include agree

theorem put_map (key : κ) (value : ν) (entries : Entries κ ν) :
    put same' (f key) value (entries.map fun (k, v) => (f k, v)) =
      (put same key value entries).map fun (k, v) => (f k, v) := by
  induction entries with
  | nil => rfl
  | cons entry rest ih =>
    rw [List.map_cons, put, put, agree, ih]
    split <;> rfl

/-- Keys may be renamed before or after an overlay. -/
theorem overlay_map (entries patch : Entries κ ν) :
    overlay same' (entries.map fun (k, v) => (f k, v)) (patch.map fun (k, v) => (f k, v)) =
      (overlay same entries patch).map fun (k, v) => (f k, v) := by
  induction patch generalizing entries with
  | nil => rfl
  | cons entry patch ih => rw [List.map_cons, overlay_cons, overlay_cons, put_map agree, ih]

end Entries

/-! ## Layers of tables -/

namespace Table

variable {α : Type}

/-- Each name stands where it first comes. -/
theorem map_fst_ofList (named : List (Text × α)) :
    (Table.ofList named).map Prod.fst = (named.map Prod.fst).eraseDups := by
  induction named using List.reverseRecOn with
  | nil => rfl
  | append_singleton front last ih =>
    have step : Table.ofList (front ++ [last]) = (Table.ofList front).insert last.1 last.2 :=
      Entries.overlay_append _ _ _ _
    have known : Entries.has (fun a b => decide (a = b)) last.1 (Table.ofList front) =
        decide (last.1 ∈ front.map Prod.fst) := by
      simp [Entries.has_eq_any_map_fst, ih, List.any_eq]
    rw [step, Table.insert, List.map_append, List.eraseDups_append, ← ih]
    by_cases mem : last.1 ∈ front.map Prod.fst
    · rw [Entries.map_fst_put_of_present (known.trans (decide_eq_true mem))]
      simp [List.removeAll, mem]
    · rw [Entries.put_of_absent (known.trans (decide_eq_false mem))]
      simp [List.removeAll, mem, List.eraseDups_cons]

/-- Of layers with distinct names, the last that has a name gives its value. -/
theorem get?_ofList_flatten {layers : List (Table α)}
    (distinct : ∀ layer ∈ layers, Entries.Distinct (fun a b => decide (a = b)) layer)
    (name : Text) :
    (Table.ofList layers.flatten).get? name = layers.reverse.findSome? (·.get? name) := by
  rw [get?, ofList, Entries.ofList, Entries.find?_overlay keyEquality_decide, Entries.find?_nil,
    Option.or_none]
  induction layers with
  | nil => rfl
  | cons layer layers ih =>
    obtain ⟨here, others⟩ := List.forall_mem_cons.1 distinct
    rw [List.flatten_cons, List.reverse_append, Entries.find?_append, ih others,
      List.reverse_cons, List.findSome?_append, Entries.find?_reverse keyEquality_decide here]
    simp [get?]

theorem overlay_append (t patch more : Table α) :
    t.overlay (patch ++ more) = (t.overlay patch).overlay more :=
  Entries.overlay_append _ t patch more

theorem ofList_append (entries more : List (Text × α)) :
    Table.ofList (entries ++ more) = (Table.ofList entries).overlay more :=
  overlay_append [] entries more

/-- A table as a mapping under texts. -/
def asMapping (t : Table Value) : Mapping := t.map fun (k, v) => (.str k, v)

theorem asMapping_overlay (t patch : Table Value) :
    (t.overlay patch).asMapping = t.asMapping.overlay patch.asMapping :=
  (Entries.overlay_map Value.sameKey_str t patch).symm

theorem text?_asMapping (t : Table Value) (name : Text) :
    t.asMapping.text? name = t.get? name := by
  rw [Mapping.text?, Mapping.get?, get?]
  induction t with
  | nil => rfl
  | cons entry rest ih =>
    rw [asMapping, List.map_cons, Entries.find?_cons, Entries.find?_cons, Value.sameKey_str, ← ih]
    rfl

theorem contains_asMapping {t : Table Value} {name : Text} :
    t.asMapping.contains (.str name) = true ↔ name ∈ t.map Prod.fst := by
  rw [Mapping.contains, asMapping, Entries.has_eq_any_map_fst]
  simp

theorem distinct_asMapping {t : Table Value} :
    Entries.Distinct Value.sameKey t.asMapping ↔
      Entries.Distinct (fun a b => decide (a = b)) t := by
  rw [Entries.Distinct, asMapping, List.pairwise_map]
  simp only [Value.sameKey_str]
  rfl

/-- A mapping under texts is read as it stands. -/
theorem checkProperties_asMapping (t : Table Value) :
    checkProperties (.map t.asMapping) = .ok (Table.ofList t) := by
  refine checkProperties_eq_ok_iff.2 ⟨t, ?_, rfl⟩
  rw [Mapping.ReadUnder, asMapping, List.forall₂_map_left_iff]
  exact List.forall₂_same.2 fun entry _ => ⟨checkText_eq_ok_iff.2 (.inl rfl), rfl⟩

end Table

/-- The texts among the keys of a mapping, in their order. -/
def Mapping.names (m : Mapping) : List Text :=
  m.filterMap fun entry =>
    match entry.1 with
    | .str name => some name
    | _ => none

theorem Table.names_asMapping (t : Table Value) : t.asMapping.names = t.map Prod.fst := by
  rw [Mapping.names, asMapping, List.filterMap_map]
  exact List.filterMap_eq_map.symm ▸ rfl

theorem Mapping.exists_eq_asMapping {m : Mapping} (texts : Schema.hasTextKeys m = true) :
    ∃ t : Table Value, m = t.asMapping := by
  rw [Schema.hasTextKeys_iff] at texts
  induction m with
  | nil => exact ⟨[], rfl⟩
  | cons entry rest ih =>
    obtain ⟨⟨name, text⟩, others⟩ := List.forall_mem_cons.1 texts
    obtain ⟨t, rfl⟩ := ih others
    refine ⟨(name, entry.2) :: t, ?_⟩
    rw [show entry = (.str name, entry.2) from Prod.ext text rfl]
    rfl

theorem Mapping.TextKeyed.exists_eq_asMapping {m : Mapping} (keyed : m.TextKeyed) :
    ∃ t : Table Value, m = t.asMapping ∧ Entries.Distinct (fun a b => decide (a = b)) t := by
  obtain ⟨t, rfl⟩ := Mapping.exists_eq_asMapping keyed.texts
  exact ⟨t, rfl, Table.distinct_asMapping.1 keyed.distinct⟩

/-! ## What the environment gives -/

namespace Environment

/-- The names that an environment can give properties, and whether it has the field that the
property is made of. -/
def sources (environment : Option Environment) : List (Text × Bool) :=
  [("$os", (environment.bind userAgent).isSome),
   ("$browser", (environment.bind userAgent).isSome),
   ("$browser_version", (environment.bind userAgent).isSome),
   ("$device", (environment.bind userAgent).isSome),
   ("$current_url", (environment.bind currentUrl).isSome),
   ("$referrer", (environment.bind referrer).isSome),
   ("$referring_domain", (environment.bind referrer).isSome),
   ("$screen_height", (environment.bind screenHeight).isSome),
   ("$screen_width", (environment.bind screenWidth).isSome)]

/-- The layer of the environment. -/
def layer (environment : Option Environment) : Mapping :=
  (defaultProperties environment).asMapping

/-- The defaults are the properties whose fields are there, and those of the library. -/
theorem map_fst_defaultProperties (environment : Option Environment) :
    (defaultProperties environment).map Prod.fst =
      ((sources environment).filter Prod.snd).map Prod.fst ++ libraryProperties.map Prod.fst := by
  rcases environment with _ | ⟨agent, vendor, opera, url, referrer, width, height⟩
  · rfl
  · cases agent <;> cases url <;> cases referrer <;> cases width <;> cases height <;> rfl

theorem distinct_defaultProperties (environment : Option Environment) :
    Entries.Distinct (fun a b => decide (a = b)) (defaultProperties environment) := by
  have names := (defaultProperties_sublist environment).nodup (by decide)
  rw [Entries.Distinct]
  exact (List.pairwise_map.1 names).imp fun apart => decide_eq_false apart

/-- A property that can be missing is there exactly if the field that it is made of is. -/
theorem contains_layer (environment : Option Environment) {source : Text × Bool}
    (mem : source ∈ sources environment) :
    (layer environment).contains (.str source.1) = source.2 := by
  have nodup : ((sources environment).map Prod.fst ++ libraryProperties.map Prod.fst).Nodup := by
    rw [show _ ++ _ = propertyNames from rfl]
    decide
  obtain ⟨apart, -, other⟩ := List.nodup_append.1 nodup
  have name : source.1 ∉ libraryProperties.map Prod.fst := fun inLibrary =>
    other _ (List.mem_map_of_mem mem) _ inLibrary rfl
  rw [Bool.eq_iff_iff, layer, Table.contains_asMapping, map_fst_defaultProperties,
    List.mem_append, or_iff_left name]
  constructor
  · intro named
    obtain ⟨here, kept, same⟩ := List.mem_map.1 named
    obtain ⟨listed, given⟩ := List.mem_filter.1 kept
    rwa [← List.inj_on_of_nodup_map apart listed mem same]
  · intro given
    exact List.mem_map_of_mem (List.mem_filter.2 ⟨mem, given⟩)

end Environment

/-! ## The merged layers -/

namespace Store

variable {s : Store} {time : Double} {clock : Clock}

/-- The layers of an event, from the first to the last. A caller may give none. -/
def layers (s : Store) (token : Text) (environment : Option Environment)
    (caller : Option Mapping) (time : Double) : List Mapping :=
  [Environment.layer environment, s.props, caller.getD [],
    lastLayer token s.distinctId time s.ids.insert.1]

/-- What a caller gives, as an argument. -/
def givenBy (caller : Option Mapping) : Value := (caller.map Value.map).getD .null

theorem lowerLayers_givenBy (s : Store) (environment : Option Environment)
    (caller : Option Mapping) :
    s.lowerLayers environment (givenBy caller) =
      (((Environment.layer environment).overlay s.props).overlay (caller.getD []), none) := by
  rcases caller with _ | _ | _ <;> rfl

/-- The last layer as a table. -/
def lastTable (token distinctId : Text) (time : Double) (insertId : String) : Table Value :=
  [("token", .str token), ("distinct_id", .str distinctId), ("time", .float time),
   ("$insert_id", .str insertId)]

/-- An event is what the tables that its layers are put one after another come to. -/
theorem compose_eq_of_tables {bag given : Table Value} {caller : Option Mapping}
    (props : s.props = bag.asMapping) (own : caller.getD [] = given.asMapping)
    (read : s.clock.read = (.ok time, clock)) (token : Text)
    (environment : Option Environment) (event : Text) :
    s.compose token environment (.str event) (givenBy caller) =
      ({ s with clock, ids := s.ids.insert.2 },
        .ok ⟨event, Table.ofList [Environment.defaultProperties environment, bag, given,
          lastTable token s.distinctId time s.ids.insert.1].flatten⟩) := by
  have merged := compose_of_layers (lowerLayers_givenBy s environment caller) read token (.str event)
  let defaults := Environment.defaultProperties environment
  let last := lastTable token s.distinctId time s.ids.insert.1
  let table := ((defaults.overlay bag).overlay given).overlay last
  have distinct : Entries.Distinct (fun a b => decide (a = b)) defaults :=
    Environment.distinct_defaultProperties environment
  have mapping : (((Environment.layer environment).overlay s.props).overlay
      (caller.getD [])).overlay (lastLayer token s.distinctId time s.ids.insert.1) =
        table.asMapping := by
    rw [props, own, Table.asMapping_overlay, Table.asMapping_overlay, Table.asMapping_overlay]
    rfl
  have whole : table = Table.ofList [defaults, bag, given, last].flatten := by
    have first : Table.ofList defaults = defaults := Entries.ofList_of_distinct distinct
    simp only [List.flatten_cons, List.flatten_nil, List.append_nil]
    rw [Table.ofList_append, Table.overlay_append, Table.overlay_append, first]
  have valid : Event.ofValues (.str event) table.asMapping = .ok ⟨event, table⟩ := by
    have stands : Table.ofList table = table := Entries.ofList_of_distinct
      (Entries.distinct_overlay (Entries.distinct_overlay (Entries.distinct_overlay distinct _) _) _)
    refine Event.ofValues_eq_ok_iff.2 ⟨checkText_eq_ok_iff.2 (.inl rfl), ?_⟩
    rw [Table.checkProperties_asMapping, stands]
  rw [merged, mapping, valid, whole]
  rfl

/-- Composing an event merges its layers. Whatever the environment is, and whether the caller gives
a mapping under texts or nothing, an event is returned: its names are those of the layers in the
order in which they first come, and each name has the value of the last layer that has it. The call
takes one reading of the clock and draws one id, and changes nothing else. Of the properties that
the environment can lack, its layer has those whose fields are there. -/
theorem compose_merges_layers {s : Store} (bag : s.props.TextKeyed) {caller : Option Mapping}
    (keyed : ∀ entries ∈ caller, Mapping.TextKeyed entries) {time : Double} {clock : Clock}
    (read : s.clock.read = (.ok time, clock)) (token : Text) (environment : Option Environment)
    (event : Text) :
    (∃ properties : Table Value,
      s.compose token environment (.str event) (givenBy caller) =
          ({ s with clock, ids := s.ids.insert.2 }, .ok ⟨event, properties⟩) ∧
        properties.map Prod.fst =
          ((s.layers token environment caller time).flatMap Mapping.names).eraseDups ∧
        ∀ name, properties.get? name =
          (s.layers token environment caller time).reverse.findSome? (·.text? name)) ∧
      ∀ source ∈ Environment.sources environment,
        (Environment.layer environment).contains (.str source.1) = source.2 := by
  obtain ⟨bagTable, props, bagApart⟩ := bag.exists_eq_asMapping
  have given : (caller.getD []).TextKeyed := by
    cases caller with
    | none => exact .empty
    | some entries => exact keyed entries rfl
  obtain ⟨given, own, ownApart⟩ := given.exists_eq_asMapping
  let tables : List (Table Value) := [Environment.defaultProperties environment, bagTable, given,
    lastTable token s.distinctId time s.ids.insert.1]
  have layers : s.layers token environment caller time = tables.map Table.asMapping := by
    rw [Store.layers, props, own]
    rfl
  refine ⟨⟨_, compose_eq_of_tables props own read token environment event, ?_, fun name => ?_⟩,
    fun source mem => Environment.contains_layer environment mem⟩
  · rw [layers, Table.map_fst_ofList, List.flatMap_map, List.map_flatten]
    simp only [Table.names_asMapping]
    rfl
  · have apart : ∀ table ∈ tables, Entries.Distinct (fun a b => decide (a = b)) table := by
      simp only [tables, List.forall_mem_cons]
      refine ⟨Environment.distinct_defaultProperties environment, bagApart, ownApart, ?_, by simp⟩
      simp [lastTable, Entries.Distinct]
    rw [layers, ← List.map_reverse, List.findSome?_map, Table.get?_ofList_flatten apart]
    simp only [Function.comp_def, Table.text?_asMapping]

/-- A null in the bag stands where the environment's empty referrer stood, the caller's null where
the bag's plan stood, and the time of the call where the bag's time stood. -/
theorem compose_merges_layers_overlapping :
    let s := ofNewDevice.registerEntries
      [("$referrer", .null), ("plan", .str "free"), ("time", .str "noon")]
    let host : Environment := ⟨none, "", false, none, some "", some 0, none⟩
    s.props.TextKeyed ∧ ∃ s' e,
      s.compose "T" (some host) (.str "E") (givenBy (some [(.str "plan", .null)])) = (s', .ok e) ∧
        e.properties.map Prod.fst =
          ["$referrer", "$referring_domain", "$screen_width", "mp_lib", "$lib_version",
            "distinct_id", "$device_id", "plan", "time", "token", "$insert_id"] ∧
        e.properties.get? "$referrer" = some .null ∧
        e.properties.get? "$screen_width" = some (.int 0) ∧
        e.properties.get? "plan" = some .null ∧
        e.properties.get? "time" = (s.clock.read.1.toOption.map Value.float) ∧
        (Environment.layer (some host)).contains (.str "$os") = false := by
  have bag := keyed_registerEntries (keyed_ensureIdentity (keyed_openNew
    ⟨⟨.memory [] [] 0, ⟨[]⟩, []⟩, ⟨.succ, 0, []⟩, .ticking 0⟩ (.str "mon_T") false))
    [("$referrer", .null), ("plan", .str "free"), ("time", .str "noon")]
  have keyed : ∀ entries ∈ some [(Value.str "plan", Value.null)], Mapping.TextKeyed entries := by
    rintro _ ⟨⟩
    exact ⟨rfl, List.pairwise_singleton _ _⟩
  obtain ⟨⟨properties, composed, names, values⟩, known⟩ := compose_merges_layers bag keyed rfl "T"
    (some ⟨none, "", false, none, some "", some 0, none⟩) "E"
  exact ⟨bag, _, _, composed, names.trans rfl, (values _).trans rfl,
    (values _).trans rfl, (values _).trans rfl, (values _).trans rfl, known ("$os", false) (by decide)⟩

end Store

end EventTracker
