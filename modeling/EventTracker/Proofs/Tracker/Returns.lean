import EventTracker.Proofs.Storage.Memory
import EventTracker.Proofs.Tracker.Amounts
import EventTracker.Proofs.Tracker.Bags
import EventTracker.Proofs.Tracker.Clock
import EventTracker.Proofs.Wire.Depth

/-!
# Calls that return

Calls whose arguments have the types that the calls take, and are not nested too deeply,
return: what else may be wrong with them is told to their callbacks. Only charges can fail
(`ClientCall.Defect`). They read a time that they cannot write, or show an amount that
cannot be shown, before anything looks after failures.
-/

namespace EventTracker

/-! ## What calls take -/

/-- Whether a call gets the types that it takes. Any value will do as an amount and as the value of
a property. -/
def ClientCall.Typed : ClientCall → Prop
  | .track event properties _ => (∃ name, event = .str name) ∧ (givenProperties properties).TextKeyed
  | .identify id _ => ∃ user, id = .str user ∧ user ≠ ""
  | .set prop _ _ | .setOnce prop _ _ | .increment prop _ _ =>
    (∃ name, prop = .str name) ∨ ∃ entries, prop = .map entries ∧ prop.TextKeyed
  | .unset prop _ =>
    (∃ name, prop = .str name) ∨
      ∃ names : List Text, prop = .list (names.map .str) ∨ prop = .tuple (names.map .str)
  | .charge _ properties _ => (givenProperties properties).TextKeyed

/-- Whether what a call gets can stand where it would stand in the payload, and whether amounts that
are shown are not nested too deeply for that. -/
def ClientCall.Fits : ClientCall → Prop
  | .track _ properties _ => properties.FitsBelow 1
  | .identify _ _ | .unset _ _ => True
  | .set prop value _ | .setOnce prop value _ => prop.FitsBelow 1 ∧ ∀ v ∈ value, v.FitsBelow 2
  | .increment prop amount _ => prop.FitsBelow 1 ∧ amount.FitsBelow 2
  | .charge amount properties _ =>
    amount.shown ≠ .error .tooDeep ∧ properties.FitsBelow 2

/-- The time that the properties of a charge give. -/
def chargedAt? : Value → Option Value
  | .map entries => (Mapping.ofList entries).text? "$time"
  | _ => none

/-- The time of a charge cannot be written in universal time. -/
def ChargeUnstamped (properties : Value) (fault : Fault) : Prop :=
  ∃ moment error, chargedAt? properties = some (.datetime moment) ∧
    moment.utcStamp = .error error ∧ fault = stampFault error

/-- The amount of a charge is no number, and cannot be shown. -/
def ChargeUnshown (amount : Value) (fault : Fault) : Prop :=
  ∃ kind, amount.shown = .error kind ∧ fault = .misuse kind

/-- How a call fails. -/
def ClientCall.Defect (t : Tracker) (fault : Fault) : ClientCall → Prop
  | .charge amount properties _ =>
    t.distinctId ≠ "" ∧
      match amountOf amount with
      | .ok (some _) => ChargeUnstamped (givenProperties properties) fault
      | _ => ChargeUnshown amount fault
  | _ => False

/-! ## Requests -/

/-- What comes to a result. -/
def Returns {α : Type} (result : World × Except Fault α) : Prop := ∃ a, result.2 = .ok a

variable {w : World} {t : Tracker}

theorem returns_submit {payload : Value} (fits : payload.FitsBelow 0) (endpoint : Endpoint)
    (callback : Value) : Returns (w.submit t endpoint payload callback) := by
  have cut : truncated maxTextLength payload = .ok (truncate maxTextLength payload) :=
    if_pos fits
  unfold World.submit
  rw [cut]
  simp only
  split
  · exact ⟨_, rfl⟩
  · split <;> exact ⟨_, rfl⟩

theorem returns_settled {attempt : World × Except Fault (Except TrackerError Nat)}
    (returns : Returns attempt) (listener : Value) : Returns (settled listener attempt) := by
  obtain ⟨result, same⟩ := returns
  obtain ⟨w, _⟩ := attempt
  subst same
  exact ⟨_, rfl⟩

theorem returns_withDistinctId (method : String) (callback : Value) {go : Text → World.Sent}
    (going : ∀ id, Returns (go id)) : Returns (w.withDistinctId t method callback go) := by
  unfold World.withDistinctId
  simp only
  split
  · exact ⟨_, rfl⟩
  · exact going _

/-! ## Profiles -/

theorem returns_mutate {operand : Value} (fits : operand.FitsBelow 1) (method : String)
    (callback : Value) (operation : Field) :
    Returns (w.mutate t method callback operation operand) := by
  refine returns_withDistinctId method callback fun id => ?_
  simp only
  split
  · exact ⟨_, rfl⟩
  case h_2 mutation checked =>
    refine returns_settled (returns_submit ?_ .engage callback) callback
    rw [Value.FitsBelow, ProfileMutation.depth_wire]
    refine Nat.add_le_add_right (m := maxCutDepth - 1)
      (ProfileMutation.depth_operand_le ?_ checked) 1
    simp only [List.forall_mem_cons]
    exact ⟨Nat.zero_le _, Nat.zero_le _, Nat.le_sub_of_add_le fits, List.forall_mem_nil _⟩

theorem fitsBelow_singleton {name : Text} {v : Value} {levels : Nat} (room : levels < maxCutDepth)
    (fits : v.FitsBelow (levels + 1)) : (Value.map [(.str name, v)]).FitsBelow levels :=
  (Value.fitsBelow_map_iff room).2 (List.forall_mem_singleton.2 fits)

theorem returns_withProperties {prop : Value} {value : Option Value} (method : String)
    (callback : Value) {go : (properties callback : Value) → World.Sent}
    (typed : (∃ name, prop = .str name) ∨ ∃ entries, prop = .map entries ∧ prop.TextKeyed)
    (fits : prop.FitsBelow 1 ∧ ∀ v ∈ value, v.FitsBelow 2)
    (going : ∀ properties listener, properties.FitsBelow 1 → Returns (go properties listener)) :
    Returns (w.withProperties method prop value callback go) := by
  obtain ⟨name, rfl⟩ | ⟨entries, rfl, -⟩ := typed
  · cases value with
    | none => exact ⟨_, rfl⟩
    | some v => exact going _ _ (fitsBelow_singleton (by decide) (fits.2 v rfl))
  · unfold World.withProperties
    cases value with
    | none => exact going _ _ fits.1
    | some v =>
      simp only
      split
      · exact going _ _ fits.1
      · exact ⟨_, rfl⟩

theorem fitsBelow_texts (names : List Text) : (Value.list (names.map .str)).FitsBelow 1 := by
  have flat : Value.itemsDepth (names.map .str) ≤ 0 :=
    Value.itemsDepth_le_iff.2 (List.forall_mem_map.2 fun _ _ => Nat.le_refl 0)
  rw [Value.FitsBelow, Value.depth, Nat.le_zero.1 flat]
  decide

theorem returns_unsetProfile {prop : Value} (callback : Value)
    (typed : (ClientCall.unset prop callback).Typed) : Returns (w.unsetProfile t prop callback) := by
  obtain ⟨name, rfl⟩ | ⟨names, rfl | rfl⟩ := typed
  · exact returns_mutate (fitsBelow_texts [name]) "unset" callback _
  · exact returns_mutate (fitsBelow_texts names) "unset" callback _
  · exact returns_mutate (fitsBelow_texts names) "unset" callback _

theorem returns_incrementProfile {prop amount : Value} (callback : Value)
    (typed : (ClientCall.increment prop amount callback).Typed)
    (fits : (ClientCall.increment prop amount callback).Fits) :
    Returns (w.incrementProfile t prop amount callback) := by
  obtain ⟨name, rfl⟩ | ⟨entries, rfl, -⟩ := typed
  · have one : (Value.int 1).FitsBelow 2 := show 0 + 2 ≤ maxCutDepth by decide
    unfold World.incrementProfile
    simp only [World.singleProperty]
    refine returns_mutate (fitsBelow_singleton (by decide) ?_) _ _ _
    split
    · exact one
    · exact one
    · exact fits.2
  · unfold World.incrementProfile
    simp only
    split
    · exact returns_mutate fits.1 _ _ _
    · exact returns_mutate fits.1 _ _ _
    · exact ⟨_, rfl⟩

/-! ## Charges -/

/-- The entries that the properties of a charge give. -/
def chargedEntries : Value → Mapping
  | .map entries => Mapping.ofList entries
  | _ => []

theorem chargedAt?_eq (properties : Value) :
    chargedAt? properties = (chargedEntries properties).text? "$time" := by
  cases properties <;> rfl

/-- The properties of a charge under texts can be taken. -/
theorem taken_eq {properties : Value} (texts : properties.TextKeyed) :
    (if properties.truthy then Mapping.ofValue properties else .ok []) =
      .ok (chargedEntries properties) := by
  cases properties with
  | null => rfl
  | map entries => cases entries <;> rfl
  | _ => cases texts

theorem fitsBelow_chargedEntries {properties : Value} (fits : properties.FitsBelow 2) :
    ∀ entry ∈ chargedEntries properties, entry.2.FitsBelow 3 := by
  cases properties with
  | map entries =>
    rw [Value.fitsBelow_map_iff (by decide)] at fits
    exact Entries.forall_value_overlay (List.forall_mem_nil _) fits
  | _ => exact List.forall_mem_nil _

/-- The entries of a charge with its amount. -/
def chargeOf (properties : Value) (number : Number) : Mapping :=
  (chargedEntries properties).insert (.str "$amount") number.value

theorem text?_chargeOf (properties : Value) (number : Number) :
    (chargeOf properties number).text? "$time" = chargedAt? properties :=
  (Mapping.get?_insert_text _ _ _ _).trans (chargedAt?_eq properties).symm

/-- What a charge comes to: its entries, with the time as a stamp. -/
theorem transaction_eq {properties : Value} (texts : properties.TextKeyed) (number : Number) :
    World.transaction properties number =
      match chargedAt? properties with
      | some (.datetime moment) => (moment.utcStamp.mapError stampFault).map fun stamp =>
          (chargeOf properties number).insert (.str "$time") (.str (String.ofList stamp))
      | _ => .ok (chargeOf properties number) := by
  rw [← text?_chargeOf properties number, World.transaction, taken_eq texts]
  rfl

/-- A charge under texts fails if its time has no stamp. -/
theorem transaction_error_iff {properties : Value} (texts : properties.TextKeyed) (number : Number)
    {fault : Fault} :
    World.transaction properties number = .error fault ↔ ChargeUnstamped properties fault := by
  rw [transaction_eq texts, ChargeUnstamped]
  split
  case h_1 moment timed =>
    simp only [timed]
    cases stamped : moment.utcStamp <;> simp [Except.mapError, Except.map, stamped, eq_comm]
  case h_2 untimed =>
    refine ⟨nofun, ?_⟩
    rintro ⟨moment, -, timed, -⟩
    exact absurd timed (untimed moment)

/-- A charge has room below its list of transactions. -/
theorem fitsBelow_of_transaction {properties : Value} (texts : properties.TextKeyed)
    (fits : properties.FitsBelow 2) {number : Number} {entries : Mapping}
    (made : World.transaction properties number = .ok entries) :
    (Value.map entries).FitsBelow 2 := by
  have amount : number.value.FitsBelow 3 := by
    cases number <;> exact (show 0 + 3 ≤ maxCutDepth by decide)
  rw [Value.fitsBelow_map_iff (by decide)]
  refine forall_of_transaction made (fun table taken => ?_) amount fun _ =>
    show 0 + 3 ≤ maxCutDepth by decide
  obtain rfl := Except.ok.inj (taken.symm.trans (taken_eq texts))
  exact fitsBelow_chargedEntries fits

theorem fitsBelow_givenProperties {properties : Value} {levels : Nat}
    (fits : properties.FitsBelow levels) : (givenProperties properties).FitsBelow levels := by
  unfold givenProperties
  cases properties <;> exact fits

/-- A charge fails by its defects, and by them alone. -/
theorem trackCharge_error_iff {amount properties callback : Value}
    (typed : (ClientCall.charge amount properties callback).Typed)
    (fits : (ClientCall.charge amount properties callback).Fits) {fault : Fault} :
    (w.trackCharge t amount properties callback).2 = .error fault ↔
      (ClientCall.charge amount properties callback).Defect t fault := by
  obtain ⟨shallow, fits⟩ := fits
  have fits := fitsBelow_givenProperties fits
  unfold World.trackCharge World.withDistinctId ClientCall.Defect
  rw [arguments_eq, Store.distinctId_of_props (s := w.store t) rfl]
  simp only
  split
  case isTrue unknown => exact ⟨nofun, fun defect => absurd unknown defect.1⟩
  case isFalse known =>
    rw [and_iff_right known]
    cases counted : amountOf amount with
    | error kind => exact absurd counted (amountOf_ne_error shallow kind)
    | ok number =>
      cases number with
      | none =>
        simp only [ChargeUnshown]
        cases amount.shown with
        | ok shown => simp [World.refuse]
        | error kind => simp [eq_comm]
      | some number =>
        simp only [← transaction_error_iff typed number]
        cases made : World.transaction (givenProperties properties) number with
        | error fault => simp
        | ok entries =>
          have room : (Value.map [(.str "$transactions", .map entries)]).FitsBelow 1 :=
            fitsBelow_singleton (by decide) (fitsBelow_of_transaction typed fits made)
          obtain ⟨n, returned⟩ := returns_mutate (w := w) (t := t) room "track_charge"
            (if properties.callable then properties else callback) ProfileMutation.appendField
          simp [returned]

/-! ## Events -/

/-- Layers that a caller gives under texts can be merged, and have room in an event. -/
theorem exists_lowerLayers {s : Store} (bag : (Value.map s.props).FitsBelow 1) {given : Value}
    (texts : given.TextKeyed) (fits : given.FitsBelow 1) (environment : Option Environment) :
    ∃ lower, s.lowerLayers environment given = (lower, none) ∧
      ∀ entry ∈ lower, entry.2.depth ≤ maxCutDepth - 2 := by
  have room : 1 < maxCutDepth := by decide
  have bound {m : Mapping} (fits : (Value.map m).FitsBelow 1) :
      ∀ entry ∈ m, entry.2.depth ≤ maxCutDepth - 2 := fun entry mem =>
    Nat.le_sub_of_add_le ((Value.fitsBelow_map_iff room).1 fits entry mem)
  have layers {entries : Mapping} (fits : (Value.map entries).FitsBelow 1) :
      ∃ lower, s.lowerLayers environment (.map entries) = (lower, none) ∧
        ∀ entry ∈ lower, entry.2.depth ≤ maxCutDepth - 2 :=
    ⟨_, by cases entries <;> rfl, Store.forall_lowerLayers (bound bag) (bound fits)⟩
  cases given with
  | null =>
    have none : (Value.map []).FitsBelow 1 := show 0 + 1 + 1 ≤ maxCutDepth by decide
    exact layers none
  | map entries => exact layers fits
  | _ => cases texts

theorem returns_attemptTrack (readable : w.clock.Readable) (bag : (Value.map t.props).FitsBelow 1)
    {given : Value} (texts : given.TextKeyed) (fits : given.FitsBelow 1) (name : Text)
    (callback : Value) : Returns (w.attemptTrack t (.str name) given callback) := by
  obtain ⟨time, clock, read, -⟩ := readable.exists_read
  obtain ⟨lower, layers, flat⟩ := exists_lowerLayers (s := w.store t) bag texts fits t.environment
  have composed := Store.compose_of_layers layers read t.token (.str name)
  unfold World.attemptTrack
  rw [composed]
  cases valid : Event.ofValues (.str name) _ with
  | error report => exact ⟨_, rfl⟩
  | ok e =>
    refine returns_submit ?_ .track callback
    have last : ∀ entry ∈ Store.lastLayer t.token (w.store t).distinctId time
        (w.store t).ids.insert.1, entry.2.depth ≤ maxCutDepth - 2 := by
      simp [Store.lastLayer, Value.depth]
    exact Event.depth_wire_le (n := maxCutDepth - 2)
      (Entries.forall_value_overlay (Q := fun v : Value => v.depth ≤ maxCutDepth - 2) flat last) valid

theorem returns_track (readable : w.clock.Readable) (bag : (Value.map t.props).FitsBelow 1)
    {event properties callback : Value} (typed : (ClientCall.track event properties callback).Typed)
    (fits : properties.FitsBelow 1) : Returns (w.track t event properties callback) := by
  obtain ⟨⟨name, rfl⟩, texts⟩ := typed
  unfold World.track
  rw [arguments_eq]
  exact returns_settled (returns_attemptTrack readable bag texts (fitsBelow_givenProperties fits) name _) _

theorem returns_identify (readable : w.clock.Readable) (bag : (Value.map t.props).FitsBelow 1)
    {id callback : Value} (typed : (ClientCall.identify id callback).Typed) :
    Returns (w.identify t id callback) := by
  obtain ⟨user, rfl, nonempty⟩ := typed
  have clock := (w.store t).identify_clock (.str user)
  have bag := ((Action.request (.identify (.str user) callback)).changes_onStore
    (w.store t)).fitsBelow bag trivial
  rw [Action.onStore] at bag
  unfold World.identify
  rw [Store.identify_of_nonempty _ nonempty] at clock bag ⊢
  refine returns_track (w := w.withStore t _) (clock.symm ▸ readable) bag ⟨⟨_, rfl⟩, rfl⟩ ?_
  exact (show 0 + 1 + 1 ≤ maxCutDepth by decide)

/-! ## Calls and actions -/

/-- A call that gets what it takes fails by its defects, and by them alone. -/
theorem perform_error_iff (readable : w.clock.Readable) (bag : (Value.map t.props).FitsBelow 1)
    {call : ClientCall} (typed : call.Typed) (fits : call.Fits) {fault : Fault} :
    (call.perform w t).2 = .error fault ↔ call.Defect t fault := by
  have sound {result : World.Sent} (returns : Returns result) : result.2 = .error fault ↔ False := by
    obtain ⟨n, returned⟩ := returns
    simp [returned]
  cases call with
  | track event properties callback => exact sound (returns_track readable bag typed fits)
  | identify id callback => exact sound (returns_identify readable bag typed)
  | set prop value callback =>
    exact sound (returns_withProperties "set" callback typed fits fun properties listener fits =>
      returns_mutate fits "set" listener ProfileMutation.setField)
  | setOnce prop value callback =>
    exact sound (returns_withProperties "set_once" callback typed fits fun properties listener fits =>
      returns_mutate fits "set_once" listener ProfileMutation.setOnceField)
  | unset prop callback => exact sound (returns_unsetProfile callback typed)
  | increment prop amount callback => exact sound (returns_incrementProfile callback typed fits)
  | charge amount properties callback => exact trackCharge_error_iff typed fits

namespace Action

/-- Whether an action gets the types that it takes. -/
def Typed : Action → Prop
  | .request call => call.Typed
  | .register patch | .registerOnce patch => ∃ entries, patch = .map entries ∧ patch.TextKeyed
  | .unregister key | .property key => ∃ name, key = .str name
  | .reset | .distinctId | .flush => True
  | .configure _ _ => False

/-- Whether what an action gets for a request is not nested too deeply for it. -/
def Fits : Action → Prop
  | .request call => call.Fits
  | _ => True

/-- How an action fails. -/
def Defect (t : Tracker) (fault : Fault) : Action → Prop
  | .request call => call.Defect t fault
  | _ => False

end Action

namespace Store

variable {s : Store} {entries : Mapping}

theorem registerSuper_of_texts (texts : Schema.hasTextKeys entries = true) :
    (s.registerSuper (.map entries)).2 = .ok () := by
  obtain ⟨warned, -, kept⟩ := s.exists_withoutReserved_eq (hashable_of_texts texts)
  rw [registerSuper, kept]
  rfl

theorem registerSuperOnce_of_texts (texts : Schema.hasTextKeys entries = true) :
    (s.registerSuperOnce (.map entries)).2 = .ok () := by
  obtain ⟨warned, -, kept⟩ := s.exists_withoutReserved_eq (hashable_of_texts texts)
  rw [registerSuperOnce, kept]
  rcases warned.registerOnce_cases (entries.filter fun entry => !isReserved entry.1) with
    nothing | saved
  · simp only [nothing]
  · simp only [saved]

theorem unregisterSuper_of_text (name : Text) : (s.unregisterSuper (.str name)).2 = .ok () := by
  rw [unregisterSuper]
  split
  · rfl
  · have hashable : (Value.str name).hashable = true := rfl
    simp only [unregister, Mapping.discard, hashable, Bool.or_true, if_true]

end Store

/-- An action that gets what it takes fails by its defects, and by them alone. -/
theorem action_error_iff (readable : w.clock.Readable) (bag : (Value.map t.props).FitsBelow 1)
    {action : Action} (typed : action.Typed) (fits : action.Fits) {fault : Fault} :
    (action.perform w t).2 = .error fault ↔ action.Defect t fault := by
  cases action with
  | request call =>
    rw [Action.Defect, ← perform_error_iff readable bag typed fits, Action.perform,
      Action.perform.answer]
    cases (call.perform w t).2 <;> simp [Except.map]
  | register patch =>
    obtain ⟨entries, rfl, texts⟩ := typed
    have done := Store.registerSuper_of_texts (s := w.store t) texts
    simp [Action.perform, Action.perform.answer, World.onStore, done, Except.map, Action.Defect]
  | registerOnce patch =>
    obtain ⟨entries, rfl, texts⟩ := typed
    have done := Store.registerSuperOnce_of_texts (s := w.store t) texts
    simp [Action.perform, Action.perform.answer, World.onStore, done, Except.map, Action.Defect]
  | unregister key =>
    obtain ⟨name, rfl⟩ := typed
    have done := Store.unregisterSuper_of_text (s := w.store t) name
    simp [Action.perform, Action.perform.answer, World.onStore, done, Except.map, Action.Defect]
  | property key =>
    obtain ⟨name, rfl⟩ := typed
    exact iff_of_false (fun failed => by cases failed) id
  | reset | distinctId | flush => exact iff_of_false (fun failed => by cases failed) id
  | configure patch more => cases typed

/-- What a request that returned has told: nothing yet if a task carries it, else of one failure. -/
def ToldOf (call : ClientCall) (before : List (String × Outcome)) :
    World × Except Fault Answer → Prop
  | (w, .ok (.task (some _))) => w.deliveries = before
  | (w, .ok (.task none)) =>
    ∃ error : TrackerError, error.IsRefusal ∧
      w.deliveries = before ++ heard call.listener (.failed error)
  | _ => True

theorem toldOf_perform (serves : w.Serves t) (call : ClientCall) :
    ToldOf call w.deliveries ((Action.request call).perform w t) := by
  have returned := returned_perform serves.alone call
  rw [Action.perform, Action.perform.answer]
  cases performed : call.perform w t with
  | mk w' result =>
    rw [performed] at returned
    cases result with
    | error fault => trivial
    | ok number =>
      cases number with
      | some n =>
        obtain ⟨-, task, -, effect⟩ := returned
        exact effect.deliveries.trans (List.append_nil _)
      | none =>
        obtain ⟨error, tasks, refusal, -, effect⟩ := returned
        exact ⟨error, refusal, effect.deliveries⟩

/-- Calls that get what they take fail by the two defects of charges, and by them alone. All else
that can be wrong with a call is told to its callback once, before the call returns. -/
theorem calls_fail_by_defects_alone {w' : World} {token : Value} {config : Config}
    {environment : Option Environment} {connection : Connection} {shared : Bool}
    (alone : w.trackers = []) (idle : w.queue = []) (readable : w.clock.Readable)
    (opened : w.openTracker token config environment connection shared = (w', .ok ()))
    (loaded : ∀ t, w'.current? = some t → (Value.map t.props).FitsBelow 1)
    (before : List TrackerStep) (run : ∀ step ∈ before, step.action.RegistersFitting)
    (step : TrackerStep) (typed : step.action.Typed) (fits : step.action.Fits) :
    let start := w'.run before
    let taken := start.take step
    ∃ t, start.current? = some t ∧
      (∀ fault, taken.2 = .error fault ↔ step.action.Defect t fault) ∧
      ∀ call, step.action = .request call → ToldOf call start.deliveries taken := by
  intro start taken
  obtain ⟨t₀, serves, -⟩ := exists_serves_openTracker alone idle opened
  obtain ⟨t, serves, bag⟩ := exists_bag_run (P := fun props => (Value.map props).FitsBelow 1) serves
    (loaded t₀ serves.current)
    (fun s action bag fitting => (action.changes_onStore s).fitsBelow bag fitting) run
  have here : ({ start with looping := step.looping } : World).Serves t :=
    ⟨serves.alone, serves.owners, serves.connected⟩
  have same : taken = _ := World.take_eq serves step
  refine ⟨t, serves.current, fun fault => ?_, fun call asked => ?_⟩
  · rw [same]
    exact action_error_iff (w := { start with looping := step.looping })
      (readable_run (readable_openTracker readable opened) before) bag typed fits
  · rw [same, asked]
    exact toldOf_perform here call

/-- A charge of what is no amount is told so, and returns. -/
theorem calls_fail_by_defects_alone_no_amount :
    let opened := (World.fresh ⟨.memory [] [] 0, ⟨[]⟩, []⟩ []).openTracker (.str "T") .standard none
      .direct true
    let charge : ClientCall := .charge (.str "abc") .null (.callback ⟨"A", .settle, 0⟩)
    let taken := opened.1.take ⟨true, .request charge⟩
    (∀ fault, taken.2 ≠ .error fault) ∧
      ∃ error : TrackerError, error.IsRefusal ∧ taken.1.deliveries = [("A", .failed error)] := by
  intro opened charge taken
  have given : opened = (opened.1, .ok ()) := rfl
  have loaded : ∀ t, opened.1.current? = some t → (Value.map t.props).FitsBelow 1 := by
    rintro t ⟨⟩
    exact (show 0 + 1 + 1 ≤ maxCutDepth by decide)
  have fits : charge.Fits := ⟨nofun, show 0 + 2 ≤ maxCutDepth by decide⟩
  have readable : Clock.Readable (.ticking 0) := trivial
  obtain ⟨t, current, defects, told⟩ := calls_fail_by_defects_alone rfl rfl readable given loaded []
    (List.forall_mem_nil _) ⟨true, .request charge⟩ trivial fits
  have returned : taken.2 = .ok (.task none) := rfl
  have told : ToldOf charge [] (taken.1, taken.2) := told charge rfl
  rw [returned] at told
  refine ⟨fun fault failed => ?_, told⟩
  cases returned.symm.trans failed

/-- A charge of the right types fails if its time lies before the first year of universal time. -/
theorem charge_fails_before_first_year :
    let opened := (World.fresh ⟨.memory [] [] 0, ⟨[]⟩, []⟩ []).openTracker (.str "T") .standard none
      .direct true
    let moment : DateTime := ⟨⟨0, by decide⟩, some ⟨18000000000, by decide⟩⟩
    let charge : ClientCall := .charge (.int 1) (.map [(.str "$time", .datetime moment)])
      (.callback ⟨"A", .settle, 0⟩)
    let taken := opened.1.take ⟨true, .request charge⟩
    charge.Typed ∧ charge.Fits ∧ taken.2 = .error .outOfRange ∧ taken.1.deliveries = [] := by
  have shallow : (Value.int 1).shown ≠ .error .tooDeep := by
    rw [Value.shown, Value.spelled]
    cases limitedIntegerText? 1 <;> nofun
  exact ⟨rfl, ⟨shallow, show 0 + 1 + 2 ≤ maxCutDepth by decide⟩, rfl, rfl⟩

end EventTracker
