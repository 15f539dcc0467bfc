import EventTracker.Proofs.Store.Layers
import EventTracker.Proofs.Store.Resumption
import EventTracker.Proofs.Tracker.Bags
import EventTracker.Proofs.Tracker.Clock

/-!
# The chain of users

Identifying a user sends an event that links the user to the distinct id before: to the
user of the link before it, or to the device after a reset or a fresh start. No
super-property has a say in it.
-/

namespace EventTracker

/-! ## Links -/

/-- An event that links a user to an earlier distinct id. -/
structure Event.Links (e : Event) (earlier user : Text) : Prop where
  name : e.name = "$identify"
  user : e.properties.get? "distinct_id" = some (.str user)
  earlier : e.properties.get? "$anon_distinct_id" = some (.str earlier)

/-- A request that carries such an event; the texts in its body are cut. -/
def Task.Links (task : Task) (earlier user : Text) : Prop :=
  ∃ payload properties : Mapping, payloadOf? task.body = some (.map payload) ∧
    payload.text? "event" = some (.str "$identify") ∧
    payload.text? "properties" = some (.map properties) ∧
    properties.text? "distinct_id" = some (.str (firstCharacters user)) ∧
    properties.text? "$anon_distinct_id" = some (.str (firstCharacters earlier))

theorem Event.Links.sent {e : Event} {earlier user : Text} (links : e.Links earlier user)
    (distinct : Entries.Distinct (fun a b => decide (a = b)) e.properties) {task : Task}
    (encoded : encodeBody (truncate maxTextLength e.wire.toValue) = .ok task.body) :
    task.Links earlier user := by
  have proper := isProper_of_encodeBody encoded
  have inner : (truncate maxTextLength e.properties.toValue).isProper = true :=
    Table.proper_of_get? proper (show e.wire.get? (.plain "properties") = some _ from rfl)
  refine ⟨e.wire.sent, e.properties.sent, Event.payloadOf?_of_encodeBody encoded, ?_,
    Event.text?_properties_sent distinct proper, ?_, ?_⟩
  · rw [Table.text?_sent, show e.wire.get? (.plain "event") = some (.str e.name) from rfl, links.name]
    rfl
  · rw [Table.text?_sent, links.user, Option.map_some,
      normal_truncate_str (Table.proper_of_get? inner links.user)]
  · rw [Table.text?_sent, links.earlier, Option.map_some,
      normal_truncate_str (Table.proper_of_get? inner links.earlier)]

/-! ## Events that are sent -/

variable {w w' : World} {t t' : Tracker}

/-- A call that sends an event, and tells its listener if the event cannot be sent. -/
def ClientCall.Sends (call : ClientCall) (w : World) (t : Tracker) (e : Event) : Prop :=
  ∃ (w₁ : World) (t₁ : Tracker), w₁.queue = w.queue ∧
    call.perform w t = settled call.listener (w₁.submit t₁ .track e.wire.toValue call.listener)

/-- Under texts and a clock that can be read, every event can be composed. -/
theorem Store.exists_compose_eq {s : Store} (readable : s.clock.Readable) (bag : s.props.TextKeyed)
    {given : Value} (texts : given.TextKeyed) (token : Text) (environment : Option Environment)
    (name : Text) :
    ∃ s' e, s.compose token environment (.str name) given = (s', .ok e) ∧ e.name = name := by
  obtain ⟨time, clock, read, -⟩ := readable.exists_read
  obtain ⟨caller, rfl, callerTexts⟩ : ∃ caller, given = givenBy caller ∧
      Schema.hasTextKeys (caller.getD []) = true := by
    cases given with
    | null => exact ⟨none, rfl, rfl⟩
    | map entries => exact ⟨some entries, rfl, texts⟩
    | _ => cases texts
  obtain ⟨bagTable, props⟩ := Mapping.exists_eq_asMapping bag.texts
  obtain ⟨table, own⟩ := Mapping.exists_eq_asMapping callerTexts
  exact ⟨_, _, compose_eq_of_tables props own read token environment name, rfl⟩

/-- Tracking an event submits what is composed for it. -/
theorem exists_track_eq (readable : w.clock.Readable) (bag : t.props.TextKeyed) {properties : Value}
    (texts : (givenProperties properties).TextKeyed) (name : Text) (callback : Value) :
    ∃ s e, (w.store t).compose t.token t.environment (.str name) (givenProperties properties) =
        (s, .ok e) ∧ e.name = name ∧
      w.track t (.str name) properties callback =
        settled (if properties.callable then properties else callback)
          ((w.withStore t s).submit t .track e.wire.toValue
            (if properties.callable then properties else callback)) := by
  obtain ⟨s, e, composed, named⟩ := Store.exists_compose_eq (s := w.store t) readable bag texts t.token
    t.environment name
  refine ⟨s, e, composed, named, ?_⟩
  unfold World.track World.attemptTrack
  rw [arguments_eq]
  simp only [composed]
  rfl

/-- An event that is tracked is sent under the distinct id in force. -/
theorem exists_sends_track (readable : w.clock.Readable) (bag : t.props.TextKeyed) {properties : Value}
    (texts : (givenProperties properties).TextKeyed) (name : Text) (callback : Value) :
    ∃ e : Event, (ClientCall.track (.str name) properties callback).Sends w t e ∧ e.name = name ∧
      e.properties.get? "distinct_id" = some (.str t.distinctId) := by
  obtain ⟨s, e, composed, named, tracked⟩ := exists_track_eq readable bag texts name callback
  have own := (Store.holds_of_compose (s := w.store t) bag texts composed).2.1
  rw [Store.distinctId_of_props (s := w.store t) rfl] at own
  exact ⟨e, ⟨w.withStore t s, t, rfl, tracked⟩, named, own⟩

/-- Identifying a user sends an event that links the user to the distinct id in force. -/
theorem exists_sends_identify (readable : w.clock.Readable) (bag : t.props.TextKeyed) {user : Text}
    (nonempty : user ≠ "") (callback : Value) :
    ∃ e : Event, (ClientCall.identify (.str user) callback).Sends w t e ∧
      e.Links t.distinctId user ∧ Entries.Distinct (fun a b => decide (a = b)) e.properties := by
  have identified := (w.store t).identify_of_nonempty nonempty
  have own := (Store.distinctId_identify identified).1
  have clock := (w.store t).identify_clock (.str user)
  have keyed := Store.keyed_identify (s := w.store t) bag (.str user)
  rw [identified] at clock keyed
  generalize (w.store t).registerEntries _ = s at identified own clock keyed
  have given : Mapping.TextKeyed
      [(.str "$anon_distinct_id", .str t.distinctId), (.str "distinct_id", .str user)] :=
    ⟨rfl, by simp [Entries.Distinct]⟩
  have texts : (givenProperties (World.identifyProperties t.distinctId (.str user))).TextKeyed := rfl
  let after : Tracker := { t with props := s.props }
  let linking : World := w.withStore t s
  obtain ⟨s', e, composed, named, tracked⟩ :=
    exists_track_eq (w := linking) (t := after) (clock.symm ▸ readable) keyed texts "$identify" callback
  have held := Store.holds_of_compose (s := linking.store after) keyed texts composed
  refine ⟨e, ⟨linking.withStore after s', after, rfl, ?_⟩, ⟨named, ?_, ?_⟩, held.1⟩
  · rw [ClientCall.perform, World.identify, identified]
    exact tracked
  · rw [held.2.1, own]
    rfl
  · exact Store.get?_given_of_compose (s := linking.store after) keyed given composed rfl (by decide)

/-- A number that is returned for a payload is that of a task with the payload in its body. -/
theorem exists_task_of_submit {endpoint : Endpoint} {payload callback : Value} {n : Nat}
    (accepted : (w.submit t endpoint payload callback).2 = .ok (.ok n)) :
    ∃ task : Task, (w.submit t endpoint payload callback).1.queue = w.queue ++ [task] ∧
      task.number = n ∧ encodeBody (truncate maxTextLength payload) = .ok task.body := by
  unfold World.submit truncated at accepted ⊢
  by_cases shallow : payload.depth ≤ maxCutDepth
  case neg =>
    rw [if_neg shallow] at accepted
    cases accepted
  case pos =>
    rw [if_pos shallow] at accepted ⊢
    cases encoded : encodeBody (truncate maxTextLength payload) with
    | error cause =>
      simp only [encoded] at accepted
      cases accepted
    | ok body =>
      simp only [encoded] at accepted ⊢
      split at accepted
      case isTrue looping =>
        rw [if_pos looping]
        cases accepted
        exact ⟨_, rfl, rfl, rfl⟩
      case isFalse => cases accepted

theorem ok_of_settled {attempt : World × Except Fault (Except TrackerError Nat)} {listener : Value}
    {n : Nat} (returned : (settled listener attempt).2 = .ok (some n)) :
    attempt.2 = .ok (.ok n) ∧ (settled listener attempt).1 = attempt.1 := by
  obtain ⟨w, fault | error | m⟩ := attempt
  · cases returned
  · cases returned
  · cases returned
    exact ⟨rfl, rfl⟩

theorem ClientCall.Sends.exists_task {call : ClientCall} {e : Event} (sends : call.Sends w t e)
    {n : Nat} (returned : (call.perform w t).2 = .ok (some n)) :
    ∃ task : Task, (call.perform w t).1.queue = w.queue ++ [task] ∧ task.number = n ∧
      encodeBody (truncate maxTextLength e.wire.toValue) = .ok task.body := by
  obtain ⟨w₁, t₁, waits, performed⟩ := sends
  rw [performed] at returned ⊢
  obtain ⟨accepted, same⟩ := ok_of_settled returned
  rw [same, ← waits]
  exact exists_task_of_submit accepted

/-! ## What the distinct id goes back to -/

/-- Whether an action neither names a user nor starts over. -/
def Action.KeepsUser : Action → Prop
  | .request (.identify (.str user) _) => user = ""
  | .reset => False
  | _ => True

theorem Action.Changes.identity_eq {s : Store} {action : Action} {props : Mapping}
    (changes : action.Changes s props) (keeps : action.KeepsUser) :
    props.identity = s.props.identity := by
  cases changes with
  | none => rfl
  | merge asked own => exact Mapping.identity_overlay fun entry mem => (own entry mem).2
  | remove own => exact Mapping.identity_erase _ own
  | identify nonempty => exact absurd keeps nonempty
  | reset => exact keeps.elim

/-- The identity stays the same as long as users are kept. -/
theorem exists_identity_run (serves : w.Serves t) {steps : List TrackerStep}
    (keep : ∀ step ∈ steps, step.action.KeepsUser) :
    ∃ t', (w.run steps).Serves t' ∧ t'.props.identity = t.props.identity :=
  exists_bag_run (P := fun props => props.identity = t.props.identity) serves rfl
    (fun s action same keeps => ((action.changes_onStore s).identity_eq keeps).trans same) keep

/-- A tracker whose distinct id is that of its device. -/
def Tracker.OnDevice (t : Tracker) : Prop :=
  ∃ device, t.props.text? deviceIdKey = some (.str device) ∧ t.distinctId = deviceMark ++ device

theorem Tracker.distinctId_of_identity (same : t'.props.identity = t.props.identity) :
    t'.distinctId = t.distinctId := by
  rw [distinctId, distinctId, Mapping.text?_of_identity same (by decide)]

theorem Tracker.OnDevice.of_identity (here : t.OnDevice)
    (same : t'.props.identity = t.props.identity) : t'.OnDevice := by
  obtain ⟨device, held, own⟩ := here
  exact ⟨device, (Mapping.text?_of_identity same (by decide)).trans held,
    (Tracker.distinctId_of_identity same).trans own⟩

theorem onDevice_of_enterAnonymous {s : Store} (props : t.props = s.enterAnonymous.props) :
    t.OnDevice := by
  have own : s.enterAnonymous.distinctId = deviceMark ++ s.ids.device.1 :=
    Store.distinctId_registerEntries { s with ids := s.ids.device.2 } _ (by decide) _
  refine ⟨s.ids.device.1, ?_, (Store.distinctId_of_props props.symm).symm.trans own⟩
  rw [props, Store.enterAnonymous, Store.record_props, Store.registerEntries_props, Mapping.text?,
    Mapping.get?, Mapping.overlay, Entries.find?_overlay keyEquality_sameKey]
  simp [Entries.find?_cons]

/-- What the distinct id of a tracker is after an action that names a user or starts over. -/
def Tracker.Follows (t : Tracker) : Action → Prop
  | .request (.identify (.str user) _) => user ≠ "" → t.distinctId = user
  | .reset => t.OnDevice
  | _ => True

theorem Tracker.Follows.of_identity {action : Action} (follows : t.Follows action)
    (same : t'.props.identity = t.props.identity) : t'.Follows action := by
  cases action with
  | request call =>
    cases call with
    | identify id callback =>
      cases id with
      | str user =>
        exact fun nonempty => (Tracker.distinctId_of_identity same).trans (follows nonempty)
      | _ => trivial
    | _ => trivial
  | reset => exact Tracker.OnDevice.of_identity follows same
  | _ => trivial

theorem follows_take (serves : w.Serves t) (step : TrackerStep) :
    ∃ t', (w.take step).1.Serves t' ∧ t'.Follows step.action := by
  have here : ({ w with looping := step.looping } : World).Serves t :=
    ⟨serves.alone, serves.owners, serves.connected⟩
  obtain ⟨t', after, props⟩ := exists_bag here step.action
  rw [World.take_eq serves]
  refine ⟨t', after, ?_⟩
  cases action : step.action with
  | request call =>
    cases call with
    | identify id callback =>
      cases id with
      | str user =>
        intro nonempty
        rw [action, Action.onStore, Store.identify_of_nonempty _ nonempty] at props
        rw [← Store.distinctId_of_props props.symm]
        exact Store.distinctId_registerEntries _ user (by decide) _
      | _ => trivial
    | _ => trivial
  | reset =>
    rw [action] at props
    exact onDevice_of_enterAnonymous props
  | _ => trivial

/-- The distinct id goes back to the last action that named a user or started over. -/
theorem exists_follows_run (serves : w.Serves t) (first : List TrackerStep) (last : TrackerStep)
    {rest : List TrackerStep} (keep : ∀ step ∈ rest, step.action.KeepsUser) :
    ∃ t', (w.run (first ++ last :: rest)).Serves t' ∧ t'.Follows last.action := by
  obtain ⟨t₁, serves₁, -⟩ := exists_run serves first
  obtain ⟨t₂, serves₂, follows⟩ := follows_take serves₁ last
  obtain ⟨t', serves', same⟩ := exists_identity_run serves₂ keep
  rw [World.run, List.foldl_append]
  exact ⟨t', serves', follows.of_identity same⟩

/-- The bag that a tracker finds stored under its name, or an empty one. -/
def Disk.bagOf (d : Disk) (token : Text) (config : Config) (shared : Bool) : Mapping :=
  ((d.foundBy token config shared).toOption.bind Store.storedBag?).getD []

/-- A tracker starts with the bag that it finds stored, in which an identity is made sure of. -/
theorem exists_ensured_openTracker {text : Text} {config : Config}
    {environment : Option Environment} {connection : Connection} {shared : Bool}
    (alone : w.trackers = []) (idle : w.queue = [])
    (opened : w.openTracker (.str text) config environment connection shared = (w', .ok ())) :
    ∃ (t : Tracker) (s : Store), w'.Serves t ∧ t.props = s.ensureIdentity.props ∧
      s.props = w.bagOf text config shared := by
  obtain ⟨_, disk, ⟨⟩, -, used, rfl⟩ := World.exists_of_openTracker_eq_ok opened
  refine ⟨_, _, serves_joinedBy alone idle text config environment connection _, rfl, ?_⟩
  rw [Store.openNew_props, Disk.bagOf, Disk.foundBy, used]
  rfl

/-- A tracker that finds no distinct id stored starts on its device. -/
theorem exists_onDevice_openTracker {token : Value} {config : Config}
    {environment : Option Environment} {connection : Connection} {shared : Bool}
    (alone : w.trackers = []) (idle : w.queue = [])
    (opened : w.openTracker token config environment connection shared = (w', .ok ()))
    (fresh : ∀ text stored bag user, token = .str text →
      w.foundBy text config shared = .ok stored → Store.storedBag? stored = some bag →
      bag.text? distinctIdKey = some (.str user) → user = "") :
    ∃ t, w'.Serves t ∧ t.OnDevice := by
  obtain ⟨text, -, rfl, -⟩ := World.exists_of_openTracker_eq_ok opened
  obtain ⟨t, s, serves, props, loaded⟩ := exists_ensured_openTracker alone idle opened
  have unnamed : s.distinctId = "" := by
    rw [Store.distinctId, loaded, Disk.bagOf]
    cases found : (w.foundBy text config shared).toOption.bind Store.storedBag? with
    | none => rfl
    | some bag =>
      obtain ⟨stored, read, taken⟩ := Option.bind_eq_some_iff.1 found
      rw [Option.getD_some]
      split
      case h_1 user held => exact fresh text stored bag user rfl (toOption_eq_some_iff.1 read) taken held
      case h_2 => rfl
  rw [Store.ensureIdentity, if_pos unnamed] at props
  exact ⟨t, serves, onDevice_of_enterAnonymous props⟩

/-- Each user that is identified is linked to the distinct id under which an event would have been
tracked before: the user that was identified last, or after a reset or a fresh start the device. The
link is composed and, if it can be sent, sent with its texts cut. -/
theorem users_are_linked_in_a_chain {token : Value} {config : Config}
    {environment : Option Environment} {connection : Connection} {shared : Bool}
    (alone : w.trackers = []) (idle : w.queue = []) (readable : w.clock.Readable)
    (opened : w.openTracker token config environment connection shared = (w', .ok ()))
    (before : List TrackerStep) (run : ∀ step ∈ before, step.action.TextKeyed)
    (looping : Bool) {user : Text} (nonempty : user ≠ "") (callback : Value) :
    let start := w'.run before
    let identify : ClientCall := .identify (.str user) callback
    let taken := start.take ⟨looping, .request identify⟩
    ∃ t, start.current? = some t ∧
      -- the link is to the distinct id of events that might be tracked instead
      (∃ e : Event, identify.Sends { start with looping } t e ∧ e.Links t.distinctId user) ∧
      (∀ name properties callback, (givenProperties properties).TextKeyed →
        ∃ e : Event,
          (ClientCall.track (.str name) properties callback).Sends { start with looping } t e ∧
            e.name = name ∧ e.properties.get? "distinct_id" = some (.str t.distinctId)) ∧
      -- what is sent is the link
      (∀ n, taken.2 = .ok (.task (some n)) → ∃ task : Task,
        taken.1.queue = start.queue ++ [task] ∧ task.number = n ∧ task.Links t.distinctId user) ∧
      -- the distinct id is the last user, or that of the device
      (∀ first last rest, before = first ++ last :: rest →
        (∀ step ∈ rest, step.action.KeepsUser) → t.Follows last.action) ∧
      ((∀ text stored bag user, token = .str text → w.foundBy text config shared = .ok stored →
          Store.storedBag? stored = some bag →
          bag.text? distinctIdKey = some (.str user) → user = "") →
        (∀ step ∈ before, step.action.KeepsUser) → t.OnDevice) := by
  intro start identify taken
  obtain ⟨t₀, serves₀, bag₀⟩ := exists_serves_openTracker alone idle opened
  obtain ⟨t, serves, -, keyed⟩ := exists_run serves₀ before
  have bag := keyed bag₀ run
  have readable : start.clock.Readable := readable_run (readable_openTracker readable opened) before
  obtain ⟨e, sends, links, distinct⟩ :=
    exists_sends_identify (w := { start with looping }) readable bag nonempty callback
  refine ⟨t, serves.current, ⟨e, sends, links⟩,
    fun name properties callback texts =>
      exists_sends_track (w := { start with looping }) readable bag texts name callback,
    fun n returned => ?_, fun first last rest same keep => ?_, fun fresh keep => ?_⟩
  · have performed : taken = _ := World.take_eq serves ⟨looping, .request identify⟩
    rw [performed] at returned ⊢
    obtain ⟨task, queue, number, encoded⟩ := sends.exists_task (Action.number_of_answer returned)
    exact ⟨task, queue, number, links.sent distinct encoded⟩
  · obtain ⟨t', serves', follows⟩ := exists_follows_run serves₀ first last keep
    rw [← same] at serves'
    exact serves.tracker_eq serves' ▸ follows
  · obtain ⟨t₁, serves₁, here⟩ := exists_onDevice_openTracker alone idle opened fresh
    obtain ⟨t', serves', same⟩ := exists_identity_run serves₁ keep
    exact serves.tracker_eq serves' ▸ here.of_identity same

/-- A second user is linked to the first, though super-properties have the names that make a link. -/
theorem users_are_linked_in_a_chain_forged :
    let opened := (World.fresh ⟨.memory [] [] 0, ⟨[]⟩, []⟩ []).openTracker (.str "T") .standard none
      .direct true
    let forged : Mapping := [(.str "$anon_distinct_id", .str "x"), (.str "distinct_id", .str "x")]
    let before : List TrackerStep :=
      [⟨true, .request (.identify (.str "u-1") .null)⟩, ⟨true, .register (.map forged)⟩]
    ∃ task, ((opened.1.run before).take
        ⟨true, .request (.identify (.str "u-2") .null)⟩).1.queue =
          (opened.1.run before).queue ++ [task] ∧ task.Links "u-1" "u-2" := by
  intro opened forged before
  have given : opened = (opened.1, .ok ()) := rfl
  have keyed : ∀ step ∈ before, step.action.TextKeyed := by
    simp only [before, List.forall_mem_cons]
    exact ⟨trivial, rfl, List.forall_mem_nil _⟩
  have readable : Clock.Readable (.ticking 0) := trivial
  obtain ⟨t, -, -, -, sent, follows, -⟩ := users_are_linked_in_a_chain rfl rfl readable given
    before keyed true (show Text.plain "u-2" ≠ "" by decide) .null
  have own : t.distinctId = "u-1" :=
    follows [] ⟨true, .request (.identify (.str "u-1") .null)⟩ [⟨true, .register (.map forged)⟩] rfl
      (List.forall_mem_singleton.2 trivial) (by decide)
  have performed : ((opened.1.run before).current?.map fun t =>
      ((ClientCall.identify (.str "u-2") .null).perform
        { opened.1.run before with looping := true } t).2.toOption) = some (some (some 1)) := by
    decide +kernel
  have returned : ((opened.1.run before).take
      ⟨true, .request (.identify (.str "u-2") .null)⟩).2 = .ok (.task (some 1)) := by
    obtain ⟨t', present, answered⟩ := Option.map_eq_some_iff.1 performed
    generalize opened.1.run before = start at present answered ⊢
    have here : { start with looping := true }.current? = some t' := present
    simp only [World.take, here, Action.perform, Action.perform.answer]
    rw [toOption_eq_some_iff.1 answered]
    rfl
  obtain ⟨task, queue, -, links⟩ := sent 1 returned
  rw [own] at links
  exact ⟨task, queue, links⟩

end EventTracker
