import EventTracker.Proofs.Store.Absence
import EventTracker.Proofs.Store.StartUp
import EventTracker.Proofs.Tracker.Blindness
import EventTracker.Proofs.Tracker.Links

/-!
# Anonymous clients

A client that is reset goes back to its device and names no user: neither its bag nor a
request does, until a user is identified, whatever becomes of the storage. A client that is
opened where no distinct id is stored starts on its device too, but keeps a user that is
stored there.
-/

namespace EventTracker

variable {w w' : World} {t t' : Tracker}

/-! ## Requests without a property -/

/-- A request whose payload gives no property under a name. -/
def Task.Lacks (task : Task) (name : Text) : Prop :=
  ∃ payload : Mapping, payloadOf? task.body = some (.map payload) ∧
    ∀ properties : Mapping, payload.text? "properties" = some (.map properties) →
      properties.text? name = none

/-- A request lacks what the bag and the caller's properties lack. -/
theorem Task.Carries.lacks {place : Nat} {endpoint : Endpoint} {given callback : Value} {task : Task}
    {name : Text} (carries : task.Carries t place endpoint given callback)
    (bag : t.props.Lacks name) (foreign : name ∉ Environment.propertyNames)
    (other : name ∉ Store.lastNames) (own : given.offered.Lacks name) : task.Lacks name := by
  obtain ⟨payload, sendable, sent⟩ := carries.body
  cases sendable with
  | @event s s' _ e same composed =>
    refine ⟨e.wire.sent, Event.payloadOf?_of_encodeBody sent, fun properties found => ?_⟩
    rw [Event.text?_properties_sent (Store.distinct_of_compose composed)
      (isProper_of_encodeBody sent)] at found
    cases found
    rw [Table.text?_sent,
      Store.get?_eq_none_of_compose (same ▸ bag) foreign other own composed]
    rfl
  | @mutation s m same user =>
    refine ⟨m.wire.sent, ?_, fun properties found => ?_⟩
    · rw [payloadOf?_of_encodeBody sent,
        Table.normal_truncate m.distinct_wire (isProper_of_encodeBody sent)]
    · have absent : m.wire.get? "properties" = none := by
        cases op : m.operation <;>
          simp [ProfileMutation.wire, Table.get?, Entries.find?_cons, Entries.find?_nil, op,
            ProfileOperation.wireName]
      rw [Table.text?_sent, absent] at found
      cases found

/-- An action adds requests that are made of a tracker. -/
def Action.Requests (w : World) (t : Tracker) (action : Action) (sender : Tracker) : Prop :=
  ∃ made : List Task, (action.perform w t).1.requests = w.requests ++ made.map Task.request ∧
    ∀ task ∈ made, ∃ endpoint listener,
      task.MadeBy sender 0 endpoint (action.given t) listener

/-- What an action requests is made of the tracker with the bag that it leaves. -/
theorem exists_requests (serves : w.Serves t) (action : Action) :
    ∃ t', (action.perform w t).1.Serves t' ∧ t'.props = (action.onStore (w.store t)).props ∧
      action.Requests w t { t with props := t'.props } := by
  obtain ⟨t', after, props⟩ := exists_bag serves action
  refine ⟨t', after, props, ?_⟩
  have silent {t'' : Tracker} (schedules : w.Schedules (action.perform w t).1 t'' []) :
      action.Requests w t { t with props := t'.props } :=
    ⟨[], schedules.requests, List.forall_mem_nil _⟩
  cases action with
  | request call =>
    obtain ⟨bag, made, schedules, makes⟩ := exists_makes serves call
    obtain rfl : t' = { t with props := bag } := (schedules.serves serves).tracker_eq after
    exact ⟨made, schedules.requests, fun task mem => ⟨_, _, makes.requests task mem⟩⟩
  | register patch | registerOnce patch | unregister key | reset =>
    exact silent (serves.schedules_withStore _)
  | property key | distinctId => exact silent serves.schedules_nothing
  | configure patch more => exact silent (exists_schedules_configure serves patch more).choose_spec
  | flush =>
    obtain ⟨channel, session, made, flushed, requests, carries⟩ := advances_flush serves
    obtain rfl : t' = { t with channel, session } := flushed.tracker_eq after
    exact ⟨made, requests, fun task mem => ⟨_, _, .inl (carries task mem)⟩⟩

/-! ## Anonymous clients -/

/-- A client on its device whose bag names no user. -/
structure Tracker.Anonymous (t : Tracker) : Prop where
  onDevice : t.OnDevice
  lacks : t.props.Lacks userIdKey

/-- Whether an action registers no user beside the identity. Texts of the identity are not registered
anyway, but bytes are that are read as one. -/
def Action.RegistersNoUser : Action → Prop
  | .register patch | .registerOnce patch =>
    ∀ entry ∈ patch.offered, ∀ bytes, entry.1 = .bytes bytes → textOfUtf8? bytes ≠ some userIdKey
  | _ => True

/-- An action that neither identifies a user, nor registers one, nor starts over. -/
structure Action.NamesNoUser (action : Action) : Prop where
  keeps : action.KeepsUser
  registers : action.RegistersNoUser

theorem Action.TextKeyed.registersNoUser {action : Action} (keyed : action.TextKeyed) :
    action.RegistersNoUser := by
  have texts {patch : Value} (keyed : patch.TextKeyed) : ∀ entry ∈ patch.offered, ∀ bytes,
      entry.1 = .bytes bytes → textOfUtf8? bytes ≠ some userIdKey := by
    intro entry mem bytes key
    cases patch with
    | map entries =>
      obtain ⟨name, text⟩ := Schema.hasTextKeys_iff.1 keyed entry mem
      rw [key] at text
      cases text
    | null => cases mem
    | _ => cases keyed
  cases action with
  | register patch | registerOnce patch => exact texts keyed
  | _ => trivial

theorem Action.Changes.lacks_user {s : Store} {action : Action} {props : Mapping}
    (changes : action.Changes s props) (bag : s.props.Lacks userIdKey)
    (names : action.NamesNoUser) : props.Lacks userIdKey := by
  cases changes with
  | none => exact bag
  | merge asked own =>
    refine bag.overlay fun entry mem reads => ?_
    obtain ⟨given, free⟩ := own entry mem
    -- the text itself is of the identity, and so never merged; what is left are bytes
    rcases checkText_eq_ok_iff.1 reads with text | ⟨bytes, key, text⟩
    · rw [text] at free
      cases free
    · obtain ⟨decoded, read, same⟩ := Option.map_eq_some_iff.1 text
      obtain rfl := Text.plain.inj same
      rcases asked with rfl | rfl <;> exact names.registers entry given bytes key read
  | remove own => exact bag.erase _
  | identify nonempty => exact absurd names.keeps nonempty
  | reset => exact names.keeps.elim

namespace Tracker.Anonymous

/-- A tracker that enters the anonymous state is on its device, and names no user if it named none. -/
theorem of_entered {s : Store} (props : t.props = s.enterAnonymous.props)
    (bag : s.props.Lacks userIdKey) : t.Anonymous where
  onDevice := onDevice_of_enterAnonymous props
  lacks := by
    rw [props, Store.enterAnonymous_props]
    exact bag.overlay ((Mapping.lacks_iff_of_texts rfl).2 rfl)

/-- An anonymous tracker stays so. -/
theorem of_action {s : Store} (here : t.Anonymous) (same : s.props = t.props) {action : Action}
    (names : action.NamesNoUser) (props : t'.props = (action.onStore s).props) : t'.Anonymous := by
  have changes := props ▸ action.changes_onStore s
  exact ⟨here.onDevice.of_identity (same ▸ changes.identity_eq names.keeps),
    changes.lacks_user (same ▸ here.lacks) names⟩

end Tracker.Anonymous

/-! ## Runs on disks that change -/

/-- Performs a step on what has become of the disk. -/
def World.takeDisturbed (w : World) (step : DisturbedStep) : World × Except Fault Answer :=
  (w.onDisk (step.disturb w.toDisk)).take step.step

/-- The world after some steps. -/
def World.runDisturbed (w : World) (steps : List DisturbedStep) : World :=
  steps.foldl (fun w step => (w.takeDisturbed step).1) w

/-- The runs that leave a client anonymous that was opened on a bag: they start on a bag without a
user or with a reset, and name no user since. -/
inductive LeavesAnonymous (stored : Mapping) : List DisturbedStep → Prop where
  | opened (unnamed : ¬ Store.Named stored) (absent : stored.text? userIdKey = none) :
    LeavesAnonymous stored []
  | reset (before : List DisturbedStep) (disturb : Disk → Disk) (looping : Bool) :
    LeavesAnonymous stored (before ++ [⟨disturb, ⟨looping, .reset⟩⟩])
  | step {before : List DisturbedStep} {last : DisturbedStep} (leaves : LeavesAnonymous stored before)
    (names : last.step.action.NamesNoUser) : LeavesAnonymous stored (before ++ [last])

theorem World.runDisturbed_append_singleton (w : World) (steps : List DisturbedStep)
    (step : DisturbedStep) :
    w.runDisturbed (steps ++ [step]) = ((w.runDisturbed steps).takeDisturbed step).1 :=
  List.foldl_append

/-- Whatever has become of the disk, a step makes of the bag what its action makes of it, and its
requests are made of the tracker with that bag. -/
theorem exists_takeDisturbed (serves : w.Serves t) (step : DisturbedStep) :
    ∃ t' s, (w.takeDisturbed step).1.Serves t' ∧ s.props = t.props ∧
      t'.props = (step.step.action.onStore s).props ∧
      ∃ made : List Task, (w.takeDisturbed step).1.requests = w.requests ++ made.map Task.request ∧
        ∀ task ∈ made, ∃ endpoint listener,
          task.MadeBy { t with props := t'.props } 0 endpoint (step.step.action.given t) listener := by
  let here : World := { w.onDisk (step.disturb w.toDisk) with looping := step.step.looping }
  have serves' : here.Serves t := ⟨serves.alone, serves.owners, serves.connected⟩
  obtain ⟨t', after, props, requests⟩ := exists_requests serves' step.step.action
  have same : w.takeDisturbed step = step.step.action.perform here t :=
    World.take_eq (w := w.onDisk (step.disturb w.toDisk))
      ⟨serves.alone, serves.owners, serves.connected⟩ step.step
  rw [same]
  exact ⟨t', here.store t, after, rfl, props, requests⟩

theorem exists_runDisturbed (serves : w.Serves t) (steps : List DisturbedStep) :
    ∃ t', (w.runDisturbed steps).Serves t' := by
  induction steps generalizing w t with
  | nil => exact ⟨t, serves⟩
  | cons step rest ih =>
    obtain ⟨t₁, -, serves₁, -⟩ := exists_takeDisturbed serves step
    exact ih serves₁

/-- Whatever has been done before, a reset leaves a tracker anonymous. -/
theorem exists_anonymous_reset (serves : w.Serves t) (before : List DisturbedStep)
    (disturb : Disk → Disk) (looping : Bool) :
    ∃ t', (w.runDisturbed (before ++ [⟨disturb, ⟨looping, .reset⟩⟩])).Serves t' ∧ t'.Anonymous := by
  obtain ⟨t₁, serves₁⟩ := exists_runDisturbed serves before
  obtain ⟨t', s, after, -, props, -⟩ := exists_takeDisturbed serves₁ ⟨disturb, ⟨looping, .reset⟩⟩
  refine ⟨t', ?_, .of_entered props ?_⟩
  · rw [World.runDisturbed_append_singleton]
    exact after
  · rw [Store.clear_props]
    exact List.forall_mem_nil _

theorem LeavesAnonymous.exists_anonymous {stored : Mapping} {steps : List DisturbedStep}
    (leaves : LeavesAnonymous stored steps) (serves : w.Serves t)
    (starts : ¬ Store.Named stored → stored.text? userIdKey = none → t.Anonymous) :
    ∃ t', (w.runDisturbed steps).Serves t' ∧ t'.Anonymous := by
  induction leaves with
  | opened unnamed absent => exact ⟨t, serves, starts unnamed absent⟩
  | reset before disturb looping => exact exists_anonymous_reset serves before disturb looping
  | @step before last leaves names ih =>
    obtain ⟨t₁, serves₁, here⟩ := ih
    obtain ⟨t₂, s, after, same, props, -⟩ := exists_takeDisturbed serves₁ last
    rw [World.runDisturbed_append_singleton]
    exact ⟨t₂, after, here.of_action same names props⟩

/-- What an anonymous tracker requests names no user that the caller does not give. -/
theorem exists_requests_of_anonymous (serves : w.Serves t) (here : t.Anonymous)
    {step : DisturbedStep} (names : step.step.action.NamesNoUser) :
    ∃ made : List Task, (w.takeDisturbed step).1.requests = w.requests ++ made.map Task.request ∧
      ((step.step.action.given t).offered.Lacks userIdKey →
        ∀ task ∈ made, task.Lacks userIdKey) := by
  obtain ⟨t', s, -, same, props, made, requests, madeBy⟩ := exists_takeDisturbed serves step
  have still : t'.Anonymous := here.of_action same names props
  refine ⟨made, requests, fun own task mem => ?_⟩
  have foreign : .plain userIdKey ∉ Environment.propertyNames := by decide
  have other : .plain userIdKey ∉ Store.lastNames := by decide
  obtain ⟨endpoint, listener, carries | ⟨-, echo⟩⟩ := madeBy task mem
  · exact carries.lacks still.lacks foreign other own
  · exact echo.lacks still.lacks foreign other (List.forall_mem_nil _)

/-- A tracker that finds no distinct id stored starts on its device, with the stored user if there
is one. -/
theorem exists_entered_openTracker {text : Text} {config : Config}
    {environment : Option Environment} {connection : Connection} {shared : Bool}
    (alone : w.trackers = []) (idle : w.queue = [])
    (opened : w.openTracker (.str text) config environment connection shared = (w', .ok ()))
    (unnamed : ¬ Store.Named (w.bagOf text config shared)) :
    ∃ t, w'.Serves t ∧ t.OnDevice ∧
      t.props.text? userIdKey = (w.bagOf text config shared).text? userIdKey ∧
      ((w.bagOf text config shared).text? userIdKey = none → t.Anonymous) := by
  obtain ⟨t, s, serves, props, loaded⟩ := exists_ensured_openTracker alone idle opened
  rw [← loaded] at unnamed ⊢
  rw [Store.ensureIdentity_of_not_named unnamed] at props
  refine ⟨t, serves, onDevice_of_enterAnonymous props, ?_, fun absent => .of_entered props ?_⟩
  · rw [props, Store.enterAnonymous_props, Store.text?_overlay_deviceEntries]
    rfl
  · have texts : Schema.hasTextKeys s.props = true := loaded ▸ (Store.keyed_storedBag? _).texts
    exact (Mapping.lacks_iff_of_texts texts).2 absent

/-- A client names no user from a reset on, or from an opening where neither a distinct id nor a user
is stored, until it identifies one: it is on its device, its bag has nothing under the user's key, and
neither has an event that is composed of the bag or a request, unless the caller gives it. An opening
where no distinct id is stored puts the client on its device, but keeps a user that is stored. -/
theorem anonymous_clients_name_no_user {text : Text} {config : Config}
    {environment : Option Environment} {connection : Connection} {shared : Bool}
    (alone : w.trackers = []) (idle : w.queue = [])
    (opened : w.openTracker (.str text) config environment connection shared = (w', .ok ())) :
    let stored := w.bagOf text config shared
    (¬ Store.Named stored → ∃ t, w'.current? = some t ∧ t.OnDevice ∧
      t.props.text? userIdKey = stored.text? userIdKey) ∧
    ∀ before, LeavesAnonymous stored before →
      let start := w'.runDisturbed before
      ∃ t, start.current? = some t ∧ t.OnDevice ∧ t.props.Lacks userIdKey ∧
        (∀ (s s' : Store) (token : Text) (environment : Option Environment) (name given : Value)
          (e : Event), s.props = t.props → given.offered.Lacks userIdKey →
          s.compose token environment name given = (s', .ok e) →
            e.properties.get? userIdKey = none) ∧
        ∀ last : DisturbedStep, last.step.action.NamesNoUser → ∃ made : List Task,
          (start.takeDisturbed last).1.requests = start.requests ++ made.map Task.request ∧
          ((last.step.action.given t).offered.Lacks userIdKey →
            ∀ task ∈ made, task.Lacks userIdKey) := by
  intro stored
  refine ⟨fun unnamed => ?_, fun before leaves => ?_⟩
  · obtain ⟨t, serves, onDevice, same, -⟩ := exists_entered_openTracker alone idle opened unnamed
    exact ⟨t, serves.current, onDevice, same⟩
  intro start
  obtain ⟨t₀, serves₀, -⟩ := exists_serves_openTracker alone idle opened
  obtain ⟨t, serves, here⟩ : ∃ t, start.Serves t ∧ t.Anonymous := by
    refine leaves.exists_anonymous serves₀ fun unnamed absent => ?_
    obtain ⟨t, serves, -, -, anonymous⟩ := exists_entered_openTracker alone idle opened unnamed
    exact serves.tracker_eq serves₀ ▸ anonymous absent
  refine ⟨t, serves.current, here.onDevice, here.lacks, ?_, fun last names =>
    exists_requests_of_anonymous serves here names⟩
  intro s s' token environment name given e same own composed
  exact Store.get?_eq_none_of_compose (same ▸ here.lacks) (by decide) (by decide) own composed

/-- No user is named after a reset, though the storage can neither be written nor cleared since it has
held one, and though one is registered under a text. -/
theorem anonymous_clients_name_no_user_registered :
    let opened := (World.fresh ⟨.memory [] [] 0, ⟨[]⟩, []⟩ []).openTracker (.str "T") .standard none
      .direct true
    let fail (d : Disk) : Disk :=
      match d.storage with
      | .memory items _ writes => { d with storage := .memory items [.set, .remove] writes }
      | .folder _ => d
    let forging : Action := .register (.map [(.str "$user_id", .str "u-1")])
    let before : List DisturbedStep :=
      [⟨id, ⟨true, .request (.identify (.str "u-1") .null)⟩⟩, ⟨fail, ⟨true, .reset⟩⟩,
        ⟨id, ⟨true, forging⟩⟩]
    let start := opened.1.runDisturbed before
    let sent := start.takeDisturbed ⟨id, ⟨true, .request (.track (.str "seen") .null .null)⟩⟩
    ∃ (t : Tracker) (task : Task), start.current? = some t ∧ t.OnDevice ∧
      t.props.Lacks "$user_id" ∧
      sent.1.requests = start.requests ++ [task.request] ∧ task.Lacks "$user_id" := by
  intro opened fail forging before start sent
  have given : opened = (opened.1, .ok ()) := rfl
  have leaves (stored : Mapping) : LeavesAnonymous stored before :=
    .step (.reset [⟨id, ⟨true, .request (.identify (.str "u-1") .null)⟩⟩] fail true)
      ⟨trivial, Action.TextKeyed.registersNoUser (show forging.TextKeyed from rfl)⟩
  obtain ⟨t, current, onDevice, lacks, -, sends⟩ :=
    (anonymous_clients_name_no_user rfl rfl given).2 before (leaves _)
  obtain ⟨made, requests, nameless⟩ :=
    sends ⟨id, ⟨true, .request (.track (.str "seen") .null .null)⟩⟩ ⟨trivial, trivial⟩
  have one : sent.1.requests.length = start.requests.length + 1 := by decide +kernel
  rw [requests, List.length_append, List.length_map, Nat.add_left_cancel_iff] at one
  obtain ⟨task, rfl⟩ := List.length_eq_one_iff.1 one
  exact ⟨t, task, current, onDevice, lacks, requests,
    nameless (List.forall_mem_nil _) task (List.mem_singleton_self task)⟩

/-- A client that is opened on a stored user whose distinct id is no text is on its device, but its
bag and the events that are composed of it name the user. -/
theorem stored_user_is_kept :
    let text := "\x7b\"distinct_id\":123,\"$user_id\":\"u-1\"\x7d"
    let opened := (World.fresh ⟨.memory [(.str "mon_T", .str text)] [] 0, ⟨[]⟩, []⟩ []).openTracker
      (.str "T") .standard none .direct true
    ∃ t s e, opened.1.current? = some t ∧ t.OnDevice ∧
      t.props.text? "$user_id" = some (.str "u-1") ∧
      (opened.1.store t).compose t.token t.environment (.str "E") .null = (s, .ok e) ∧
      e.properties.get? "$user_id" = some (.str "u-1") := by
  intro text opened
  let stored : Mapping := [(.str "distinct_id", .int 123), (.str "$user_id", .str "u-1")]
  have encoded : Json.encode true (.map stored) = .ok text :=
    toOption_eq_some_iff.1 (by decide +kernel)
  have bag : (World.fresh ⟨.memory [(.str "mon_T", .str text)] [] 0, ⟨[]⟩, []⟩ []).bagOf
      "T" .standard true = stored :=
    congrArg (Option.getD · []) (Store.storedBag?_of_encode encoded)
  have given : opened = (opened.1, .ok ()) := rfl
  have unnamed : ¬ Store.Named stored := by
    rintro ⟨id, -, held⟩
    cases held
  obtain ⟨t, serves, onDevice, kept, -⟩ := exists_entered_openTracker rfl rfl given (bag ▸ unnamed)
  obtain ⟨t', serves', keyed⟩ := exists_serves_openTracker rfl rfl given
  obtain rfl := serves.tracker_eq serves'
  rw [bag] at kept
  have nothing : Value.TextKeyed .null := trivial
  have start : Clock.Readable (.ticking 0) := trivial
  obtain ⟨s, e, composed, -⟩ := Store.exists_compose_eq (s := opened.1.store t')
    (readable_openTracker start given) keyed nothing t'.token t'.environment "E"
  have held := (Store.holds_of_compose (s := opened.1.store t') keyed nothing composed).2.2
  exact ⟨t', s, e, serves.current, onDevice, kept, composed, held _ _ kept rfl (by decide)⟩

end EventTracker
