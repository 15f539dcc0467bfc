import EventTracker.Proofs.Store.Ids
import EventTracker.Proofs.Store.StartUp
import EventTracker.Proofs.Tracker.Handling
import EventTracker.Proofs.Tracker.Lasting
import EventTracker.Proofs.Tracker.Opening
import EventTracker.Proofs.Tracker.Serving
import EventTracker.Proofs.Wire.Finite
import Mathlib.Data.List.Nodup

/-!
# Ids that never repeat

Insert ids and device ids are drawn from one source, whatever numbers it issues. Whatever
is done with any number of trackers, each event that is sent bears a number of its own, and
so does each device: what has been given a number is noted by the place of that number in
the source (`World.Draws`), every operation notes the places that it uses, and nothing is
drawn from one place twice.
-/

namespace EventTracker

/-! ## Ids in requests -/

/-- Whether a request goes where events go. -/
def isTracking (request : Text × String) : Bool :=
  (CodePoint.ofChars "/track/".toList).isSuffixOf request.1.points

/-- The insert id of the event in a body. -/
def insertId? (body : String) : Option Value :=
  match payloadOf? body with
  | some (.map payload) =>
    match Mapping.text? payload "properties" with
    | some (.map properties) => Mapping.text? properties "$insert_id"
    | _ => none
  | _ => none

/-- The insert ids of the events that have been sent or are about to be. -/
def World.insertIds (w : World) : List (Option Value) :=
  (w.requests.filter isTracking).map fun request => insertId? request.2

theorem isTracking_iff {host : Text} {body : String} {endpoint : Endpoint} :
    isTracking (host ++ endpoint.path ++ "/", body) = true ↔ endpoint = .track := by
  rw [isTracking, List.isSuffixOf_iff_suffix, Text.points_append, Text.points_append,
    List.append_assoc]
  cases endpoint with
  | track => exact iff_of_true (List.suffix_append _ _) rfl
  | engage =>
    refine iff_of_false (fun ends => ?_) nofun
    have here := List.suffix_of_suffix_length_le ends (List.suffix_append host.points _) (by decide)
    exact absurd here (by decide)

/-- An event that is composed under texts is sent under the number that was drawn for it. -/
theorem insertId?_of_compose {s s' : Store} {token : Text} {environment : Option Environment}
    {event given : Value} {e : Event} {body : String} (bag : s.props.TextKeyed)
    (texts : given.TextKeyed) (composed : s.compose token environment event given = (s', .ok e))
    (encoded : encodeBody (truncate maxTextLength e.wire.toValue) = .ok body) :
    s'.ids = s.ids.insert.2 ∧ insertId? body = some (.str (plainId s.ids.next)) := by
  obtain ⟨lower, time, clock, layers, -, rfl, valid⟩ := Store.exists_of_composeFor_eq_ok composed
  have lowerTexts := (Store.lowerLayers_of_texts bag texts environment).1
  have distinct := s.lowerLayers_distinct environment given
  rw [layers] at lowerTexts distinct
  have own : e.properties.get? "$insert_id" = some (.str (plainId s.ids.next)) :=
    Store.get?_of_ofValues_lastLayer distinct valid (by simp [Store.lastLayer, IdSource.insert])
      (Mapping.not_shadowed_of_texts "$insert_id" (Schema.hasTextKeys_iff.1 lowerTexts))
  refine ⟨rfl, ?_⟩
  rw [insertId?, Event.payloadOf?_of_encodeBody encoded]
  simp only [Event.text?_properties_sent (Store.distinct_of_compose composed)
    (isProper_of_encodeBody encoded)]
  rw [Table.text?_sent, own, Option.map_some, truncate_plainId]
  rfl

/-- A request that is submitted is added to those there are, or lost. -/
theorem World.submit_cases (w : World) (t : Tracker) (endpoint : Endpoint) (payload callback : Value) :
    let w' := (w.submit t endpoint payload callback).1
    w'.trackers = w.trackers ∧ w'.ids = w.ids ∧
      (w'.requests = w.requests ∨ ∃ body,
        encodeBody (truncate maxTextLength payload) = .ok body ∧
        w'.requests = w.requests ++ [(t.config.apiHost ++ endpoint.path ++ "/", body)]) := by
  unfold World.submit truncated
  split
  case h_1 => exact ⟨rfl, rfl, .inl rfl⟩
  case h_2 taken cut =>
    obtain rfl : truncate maxTextLength payload = taken := by
      split at cut <;> cases cut
      rfl
    simp only
    split
    case h_1 => exact ⟨rfl, rfl, .inl rfl⟩
    case h_2 body encoded =>
      split
      · refine ⟨rfl, rfl, .inr ⟨body, encoded, ?_⟩⟩
        rw [World.requests, World.requests, List.map_append, ← List.append_assoc]
        rfl
      · exact ⟨rfl, rfl, .inl rfl⟩

/-- What a request adds to the insert ids. -/
theorem World.insertIds_of_requests {w w' : World} {request : Text × String}
    (requests : w'.requests = w.requests ++ [request]) :
    w'.insertIds = w.insertIds ++ if isTracking request then [insertId? request.2] else [] := by
  rw [World.insertIds, World.insertIds, requests, List.filter_append, List.map_append]
  cases tracking : isTracking request <;> simp [tracking]

/-! ## Numbers that have been drawn -/

theorem IdSource.device_of_unscripted {ids : IdSource} (unscripted : ids.deviceIds = []) :
    ids.device = (dashedId ids.next, { ids with issued := ids.issued + 1 }) := by
  rw [device, unscripted]

/-- The insert ids of a world are the numbers at certain places of a source, all different and
different from those of the devices; all have been drawn since some point. -/
structure World.Draws (numbers : Nat → Nat) (first : Nat) (devices : List Nat) (w : World) :
    Prop where
  keyed : ∀ t ∈ w.trackers, t.props.TextKeyed
  unscripted : w.ids.deviceIds = []
  source : w.ids.numbers = numbers
  since : first ≤ w.ids.issued
  events : ∃ events : List Nat,
    w.insertIds = events.map (fun place => some (.str (plainId (numbers place)))) ∧
    (events ++ devices).Nodup ∧ ∀ place ∈ events ++ devices, first ≤ place ∧ place < w.ids.issued

namespace World.Draws

variable {numbers : Nat → Nat} {first : Nat} {devices : List Nat} {w w' : World} {t : Tracker}

/-- Ids may be drawn for nothing, requests may be lost, and trackers may change. -/
theorem onward (draws : w.Draws numbers first devices)
    (trackers : ∀ t ∈ w'.trackers, t.props.TextKeyed)
    (requests : w'.insertIds.Sublist w.insertIds) (unscripted : w'.ids.deviceIds = [])
    (source : w'.ids.numbers = w.ids.numbers) (issued : w.ids.issued ≤ w'.ids.issued) :
    w'.Draws numbers first devices := by
  obtain ⟨-, -, drawn, since, events, same, nodup, bounds⟩ := draws
  obtain ⟨kept, sublist, same'⟩ := List.sublist_map_iff.1 (same ▸ requests)
  have still := sublist.append_right devices
  refine ⟨trackers, unscripted, source.trans drawn, since.trans issued, kept, same',
    nodup.sublist still, fun place mem => ?_⟩
  obtain ⟨above, below⟩ := bounds place (still.subset mem)
  exact ⟨above, below.trans_le issued⟩

/-- The trackers may change, requests may be lost, and the ids be as they were. -/
theorem undrawn (draws : w.Draws numbers first devices)
    (trackers : ∀ t ∈ w'.trackers, t.props.TextKeyed)
    (requests : w'.insertIds.Sublist w.insertIds) (ids : w'.ids = w.ids) :
    w'.Draws numbers first devices :=
  draws.onward trackers requests (ids ▸ draws.unscripted) (congrArg IdSource.numbers ids)
    (Nat.le_of_eq (congrArg IdSource.issued ids).symm)

/-- The trackers may change, and the rest be as it was. -/
theorem retracked (draws : w.Draws numbers first devices)
    (trackers : ∀ t ∈ w'.trackers, t.props.TextKeyed)
    (requests : w'.insertIds = w.insertIds) (ids : w'.ids = w.ids) : w'.Draws numbers first devices :=
  draws.undrawn trackers (requests ▸ List.Sublist.refl _) ids

theorem setTracker (draws : w.Draws numbers first devices) (own : t.props.TextKeyed) (place : Nat) :
    (w.setTracker place t).Draws numbers first devices :=
  draws.retracked (forall_mem_set draws.keyed own place) rfl rfl

theorem withStore (draws : w.Draws numbers first devices) {s : Store} (own : s.props.TextKeyed)
    (ids : s.ids = w.ids) : (w.withStore t s).Draws numbers first devices :=
  draws.retracked (forall_mem_set (t := { t with props := s.props }) draws.keyed own _) rfl ids

/-- The place that is drawn from next is another one. -/
theorem draw_next {places all : List Nat} {next : Nat} (nodup : places.Nodup)
    (bounds : ∀ place ∈ places, first ≤ place ∧ place < next) (since : first ≤ next)
    (perm : all.Perm (next :: places)) :
    all.Nodup ∧ ∀ place ∈ all, first ≤ place ∧ place < next + 1 := by
  refine ⟨perm.nodup_iff.2 (List.nodup_cons.2 ⟨fun mem => ?_, nodup⟩), fun place mem => ?_⟩
  · exact absurd (bounds _ mem).2 (Nat.lt_irrefl next)
  · obtain rfl | before := List.mem_cons.1 (perm.mem_iff.1 mem)
    · exact ⟨since, Nat.lt_succ_self _⟩
    · exact ⟨(bounds place before).1, Nat.lt_succ_of_lt (bounds place before).2⟩

/-- An event that is requested is given the next number. -/
theorem event (draws : w.Draws numbers first devices)
    (trackers : ∀ t ∈ w'.trackers, t.props.TextKeyed)
    (requests : w'.insertIds = w.insertIds ++ [some (.str (plainId w.ids.next))])
    (ids : w'.ids = w.ids.insert.2) : w'.Draws numbers first devices := by
  obtain ⟨-, unscripted, rfl, since, events, same, nodup, bounds⟩ := draws
  have moved : (events ++ [w.ids.issued] ++ devices).Perm
      (w.ids.issued :: (events ++ devices)) := by
    rw [List.append_assoc]
    exact List.perm_middle
  refine ⟨trackers, ids ▸ unscripted, ids ▸ rfl, ?_, events ++ [w.ids.issued], ?_, ?_⟩
  · rw [ids]
    exact Nat.le_succ_of_le since
  · rw [requests, same, List.map_append]
    rfl
  · rw [ids]
    exact draw_next nodup bounds since moved

/-- A device is given the next number. -/
theorem device (draws : w.Draws numbers first devices)
    (trackers : ∀ t ∈ w'.trackers, t.props.TextKeyed)
    (requests : w'.insertIds = w.insertIds) (ids : w'.ids = w.ids.device.2) :
    w'.Draws numbers first (devices ++ [w.ids.issued]) := by
  rw [IdSource.device_of_unscripted draws.unscripted] at ids
  obtain ⟨-, unscripted, source, since, events, same, nodup, bounds⟩ := draws
  have moved : (events ++ (devices ++ [w.ids.issued])).Perm
      (w.ids.issued :: (events ++ devices)) := by
    rw [← List.append_assoc]
    exact List.perm_append_singleton _ _
  refine ⟨trackers, ids ▸ unscripted, ids ▸ source, ?_, events, requests.trans same, ?_⟩
  · rw [ids]
    exact Nat.le_succ_of_le since
  · rw [ids]
    exact draw_next nodup bounds since moved

/-! ### Requests -/

theorem engage (draws : w.Draws numbers first devices) (t : Tracker) (payload callback : Value) :
    (w.submit t .engage payload callback).1.Draws numbers first devices := by
  obtain ⟨trackers, ids, same | ⟨body, -, more⟩⟩ := submit_cases w t .engage payload callback
  · exact draws.retracked (trackers ▸ draws.keyed) (by rw [World.insertIds, same]; rfl) ids
  · refine draws.retracked (trackers ▸ draws.keyed) ?_ ids
    have other : ¬ Endpoint.engage = .track := nofun
    rw [insertIds_of_requests more, if_neg (mt isTracking_iff.1 other), List.append_nil]

theorem attemptTrack (draws : w.Draws numbers first devices) (own : t.props.TextKeyed) {properties : Value}
    (texts : properties.TextKeyed) (event callback : Value) :
    (w.attemptTrack t event properties callback).1.Draws numbers first devices := by
  obtain ⟨bag, -, drawn⟩ := (w.store t).compose_cases t.token t.environment event properties
  unfold World.attemptTrack
  cases composed : (w.store t).compose t.token t.environment event properties with
  | mk s result =>
    rw [composed] at bag drawn
    have issued : s.ids.deviceIds = [] ∧ s.ids.numbers = w.ids.numbers ∧
        w.ids.issued ≤ s.ids.issued := by
      obtain same | more : s.ids = w.ids ∨ s.ids = w.ids.insert.2 := drawn
      · rw [same]
        exact ⟨draws.unscripted, rfl, Nat.le_refl _⟩
      · rw [more]
        exact ⟨draws.unscripted, rfl, Nat.le_succ _⟩
    have trackers := forall_mem_set (t := { t with props := s.props }) draws.keyed (bag ▸ own)
      w.currentPlace
    have stored : (w.withStore t s).Draws numbers first devices :=
      draws.onward trackers (List.Sublist.refl _) issued.1 issued.2.1 issued.2.2
    cases result with
    | error fault =>
      cases fault with
      | invalid report => exact stored.retracked trackers rfl rfl
      | _ => exact stored
    | ok e =>
      obtain ⟨trackers', ids, same | ⟨body, encoded, more⟩⟩ :=
        submit_cases (w.withStore t s) t .track e.wire.toValue callback
      · exact stored.retracked (trackers' ▸ trackers) (by rw [World.insertIds, same]; rfl) ids
      · obtain ⟨next, numbered⟩ := insertId?_of_compose (s := w.store t) own texts composed encoded
        refine draws.event (trackers' ▸ trackers) ?_ (ids.trans next)
        rw [insertIds_of_requests more, if_pos (isTracking_iff.2 rfl), numbered]
        rfl

/-! ### Calls and tasks -/

theorem lasting : World.Lasting (·.Draws numbers first devices) (·.props.TextKeyed) Value.TextKeyed where
  record draws _ := draws.retracked draws.keyed rfl rfl
  told draws _ := draws.retracked draws.keyed rfl rfl
  own draws current := draws.keyed _ (List.mem_of_getLast? current)
  nothing := trivial
  linked _ _ := rfl
  tracked draws own texts event callback := draws.attemptTrack own texts event callback
  engaged draws t payload callback := draws.engage t payload callback
  identified draws own id :=
    ⟨draws.withStore (Store.keyed_identify own id) (Store.Undrawn.identify _ id).ids,
      Store.keyed_identify own id⟩

theorem left (draws : w.Draws numbers first devices) {task : Task} {rest : List Task}
    (waits : w.queue = task :: rest) :
    ({ w with queue := rest } : World).Draws numbers first devices := by
  refine draws.undrawn draws.keyed ?_ rfl
  rw [World.insertIds, World.insertIds, World.requests, World.requests, waits]
  exact (((List.sublist_cons_self _ _).map _).append_left _ |>.filter _).map _

/-- A request that is posted is the one that waited; on a closed session it is lost. -/
theorem posted (draws : w.Draws numbers first devices) {task : Task} {rest : List Task}
    (waits : w.queue = task :: rest) (found : w.trackers[task.owner]? = some t) :
    let connected := ({ w with queue := rest } : World).openChannel task.owner t
    (connected.1.post t connected.2 task.url task.body).1.Draws numbers first devices := by
  obtain ⟨channel, session, sessions, traffic, opened⟩ :=
    exists_openChannel_eq (w := { w with queue := rest }) found
  have trackers := forall_mem_set (t := { t with channel := some channel, session }) draws.keyed
    (draws.keyed t (List.mem_of_getElem? found)) task.owner
  intro connected
  rw [show connected = _ from opened w.toDisk]
  obtain ⟨posts, replies, traffic', records, exchange, ⟨timeout, sends⟩, posted⟩ := exists_post_eq
    { w with
      queue := rest
      trackers := w.trackers.set task.owner { t with channel := some channel, session }
      sessions, traffic } t channel task.url task.body
  rw [show World.post _ t channel _ _ = _ from posted w.toDisk]
  refine draws.undrawn trackers ?_ rfl
  have kept : (w.posts ++ posts).map (fun post => (post.url, post.body)) ++ rest.map Task.request
      |>.Sublist w.requests := by
    rw [World.requests, waits, List.map_append, List.append_assoc]
    refine .append_left ?_ _
    rw [sends]
    split
    · exact .refl _
    · exact List.sublist_cons_self _ _
  exact (kept.filter _).map _

theorem running : World.Running (·.Draws numbers first devices) where
  left draws waits := draws.left waits
  posted draws waits found := draws.posted waits found
  finished draws _ := draws.retracked draws.keyed rfl rfl

/-! ### What is asked of a tracker -/

theorem close (draws : w.Draws numbers first devices) : w.close.Draws numbers first devices := by
  have flushed := lasting.flush running draws
  unfold World.close
  simp only
  split
  case h_1 => exact flushed
  case h_2 t current =>
    split
    · have own := flushed.keyed t (List.mem_of_getLast? current)
      exact flushed.retracked
        (forall_mem_set (t := { t with session := none, channel := none }) flushed.keyed own _) rfl rfl
    · exact flushed

/-- What is asked of a tracker, but for starting over, gives no device a number. -/
theorem perform (draws : w.Draws numbers first devices) (own : t.props.TextKeyed) {action : Action}
    (keyed : action.TextKeyed) (going : action ≠ .reset) :
    (action.perform w t).1.Draws numbers first devices := by
  cases action with
  | request call =>
    refine lasting.perform draws own (show call.properties.TextKeyed from ?_)
    cases call with
    | track => exact keyed
    | _ => trivial
  | register patch =>
    exact draws.withStore (Store.keyed_registerSuper own keyed) (Store.Undrawn.registerSuper _ _).ids
  | registerOnce patch =>
    exact draws.withStore (Store.keyed_registerSuperOnce own keyed)
      (Store.Undrawn.registerSuperOnce _ _).ids
  | unregister key =>
    exact draws.withStore (Store.keyed_unregisterSuper own key) (Store.Undrawn.unregisterSuper _ _).ids
  | reset => exact absurd rfl going
  | property | distinctId => exact draws
  | configure patch more =>
    simp only [Action.perform, Action.perform.answer, World.reconfigure]
    split
    case h_1 config _ => exact draws.setTracker (t := { t with config }) own _
    case h_2 config _ => exact draws.setTracker (t := { t with config }) own _
  | flush => exact lasting.flush running draws

/-- What is asked of the current tracker, if there is one, gives a device a number only if the
tracker starts over. -/
theorem handle (draws : w.Draws numbers first devices) {step : ClientStep}
    (keyed : ∀ action, step.action = .act action → action.TextKeyed)
    (going : step.action ≠ .act .reset) : (w.handle step).1.Draws numbers first devices := by
  have started : (w.during step).Draws numbers first devices := draws.retracked draws.keyed rfl rfl
  unfold World.handle
  split
  case h_2 => exact started
  case h_1 t current =>
    have own := draws.keyed t (List.mem_of_getLast? current)
    obtain ⟨looping, action⟩ := step
    cases action with
    | act action => exact started.perform own (keyed action rfl) fun same => going (same ▸ rfl)
    | setting | superProperties | surroundings => exact started
    | surround environment => exact started.setTracker (t := { t with environment }) own _
    | close => exact started.close

end World.Draws

/-! ## Starts -/

/-- The device id of the current tracker. -/
def World.deviceId? (w : World) : Option Value :=
  w.current?.bind fun t => t.props.text? deviceIdKey

/-- A world in which a device has got the next number after those that have been issued, and the
current tracker is that device. -/
structure World.Anew (numbers : Nat → Nat) (first : Nat) (devices : List Nat) (issued : Nat)
    (w : World) : Prop where
  draws : w.Draws numbers first (devices ++ [issued])
  device : w.deviceId? = some (.str (dashedId (numbers issued)))

namespace World.Draws

variable {numbers : Nat → Nat} {first : Nat} {devices : List Nat} {w w' : World} {t : Tracker}

/-- The current tracker is a new device once its store has entered the anonymous state. -/
theorem anew (draws : w.Draws numbers first devices) {s : Store} (ids : s.ids = w.ids)
    (trackers : ∀ t ∈ w'.trackers, t.props.TextKeyed) (requests : w'.insertIds = w.insertIds)
    (drawn : w'.ids = s.enterAnonymous.ids) (current : w'.current? = some t)
    (bag : t.props = s.enterAnonymous.props) : World.Anew numbers first devices w.ids.issued w' := by
  rw [Store.enterAnonymous_ids, ids] at drawn
  refine ⟨draws.device trackers requests drawn, ?_⟩
  rw [World.deviceId?, current, Option.bind_some, bag, Store.enterAnonymous_props, ids,
    Store.text?_overlay_deviceEntries, if_neg (by decide), if_pos rfl,
    IdSource.device_of_unscripted draws.unscripted, IdSource.next, draws.source]

theorem reset (draws : w.Draws numbers first devices) (current : w.current? = some t) :
    World.Anew numbers first devices w.ids.issued (w.withStore t (w.store t).reset) := by
  have ids : (w.store t).clear.ids = w.ids := (Store.Undrawn.clear _).ids
  have trackers := forall_mem_set (t := { t with props := (w.store t).reset.props }) draws.keyed
    Store.keyed_reset w.currentPlace
  exact draws.anew ids trackers rfl rfl (withStore_current current _) rfl

theorem connectedBy (draws : w.Draws numbers first devices) (connection : Connection) :
    (w.connectedBy connection).Draws numbers first devices := by
  cases connection <;> exact draws.retracked draws.keyed rfl rfl

section Joined

variable {s : Store} (token : Text) (config : Config) (environment : Option Environment)
  (connection : Connection)

theorem insertIds_joinedBy : (w.joinedBy token config environment connection s).insertIds =
    w.insertIds := by
  cases connection <;> rfl

theorem keyed_joinedBy (draws : w.Draws numbers first devices) (keyed : s.props.TextKeyed) :
    ∀ t ∈ (w.joinedBy token config environment connection s.ensureIdentity).trackers,
      t.props.TextKeyed :=
  List.forall_mem_append.2 ⟨draws.keyed,
    List.forall_mem_singleton.2 (Store.keyed_ensureIdentity keyed)⟩

/-- A tracker that joins with an identity takes no number. -/
theorem joined_named (draws : w.Draws numbers first devices) (keyed : s.props.TextKeyed)
    (ids : s.ids = w.ids) (named : Store.Named s.props) :
    (w.joinedBy token config environment connection s.ensureIdentity).Draws numbers first devices := by
  have trackers := draws.keyed_joinedBy token config environment connection keyed
  rw [Store.ensureIdentity_of_named named] at trackers ⊢
  exact draws.retracked trackers (insertIds_joinedBy token config environment connection) ids

theorem joined_anew (draws : w.Draws numbers first devices) (keyed : s.props.TextKeyed)
    (ids : s.ids = w.ids) (unnamed : ¬ Store.Named s.props) :
    World.Anew numbers first devices w.ids.issued
      (w.joinedBy token config environment connection s.ensureIdentity) := by
  have trackers := draws.keyed_joinedBy token config environment connection keyed
  rw [Store.ensureIdentity_of_not_named unnamed] at trackers ⊢
  have requests := insertIds_joinedBy (w := w) (s := s.enterAnonymous) token config environment
    connection
  exact draws.anew ids trackers requests rfl List.getLast?_concat rfl

end Joined

end World.Draws

end EventTracker
