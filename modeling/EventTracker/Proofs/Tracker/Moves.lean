import EventTracker.Proofs.Profile.Mutation
import EventTracker.Proofs.Store.Disks
import EventTracker.Proofs.Tracker.Calls
import EventTracker.Tracker.EventLoop

/-!
# Calls as moves

Apart from what `identify` does to the store, a call writes to the log, draws ids and
readings of the clock, schedules requests and tells callbacks. It does so in the same way
on every disk, and leaves the trackers, the storage and the files as they are
(`ComesTo`). Each request that it schedules is made by the current tracker as it stands.
-/

namespace EventTracker

/-- What calls do to a world, and tasks when they are finished. -/
inductive Move where
  | note (records : List LogRecord)
  | draw (ids : IdSource) (clock : Clock)
  | schedule (task : Task)
  | tell (label : String) (outcome : Outcome)
  | finish (number : Nat) (outcome : Outcome)

/-- The tasks that some moves schedule. -/
def Move.scheduled (moves : List Move) : List Task :=
  moves.filterMap fun move => match move with
    | .schedule task => some task
    | _ => none

theorem Move.scheduled_append (ms ms' : List Move) :
    scheduled (ms ++ ms') = scheduled ms ++ scheduled ms' :=
  List.filterMap_append

namespace World

/-- The world on another disk. -/
def onDisk (w : World) (d : Disk) : World :=
  { w with storage := d.storage, files := d.files, log := d.log }

def move (w : World) : Move → World
  | .note records => w.record records
  | .draw ids clock => { w with ids, clock }
  | .schedule task => { w with queue := w.queue ++ [task], created := w.created + 1 }
  | .tell label outcome => { w with deliveries := w.deliveries ++ [(label, outcome)] }
  | .finish number outcome => { w with finished := w.finished ++ [(number, outcome)] }

def moves (w : World) (moves : List Move) : World := moves.foldl World.move w

variable (w : World) (ms : List Move)

theorem moves_cons (m : Move) : w.moves (m :: ms) = (w.move m).moves ms := rfl

theorem moves_append (ms' : List Move) : w.moves (ms ++ ms') = (w.moves ms).moves ms' :=
  List.foldl_append

/-- What does not change with any move does not change with several. -/
theorem moves_eq {α : Type} {f : World → α} (kept : ∀ w m, f (move w m) = f w) :
    f (w.moves ms) = f w := by
  induction ms generalizing w with
  | nil => rfl
  | cons m rest ih => rw [moves_cons, ih, kept]

@[simp] theorem moves_trackers : (w.moves ms).trackers = w.trackers :=
  moves_eq w ms fun _ m => by cases m <;> rfl

@[simp] theorem moves_currentPlace : (w.moves ms).currentPlace = w.currentPlace := by
  rw [currentPlace, moves_trackers, ← currentPlace]

@[simp] theorem moves_storage : (w.moves ms).storage = w.storage :=
  moves_eq (f := fun w => w.storage) w ms fun _ m => by cases m <;> rfl

@[simp] theorem moves_files : (w.moves ms).files = w.files :=
  moves_eq (f := fun w => w.files) w ms fun _ m => by cases m <;> rfl

@[simp] theorem moves_sessions : (w.moves ms).sessions = w.sessions :=
  moves_eq w ms fun _ m => by cases m <;> rfl

@[simp] theorem moves_traffic : (w.moves ms).traffic = w.traffic :=
  moves_eq w ms fun _ m => by cases m <;> rfl

@[simp] theorem moves_replies : (w.moves ms).replies = w.replies :=
  moves_eq w ms fun _ m => by cases m <;> rfl

@[simp] theorem moves_posts : (w.moves ms).posts = w.posts :=
  moves_eq w ms fun _ m => by cases m <;> rfl

theorem moves_queue : (w.moves ms).queue = w.queue ++ Move.scheduled ms := by
  induction ms generalizing w with
  | nil => exact (List.append_nil _).symm
  | cons m rest ih =>
    rw [moves_cons, ih]
    cases m with
    | schedule task => exact List.append_assoc _ _ _
    | _ => rfl

/-- No disk has a say in what moves do. -/
theorem exists_moves_onDisk (d : Disk) : ∃ d', (w.onDisk d).moves ms = (w.moves ms).onDisk d' := by
  induction ms generalizing w d with
  | nil => exact ⟨d, rfl⟩
  | cons m rest ih =>
    obtain ⟨d', moved⟩ : ∃ d', (w.onDisk d).move m = (w.move m).onDisk d' := by
      cases m with
      | note records => exact ⟨{ d with log := d.log ++ records }, rfl⟩
      | _ => exact ⟨d, rfl⟩
    rw [moves_cons, moves_cons, moved]
    exact ih (w.move m) d'

end World

/-- An operation comes to moves and a result, whatever the disk, and what it schedules is made in a
certain way. -/
def ComesTo {α : Type} (made : Task → Prop) (w : World) (op : World → World × α) : Prop :=
  ∃ moves result, (∀ d, op (w.onDisk d) = ((w.onDisk d).moves moves, result)) ∧
    ∀ task ∈ Move.scheduled moves, made task

namespace ComesTo

variable {α β : Type} {made : Task → Prop} {w : World} {op : World → World × α}

theorem pure (made : Task → Prop) (w : World) (result : α) :
    ComesTo made w fun w => (w, result) :=
  ⟨[], result, fun _ => rfl, List.forall_mem_nil _⟩

theorem imp {made' : Task → Prop} (comes : ComesTo made w op)
    (sub : ∀ task, made task → made' task) : ComesTo made' w op := by
  obtain ⟨moves, result, same, scheduled⟩ := comes
  exact ⟨moves, result, same, fun task mem => sub task (scheduled task mem)⟩

theorem noted (records : List LogRecord) (later : ComesTo made (w.record records) op) :
    ComesTo made w fun w => op (w.record records) := by
  obtain ⟨moves, result, same, scheduled⟩ := later
  exact ⟨.note records :: moves, result, fun d => same { d with log := d.log ++ records }, scheduled⟩

/-- One operation after another. -/
theorem bind {g : α → World → World × β} (first : ComesTo made w op)
    (later : ∀ moves result, ComesTo made (w.moves moves) (g result)) :
    ComesTo made w fun w => g (op w).2 (op w).1 := by
  obtain ⟨moves, result, same, scheduled⟩ := first
  obtain ⟨moves', result', same', scheduled'⟩ := later moves result
  refine ⟨moves ++ moves', result', fun d => ?_, fun task mem => ?_⟩
  · obtain ⟨d', moved⟩ := w.exists_moves_onDisk moves d
    simp only [same, World.moves_append, moved]
    exact same' d'
  · rw [Move.scheduled_append] at mem
    exact (List.mem_append.1 mem).elim (scheduled task) (scheduled' task)

end ComesTo

/-- What an operation that comes to moves does is a matter of moves. -/
theorem ComesTo.exists_moves {α : Type} {made : Task → Prop} {w : World} {op : World → World × α}
    (comes : ComesTo made w op) : ∃ moves, (op w).1 = w.moves moves := by
  obtain ⟨moves, result, same, -⟩ := comes
  exact ⟨moves, congrArg Prod.fst (same w.toDisk)⟩

/-! ## Requests -/

/-- The distinct id in a tracker's bag. -/
def Tracker.distinctId (t : Tracker) : Text :=
  match t.props.text? distinctIdKey with
  | some (.str id) => id
  | _ => ""

theorem Store.distinctId_of_props {s : Store} {t : Tracker} (same : s.props = t.props) :
    s.distinctId = t.distinctId := by
  show (match s.props.text? distinctIdKey with
    | some (.str id) => id
    | _ => "") = t.distinctId
  rw [same, Tracker.distinctId]

/-- What a tracker can send: an event composed of its bag and of what the caller gives, or a change
to the profile of its user. -/
inductive Sendable (t : Tracker) (given : Value) : Endpoint → Value → Prop where
  | event {s s' : Store} {name : Value} {e : Event} (bag : s.props = t.props)
    (composed : s.compose t.token t.environment name given = (s', .ok e)) :
    Sendable t given .track e.wire.toValue
  | mutation {s : Store} {m : ProfileMutation} (bag : s.props = t.props)
    (user : s.distinctId = .plain m.distinctId) : Sendable t given .engage m.wire.toValue

/-- A request of the tracker at a place: it goes to an endpoint where the configuration points,
and carries what the tracker can send, cut and encoded. -/
structure Task.Carries (t : Tracker) (place : Nat) (endpoint : Endpoint) (given callback : Value)
    (task : Task) : Prop where
  owner : task.owner = place
  goal : task.endpoint = endpoint
  listener : task.callback = callback
  url : task.url = t.config.apiHost ++ endpoint.path ++ "/"
  body : ∃ payload, Sendable t given endpoint payload ∧
    encodeBody (truncate maxTextLength payload) = .ok task.body

/-- A request that a listener brings about: an event without properties, of which nobody is told. -/
def Task.Echoes (t : Tracker) (place : Nat) (listener : Value) (task : Task) : Prop :=
  listener ≠ .null ∧ task.Carries t place .track .null .null

/-- A request of a call, or one that the call's listener brings about. -/
def Task.MadeBy (t : Tracker) (place : Nat) (endpoint : Endpoint) (given listener : Value)
    (task : Task) : Prop :=
  task.Carries t place endpoint given listener ∨ task.Echoes t place listener

variable {t : Tracker} {w : World} {given : Value}

theorem comesTo_submit {endpoint : Endpoint} {payload : Value}
    (sendable : Sendable t given endpoint payload) (w : World) (callback : Value) :
    ComesTo (Task.Carries t w.currentPlace endpoint given callback) w fun w =>
      w.submit t endpoint payload callback := by
  unfold ComesTo World.submit truncated
  split
  case h_1 => exact ⟨[], _, fun d => rfl, List.forall_mem_nil _⟩
  case h_2 cut shallow =>
    obtain rfl : truncate maxTextLength payload = cut := by
      split at shallow <;> cases shallow
      rfl
    cases encoded : encodeBody (truncate maxTextLength payload) with
    | error cause => exact ⟨[.note _], _, fun d => rfl, List.forall_mem_nil _⟩
    | ok body =>
      let task : Task :=
        { number := w.created, owner := w.currentPlace, endpoint, body, callback
          url := t.config.apiHost ++ endpoint.path ++ "/" }
      cases looping : w.looping with
      | true =>
        exact ⟨[.note _, .schedule task], .ok (.ok w.created), fun d => (if_pos looping).trans rfl,
          List.forall_mem_singleton.2 ⟨rfl, rfl, rfl, rfl, payload, sendable, encoded⟩⟩
      | false =>
        have idle : ¬ w.looping = true := by rw [looping]; decide
        exact ⟨[.note _, .note _], .ok (.error _), fun d => (if_neg idle).trans rfl,
          List.forall_mem_nil _⟩

/-- The current tracker stands in its place. -/
theorem set_current (current : w.current? = some t) :
    w.trackers.set w.currentPlace t = w.trackers := by
  obtain ⟨trackers, last⟩ := List.getLast?_eq_some_iff.1 current
  rw [World.currentPlace, last]
  simp

theorem setTracker_current (current : w.current? = some t) (t' : Tracker) :
    (w.setTracker w.currentPlace t').current? = some t' := by
  obtain ⟨trackers, last⟩ := List.getLast?_eq_some_iff.1 current
  rw [World.current?, World.setTracker, World.currentPlace, last]
  simp

theorem withStore_current (current : w.current? = some t) (s : Store) :
    (w.withStore t s).current? = some { t with props := s.props } :=
  setTracker_current current _

theorem withStore_drawn (current : w.current? = some t) (ids : IdSource) (clock : Clock)
    (d : Disk) :
    (w.onDisk d).withStore t (({ w.store t with ids, clock } : Store).onDisk d) =
      (w.onDisk d).move (.draw ids clock) := by
  have same : (w.onDisk d).trackers.set (w.onDisk d).currentPlace t = w.trackers :=
    set_current current
  calc (w.onDisk d).withStore t (({ w.store t with ids, clock } : Store).onDisk d)
      = { (w.onDisk d).move (.draw ids clock) with
          trackers := (w.onDisk d).trackers.set (w.onDisk d).currentPlace t } := rfl
    _ = (w.onDisk d).move (.draw ids clock) := by rw [same]; rfl

theorem comesTo_attemptTrack (current : w.current? = some t) (event properties callback : Value) :
    ComesTo (Task.Carries t w.currentPlace .track properties callback) w fun w =>
      w.attemptTrack t event properties callback := by
  obtain ⟨ids, clock, composed, same⟩ := (w.store t).exists_composeFor_eq (w.store t).distinctId
    t.token t.environment event properties
  have same (d : Disk) : ((w.onDisk d).store t).compose t.token t.environment event properties =
    (({ w.store t with ids, clock } : Store).onDisk d, composed) := same d
  unfold ComesTo World.attemptTrack
  simp only [same]
  cases composed with
  | ok e =>
    simp only [withStore_drawn current]
    have sendable : Sendable t properties .track e.wire.toValue :=
      .event (s := (w.onDisk w.toDisk).store t) rfl (same w.toDisk)
    obtain ⟨moves, result, submitted, made⟩ :=
      comesTo_submit sendable (w.move (.draw ids clock)) callback
    exact ⟨.draw ids clock :: moves, result, submitted, made⟩
  | error fault =>
    cases fault with
    | invalid report =>
      simp only [withStore_drawn current]
      exact ⟨[.draw ids clock, .note _], _, fun d => rfl, List.forall_mem_nil _⟩
    | _ =>
      simp only [withStore_drawn current]
      exact ⟨[.draw ids clock], _, fun d => rfl, List.forall_mem_nil _⟩

/-! ## Callbacks -/

theorem comesTo_trackUnheard (current : w.current? = some t) (event : String) :
    ComesTo (Task.Carries t w.currentPlace .track .null .null) w fun w => w.trackUnheard event := by
  obtain ⟨moves, result, attempted, made⟩ :=
    comesTo_attemptTrack current (.str event) .null .null
  have current (d : Disk) : (w.onDisk d).current? = some t := current
  refine ⟨moves, result.map fun _ => (), fun d => ?_, made⟩
  have attempted : (w.onDisk d).attemptTrack t (.str event) .null .null = _ := attempted d
  simp only [World.trackUnheard, current, attempted]

/-- Telling a listener comes to moves, whatever the listener does. -/
theorem comesTo_deliver (current : w.current? = some t) (listener : Value) (outcome : Outcome) :
    ComesTo (Task.Echoes t w.currentPlace listener) w fun w => (w.deliver listener outcome, ()) := by
  cases listener with
  | null => exact ⟨[], (), fun d => rfl, List.forall_mem_nil _⟩
  | callback c =>
    obtain ⟨label, reaction, mark⟩ := c
    cases reaction with
    | settle => exact ⟨[.tell label outcome], (), fun d => rfl, List.forall_mem_nil _⟩
    | fail => exact ⟨[.tell label outcome, .note _], (), fun d => rfl, List.forall_mem_nil _⟩
    | track event =>
      obtain ⟨moves, result, tracked, made⟩ :=
        comesTo_trackUnheard (w := w.move (.tell label outcome)) current event
      have tracked (d : Disk) : World.trackUnheard
          { w.onDisk d with deliveries := (w.onDisk d).deliveries ++ [(label, outcome)] } event = _ :=
        tracked d
      have echoes : ∀ task ∈ Move.scheduled moves,
          task.Echoes t w.currentPlace (.callback ⟨label, .track event, mark⟩) :=
        fun task mem => ⟨nofun, made task mem⟩
      unfold ComesTo World.deliver
      simp only [tracked]
      cases result with
      | ok done => exact ⟨.tell label outcome :: moves, (), fun d => rfl, echoes⟩
      | error fault =>
        let failed : LogRecord := ⟨.client, .debug, "Request callback failed", [], true⟩
        refine ⟨.tell label outcome :: moves ++ [.note [failed]], (), fun d => ?_, ?_⟩
        · rw [World.moves_append]
          rfl
        · rw [Move.scheduled_append]
          exact (List.append_nil _).symm ▸ echoes
  | _ => exact ⟨[.note _], (), fun d => rfl, List.forall_mem_nil _⟩

/-! ## Calls -/

theorem current_moves (current : w.current? = some t) (moves : List Move) :
    (w.moves moves).current? = some t := by
  rw [World.current?, World.moves_trackers]
  exact current

theorem comesTo_refuse (current : w.current? = some t) (endpoint : Endpoint)
    (given listener : Value) (error : TrackerError) :
    ComesTo (Task.MadeBy t w.currentPlace endpoint given listener) w fun w =>
      w.refuse listener error := by
  obtain ⟨moves, result, same, made⟩ := comesTo_deliver current listener (.failed error)
  refine ⟨moves, .ok none, fun d => ?_, fun task mem => Or.inr (made task mem)⟩
  have told : (w.onDisk d).deliver listener (.failed error) = (w.onDisk d).moves moves :=
    congrArg Prod.fst (same d)
  simp only [World.refuse, told]

theorem comesTo_settled {op : World → World × Except Fault (Except TrackerError Nat)}
    {endpoint : Endpoint} {listener : Value} (current : w.current? = some t)
    (attempt : ComesTo (Task.Carries t w.currentPlace endpoint given listener) w op) :
    ComesTo (Task.MadeBy t w.currentPlace endpoint given listener) w fun w =>
      settled listener (op w) := by
  refine (attempt.imp fun _ => Or.inl).bind (g := fun result w => settled listener (w, result))
    fun moves result => ?_
  cases result with
  | error fault => exact .pure _ _ (Except.error fault : Except Fault (Option Nat))
  | ok result =>
    cases result with
    | ok n => exact .pure _ _ (Except.ok (some n) : Except Fault (Option Nat))
    | error error =>
      have refused := comesTo_refuse (current_moves current moves) endpoint given listener error
      rwa [World.moves_currentPlace] at refused

theorem comesTo_withDistinctId (current : w.current? = some t) (endpoint : Endpoint) (given : Value)
    (method : String) (listener : Value) {g : World → Text → World.Sent}
    (going : ComesTo (Task.MadeBy t w.currentPlace endpoint given listener) w fun w' =>
      g w' (w.store t).distinctId) :
    ComesTo (Task.MadeBy t w.currentPlace endpoint given listener) w fun w =>
      w.withDistinctId t method listener (g w) := by
  by_cases anonymous : (w.store t).distinctId = ""
  · have refused := (comesTo_refuse (w := w.record [.failure .people t.debug
      "people.%s() called before identify" [.value (.str method)] false]) current endpoint given
      listener .noDistinctId).noted
    obtain ⟨moves, result, same, made⟩ := refused
    exact ⟨moves, result, fun d => (if_pos anonymous).trans (same d), made⟩
  · obtain ⟨moves, result, same, made⟩ := going
    exact ⟨moves, result, fun d => (if_neg anonymous).trans (same d), made⟩

/-- What a call on a profile comes to. -/
abbrev ComesToEngage (t : Tracker) (listener : Value) (w : World) (op : World → World.Sent) :
    Prop :=
  ComesTo (Task.MadeBy t w.currentPlace .engage .null listener) w op

theorem comesTo_mutate (current : w.current? = some t) (method : String) (listener : Value)
    (operation : Field) (other : operation.name ≠ "$distinct_id") (operand : Value) :
    ComesToEngage t listener w fun w => w.mutate t method listener operation operand := by
  refine comesTo_withDistinctId current .engage .null method listener (g := fun w id => _) ?_
  cases checked : ProfileMutation.schema.checkFields
      [(.str ProfileMutation.tokenField.name, .str t.token),
       (.str ProfileMutation.distinctIdField.name, .str (w.store t).distinctId),
       (.str operation.name, operand)] with
  | error report =>
    exact (comesTo_refuse (w := w.record [_]) current .engage .null listener _).noted _
  | ok mutation =>
    have user := ProfileMutation.distinctId_of_checkFields other checked
    have sendable : Sendable t .null .engage mutation.wire.toValue :=
      .mutation (s := w.store t) rfl user
    exact comesTo_settled current (comesTo_submit sendable w listener)

theorem comesTo_withProperties (current : w.current? = some t) (method : String) (prop : Value)
    (value : Option Value) (callback : Value)
    {g : World → (properties callback : Value) → World.Sent}
    (going : ∀ properties listener, ComesToEngage t listener w fun w => g w properties listener) :
    ComesToEngage t (profileListener prop value callback) w fun w =>
      w.withProperties method prop value callback (g w) := by
  unfold World.withProperties
  cases prop with
  | map entries =>
    cases value with
    | none => exact going _ _
    | some v =>
      cases callable : v.callable with
      | true =>
        simp only [profileListener, callable, if_true]
        exact going _ _
      | false =>
        simp only [profileListener, callable, Bool.false_eq_true, if_false]
        exact comesTo_refuse current .engage .null callback _
  | _ =>
    cases value with
    | none =>
      simp only [profileListener]
      split
      · exact comesTo_refuse current .engage .null callback _
      · exact .pure _ w _
    | some v =>
      simp only [profileListener]
      split
      · exact going _ _
      · exact .pure _ w _

theorem comesTo_unsetProfile (current : w.current? = some t) (prop callback : Value) :
    ComesToEngage t callback w fun w => w.unsetProfile t prop callback := by
  unfold World.unsetProfile
  simp only
  split
  · exact comesTo_mutate current "unset" callback _ (by decide) _
  · exact .pure _ w _

theorem comesTo_incrementProfile (current : w.current? = some t) (prop amount callback : Value) :
    ComesToEngage t (if amount.callable then amount else callback) w fun w =>
      w.incrementProfile t prop amount callback := by
  unfold World.incrementProfile
  cases prop with
  | map entries =>
    cases amount with
    | null | callback c => exact comesTo_mutate current "increment" _ _ (by decide) _
    | _ => exact comesTo_refuse current .engage .null callback _
  | _ =>
    simp only
    generalize (if amount.callable = true then amount else callback) = listener
    split
    · exact comesTo_mutate current "increment" listener _ (by decide) _
    · exact .pure _ w _

theorem comesTo_trackCharge (current : w.current? = some t) (amount properties callback : Value) :
    ComesToEngage t (if properties.callable then properties else callback) w fun w =>
      w.trackCharge t amount properties callback := by
  unfold World.trackCharge
  simp only [arguments_eq]
  generalize (if properties.callable = true then properties else callback) = listener
  refine comesTo_withDistinctId current .engage .null "track_charge" listener (g := fun w _ => _) ?_
  split
  · exact .pure _ w _
  · split
    · exact (comesTo_refuse (w := w.record [_]) current .engage .null listener _).noted _
    · exact (ComesTo.pure _ (w.record [_]) _).noted _
  · split
    · exact .pure _ w _
    · exact comesTo_mutate current "track_charge" listener _ (by decide) _

theorem comesTo_track (current : w.current? = some t) (event properties callback : Value) :
    ComesTo (Task.MadeBy t w.currentPlace .track (givenProperties properties)
      (if properties.callable then properties else callback)) w fun w =>
        w.track t event properties callback := by
  unfold World.track
  simp only [arguments_eq]
  exact comesTo_settled current (comesTo_attemptTrack current event (givenProperties properties) _)

namespace ClientCall

/-- Where the request of a call goes to. -/
def endpoint : ClientCall → Endpoint
  | .track _ _ _ | .identify _ _ => .track
  | _ => .engage

/-- The properties that a caller gives to an event. -/
def properties : ClientCall → Value
  | .track _ properties _ => givenProperties properties
  | _ => .null

end ClientCall

/-- Every call but `identify` comes to moves. -/
theorem comesTo_perform (current : w.current? = some t) (call : ClientCall)
    (anonymous : ∀ id callback, call ≠ .identify id callback) :
    ComesTo (Task.MadeBy t w.currentPlace call.endpoint call.properties call.listener) w fun w =>
      call.perform w t := by
  cases call with
  | track event properties callback => exact comesTo_track current event properties callback
  | identify id callback => exact absurd rfl (anonymous id callback)
  | set prop value callback =>
    exact comesTo_withProperties current "set" prop value callback fun properties listener =>
      comesTo_mutate current "set" listener ProfileMutation.setField (by decide) properties
  | setOnce prop value callback =>
    exact comesTo_withProperties current "set_once" prop value callback fun properties listener =>
      comesTo_mutate current "set_once" listener ProfileMutation.setOnceField (by decide) properties
  | unset prop callback => exact comesTo_unsetProfile current prop callback
  | increment prop amount callback => exact comesTo_incrementProfile current prop amount callback
  | charge amount properties callback => exact comesTo_trackCharge current amount properties callback

end EventTracker
