import EventTracker.Proofs.Store.Logging
import EventTracker.Proofs.Tracker.Calls
import Mathlib.Data.List.Forall2

/-!
# Worlds that differ in which callbacks fail

Two worlds are alike if they agree in all but their logs and the callbacks that fail in
one of them and merely record in the other. Calls whose listeners differ in no more than
that keep worlds alike and return the same: the failure of a callback ends in the log.
-/

namespace EventTracker

/-! ## What is alike -/

/-- Listeners that are the same up to the failing of callbacks that do nothing else. -/
inductive Value.Alike : Value → Value → Prop where
  | same (listener : Value) : Alike listener listener
  | fails (label : String) (mark : Nat) :
    Alike (.callback ⟨label, .settle, mark⟩) (.callback ⟨label, .fail, mark⟩)
  | settles (label : String) (mark : Nat) :
    Alike (.callback ⟨label, .fail, mark⟩) (.callback ⟨label, .settle, mark⟩)

/-- Calls that are the same up to the failing of listeners. A mapping given to `set` or `setOnce`
may be followed by the listener in the place of the value. -/
inductive ClientCall.Alike : ClientCall → ClientCall → Prop where
  | track {event properties properties' callback callback' : Value}
    (instead : properties.Alike properties') (last : callback.Alike callback') :
    Alike (.track event properties callback) (.track event properties' callback')
  | identify {id callback callback' : Value} (last : callback.Alike callback') :
    Alike (.identify id callback) (.identify id callback')
  | set {prop callback callback' : Value} {value : Option Value} (last : callback.Alike callback') :
    Alike (.set prop value callback) (.set prop value callback')
  | setEntries {entries : Mapping} {value value' callback callback' : Value}
    (instead : value.Alike value') (last : callback.Alike callback') :
    Alike (.set (.map entries) (some value) callback) (.set (.map entries) (some value') callback')
  | setOnce {prop callback callback' : Value} {value : Option Value}
    (last : callback.Alike callback') :
    Alike (.setOnce prop value callback) (.setOnce prop value callback')
  | setOnceEntries {entries : Mapping} {value value' callback callback' : Value}
    (instead : value.Alike value') (last : callback.Alike callback') :
    Alike (.setOnce (.map entries) (some value) callback)
      (.setOnce (.map entries) (some value') callback')
  | unset {prop callback callback' : Value} (last : callback.Alike callback') :
    Alike (.unset prop callback) (.unset prop callback')
  | increment {prop amount amount' callback callback' : Value} (instead : amount.Alike amount')
    (last : callback.Alike callback') :
    Alike (.increment prop amount callback) (.increment prop amount' callback')
  | charge {amount properties properties' callback callback' : Value}
    (instead : properties.Alike properties') (last : callback.Alike callback') :
    Alike (.charge amount properties callback) (.charge amount properties' callback')

/-- Tasks that are the same up to the failing of their listeners. -/
inductive Task.Alike : Task → Task → Prop where
  | listener {task : Task} {callback : Value} (alike : task.callback.Alike callback) :
    Alike task { task with callback }

/-- Worlds that are the same but for their logs and the failing of the listeners that wait. -/
def World.Alike (w v : World) : Prop :=
  ∃ log queue, List.Forall₂ Task.Alike w.queue queue ∧ v = { w with log, queue }

/-- Results that are the same, in worlds that are alike. -/
def Agree {α : Type} (result result' : World × α) : Prop :=
  result.1.Alike result'.1 ∧ result.2 = result'.2

theorem Value.Alike.callable_eq {v v' : Value} (alike : v.Alike v') : v.callable = v'.callable := by
  cases alike <;> rfl

/-- What cannot be called is alike only to itself. -/
theorem Value.Alike.eq_of_not_callable {v v' : Value} (alike : v.Alike v')
    (data : v.callable = false) : v' = v := by
  cases alike with
  | same => rfl
  | fails | settles => cases data

theorem Task.Alike.refl (task : Task) : task.Alike task := .listener (.same _)

namespace World.Alike

variable {w v : World}

theorem refl (w : World) : w.Alike w :=
  ⟨w.log, w.queue, List.forall₂_same.2 fun task _ => .refl task, rfl⟩

theorem record (alike : w.Alike v) (records records' : List LogRecord) :
    (w.record records).Alike (v.record records') := by
  obtain ⟨log, queue, tasks, rfl⟩ := alike
  exact ⟨_, queue, tasks, rfl⟩

theorem looping (alike : w.Alike v) (looping : Bool) :
    ({ w with looping } : World).Alike { v with looping } := by
  obtain ⟨log, queue, tasks, rfl⟩ := alike
  exact ⟨log, queue, tasks, rfl⟩

theorem deliveries (alike : w.Alike v) (told : List (String × Outcome)) :
    ({ w with deliveries := w.deliveries ++ told } : World).Alike
      { v with deliveries := v.deliveries ++ told } := by
  obtain ⟨log, queue, tasks, rfl⟩ := alike
  exact ⟨log, queue, tasks, rfl⟩

theorem current?_eq (alike : w.Alike v) : v.current? = w.current? := by
  obtain ⟨log, queue, tasks, rfl⟩ := alike
  rfl

theorem distinctId_eq (alike : w.Alike v) (t : Tracker) :
    (v.store t).distinctId = (w.store t).distinctId := by
  obtain ⟨log, queue, tasks, rfl⟩ := alike
  rfl

end World.Alike

/-! ## Requests -/

variable {w v : World} {listener listener' : Value}

theorem agree_submit (alike : w.Alike v) (t : Tracker) (endpoint : Endpoint) (payload : Value)
    (listeners : listener.Alike listener') :
    Agree (w.submit t endpoint payload listener) (v.submit t endpoint payload listener') := by
  obtain ⟨log, queue, tasks, rfl⟩ := alike
  unfold World.submit
  cases truncated maxTextLength payload with
  | error kind => exact ⟨⟨log, queue, tasks, rfl⟩, rfl⟩
  | ok payload =>
    simp only
    cases encodeBody payload with
    | error cause => exact ⟨⟨_, queue, tasks, rfl⟩, rfl⟩
    | ok body =>
      simp only
      split
      case isTrue =>
        refine ⟨⟨_, _, List.rel_append tasks ?_, rfl⟩, rfl⟩
        exact .cons (.listener listeners) .nil
      case isFalse => exact ⟨⟨_, queue, tasks, rfl⟩, rfl⟩

theorem agree_attemptTrack (alike : w.Alike v) (t : Tracker) (event properties : Value)
    (listeners : listener.Alike listener') :
    Agree (w.attemptTrack t event properties listener)
      (v.attemptTrack t event properties listener') := by
  obtain ⟨log, queue, tasks, rfl⟩ := alike
  unfold World.attemptTrack
  have same := (w.store t).compose_withLog log t.token t.environment event properties
  rw [show ({ w with log, queue } : World).store t = { w.store t with log } from rfl, same]
  obtain ⟨s, composed⟩ := (w.store t).compose t.token t.environment event properties
  have stored : (w.withStore t s).Alike
      (({ w with log, queue } : World).withStore t { s with log }) := ⟨log, queue, tasks, rfl⟩
  cases composed with
  | ok composed => exact agree_submit stored t .track composed.wire.toValue listeners
  | error fault =>
    cases fault with
    | invalid report =>
      exact ⟨stored.record _ _, rfl⟩
    | _ => exact ⟨stored, rfl⟩

/-! ## Callbacks -/

theorem agree_trackUnheard (alike : w.Alike v) (event : String) :
    Agree (w.trackUnheard event) (v.trackUnheard event) := by
  unfold World.trackUnheard
  rw [alike.current?_eq]
  cases w.current? with
  | none => exact ⟨alike, rfl⟩
  | some t =>
    obtain ⟨worlds, results⟩ := agree_attemptTrack alike t (.str event) .null (.same .null)
    exact ⟨worlds, congrArg (Except.map fun _ => ()) results⟩

theorem echoing_alike : World.Echoing World.Alike Eq where
  refl _ := rfl
  record alike records := alike.record records records
  told alike label _ _ same := same ▸ alike.deliveries [(label, _)]
  tracked alike event :=
    have agree := agree_trackUnheard alike event
    ⟨agree.1, agree.2.symm⟩

/-- Listeners that are alike leave worlds alike when they are told the same. -/
theorem World.Alike.deliver (alike : w.Alike v) (listeners : listener.Alike listener')
    (outcome : Outcome) : (w.deliver listener outcome).Alike (v.deliver listener' outcome) := by
  cases listeners with
  | fails label mark | settles label mark =>
    obtain ⟨log, queue, tasks, rfl⟩ := alike
    exact ⟨_, queue, tasks, rfl⟩
  | same => exact echoing_alike.deliver alike listener rfl

theorem agree_settle (alike : w.Alike v) (listeners : listener.Alike listener')
    (result : Except TrackerError Nat) :
    Agree (w.settle listener result) (v.settle listener' result) := by
  cases result with
  | ok n => exact ⟨alike, rfl⟩
  | error error => exact ⟨alike.deliver listeners _, rfl⟩

theorem agree_refuse (alike : w.Alike v) (listeners : listener.Alike listener')
    (error : TrackerError) : Agree (w.refuse listener error) (v.refuse listener' error) :=
  ⟨alike.deliver listeners _, rfl⟩

/-- Attempts that agree still do when their failures are told. -/
theorem agree_settled {attempt attempt' : World × Except Fault (Except TrackerError Nat)}
    (agree : Agree attempt attempt') (listeners : listener.Alike listener') :
    Agree (settled listener attempt) (settled listener' attempt') := by
  obtain ⟨w₁, result⟩ := attempt
  obtain ⟨v₁, result'⟩ := attempt'
  obtain ⟨worlds, same⟩ := agree
  obtain rfl : result = result' := same
  cases result with
  | error fault => exact ⟨worlds, rfl⟩
  | ok result =>
    obtain ⟨told, numbers⟩ := agree_settle worlds listeners result
    exact ⟨told, congrArg Except.ok numbers⟩

/-! ## Calls -/

theorem agree_withDistinctId (alike : w.Alike v) (t : Tracker) (method : String)
    (listeners : listener.Alike listener') {go go' : Text → World.Sent}
    (going : ∀ id, Agree (go id) (go' id)) :
    Agree (w.withDistinctId t method listener go) (v.withDistinctId t method listener' go') := by
  unfold World.withDistinctId
  rw [alike.distinctId_eq]
  simp only
  split
  · exact agree_refuse (alike.record _ _) listeners .noDistinctId
  · exact going _

theorem agree_mutate (alike : w.Alike v) (t : Tracker) (method : String)
    (listeners : listener.Alike listener') (operation : Field) (operand : Value) :
    Agree (w.mutate t method listener operation operand)
      (v.mutate t method listener' operation operand) := by
  refine agree_withDistinctId alike t method listeners fun id => ?_
  simp only
  split
  · exact agree_refuse (alike.record _ _) listeners _
  · exact agree_settled (agree_submit alike t .engage _ listeners) listeners

theorem agree_withProperties (alike : w.Alike v) (method : String) (prop : Value)
    (value : Option Value) {callback callback' : Value} (last : callback.Alike callback')
    {go go' : (properties callback : Value) → World.Sent}
    (going : ∀ properties {listener listener' : Value}, listener.Alike listener' →
      Agree (go properties listener) (go' properties listener')) :
    Agree (w.withProperties method prop value callback go)
      (v.withProperties method prop value callback' go') := by
  unfold World.withProperties
  split
  · split
    · exact going _ last
    · split
      · exact going _ (.same _)
      · exact agree_refuse alike last _
  · split
    · split
      · exact agree_refuse alike last _
      · exact ⟨alike, rfl⟩
    · split
      · exact going _ last
      · exact ⟨alike, rfl⟩

/-- With a mapping the value, too, may be a listener. -/
theorem agree_withProperties_map (alike : w.Alike v) (method : String) (entries : Mapping)
    {value value' callback callback' : Value} (instead : value.Alike value')
    (last : callback.Alike callback') {go go' : (properties callback : Value) → World.Sent}
    (going : ∀ properties {listener listener' : Value}, listener.Alike listener' →
      Agree (go properties listener) (go' properties listener')) :
    Agree (w.withProperties method (.map entries) (some value) callback go)
      (v.withProperties method (.map entries) (some value') callback' go') := by
  unfold World.withProperties
  simp only [instead.callable_eq]
  split
  · exact going _ instead
  · exact agree_refuse alike last _

/-- Of an argument that may be the listener, what counts besides is the same. -/
theorem Value.Alike.select {value value' callback callback' : Value}
    (instead : value.Alike value') (last : callback.Alike callback') :
    (if value.callable then value else callback).Alike
      (if value'.callable then value' else callback') := by
  rw [← instead.callable_eq]
  split
  · exact instead
  · exact last

theorem agree_incrementProfile (alike : w.Alike v) (t : Tracker) (prop : Value)
    {amount amount' callback callback' : Value} (instead : amount.Alike amount')
    (last : callback.Alike callback') :
    Agree (w.incrementProfile t prop amount callback)
      (v.incrementProfile t prop amount' callback') := by
  have listeners := instead.select last
  unfold World.incrementProfile
  simp only
  generalize (if amount.callable = true then amount else callback) = listener at listeners ⊢
  generalize (if amount'.callable = true then amount' else callback') = listener' at listeners ⊢
  cases prop with
  | map entries =>
    cases instead with
    | same =>
      cases amount with
      | null | callback c => exact agree_mutate alike t "increment" listeners _ _
      | _ => exact agree_refuse alike last _
    | fails | settles => exact agree_mutate alike t "increment" listeners _ _
  | _ =>
    cases instead with
    | same =>
      simp only
      split
      · exact agree_mutate alike t "increment" listeners _ _
      · exact ⟨alike, rfl⟩
    | fails | settles =>
      simp only
      split
      · exact agree_mutate alike t "increment" listeners _ _
      · exact ⟨alike, rfl⟩

/-- Arguments of which the first may be the listener, as they are taken. -/
theorem Value.Alike.arguments {properties properties' callback callback' : Value}
    (instead : properties.Alike properties') (last : callback.Alike callback') :
    ∃ data, ∃ listener listener' : Value, listener.Alike listener' ∧
      (if properties.callable then (Value.null, properties) else (properties, callback)) =
        (data, listener) ∧
      (if properties'.callable then (Value.null, properties') else (properties', callback')) =
        (data, listener') := by
  cases callable : properties.callable with
  | true =>
    refine ⟨.null, properties, properties', instead, rfl, ?_⟩
    rw [← instead.callable_eq, callable]
    rfl
  | false =>
    refine ⟨properties, callback, callback', last, rfl, ?_⟩
    rw [instead.eq_of_not_callable callable, callable]
    rfl

theorem agree_trackCharge (alike : w.Alike v) (t : Tracker) (amount : Value)
    {properties properties' callback callback' : Value} (instead : properties.Alike properties')
    (last : callback.Alike callback') :
    Agree (w.trackCharge t amount properties callback)
      (v.trackCharge t amount properties' callback') := by
  obtain ⟨data, listener, listener', listeners, taken, taken'⟩ := instead.arguments last
  unfold World.trackCharge
  rw [taken, taken']
  refine agree_withDistinctId alike t "track_charge" listeners fun id => ?_
  split
  · exact ⟨alike, rfl⟩
  · split
    · exact agree_refuse (alike.record _ _) listeners _
    · exact ⟨alike.record _ _, rfl⟩
  · split
    · exact ⟨alike, rfl⟩
    · exact agree_mutate alike t "track_charge" listeners _ _

theorem agree_unsetProfile (alike : w.Alike v) (t : Tracker) (prop : Value)
    {callback callback' : Value} (last : callback.Alike callback') :
    Agree (w.unsetProfile t prop callback) (v.unsetProfile t prop callback') := by
  unfold World.unsetProfile
  simp only
  split
  · exact agree_mutate alike t "unset" last _ _
  · exact ⟨alike, rfl⟩

theorem agree_track (alike : w.Alike v) (t : Tracker) (event : Value)
    {properties properties' callback callback' : Value} (instead : properties.Alike properties')
    (last : callback.Alike callback') :
    Agree (w.track t event properties callback) (v.track t event properties' callback') := by
  obtain ⟨data, listener, listener', listeners, taken, taken'⟩ := instead.arguments last
  unfold World.track
  rw [taken, taken']
  exact agree_settled (agree_attemptTrack alike t event data listeners) listeners

theorem agree_identify (alike : w.Alike v) (t : Tracker) (id : Value) {callback callback' : Value}
    (last : callback.Alike callback') :
    Agree (w.identify t id callback) (v.identify t id callback') := by
  obtain ⟨log, queue, tasks, rfl⟩ := alike
  unfold World.identify
  obtain ⟨log', same⟩ := (w.store t).exists_identify_withLog log id
  rw [show ({ w with log, queue } : World).store t = { w.store t with log } from rfl, same]
  obtain ⟨s, result⟩ := (w.store t).identify id
  have stored : (w.withStore t s).Alike
      (({ w with log, queue } : World).withStore t { s with log := log' }) :=
    ⟨log', queue, tasks, rfl⟩
  cases result with
  | error fault => exact ⟨stored, rfl⟩
  | ok previous => exact agree_track stored _ _ (.same _) last

/-- Calls that are alike return the same and keep worlds alike. -/
theorem agree_perform (alike : w.Alike v) (t : Tracker) {call call' : ClientCall}
    (calls : call.Alike call') : Agree (call.perform w t) (call'.perform v t) := by
  have mutates (method : String) (operation : Field) (properties : Value)
      {listener listener' : Value} (listeners : listener.Alike listener') :
      Agree (w.mutate t method listener operation properties)
        (v.mutate t method listener' operation properties) :=
    agree_mutate alike t method listeners operation properties
  cases calls with
  | track instead last => exact agree_track alike t _ instead last
  | identify last => exact agree_identify alike t _ last
  | set last => exact agree_withProperties alike "set" _ _ last (mutates "set" _)
  | setEntries instead last =>
    exact agree_withProperties_map alike "set" _ instead last (mutates "set" _)
  | setOnce last => exact agree_withProperties alike "set_once" _ _ last (mutates "set_once" _)
  | setOnceEntries instead last =>
    exact agree_withProperties_map alike "set_once" _ instead last (mutates "set_once" _)
  | unset last => exact agree_unsetProfile alike t _ last
  | increment instead last => exact agree_incrementProfile alike t _ instead last
  | charge instead last => exact agree_trackCharge alike t _ instead last

end EventTracker
