import EventTracker.Proofs.Tracker.Moves

/-!
# The course of a call

Apart from `identify`, a call fails, tells its listener of an error, tracks an event or
changes the user's profile. Which of these it does, and with what, is a matter of its
arguments, of the debug mode and of the user, and of nothing else in the world.
-/

namespace EventTracker

/-- What a call comes to. -/
inductive Course where
  /-- It fails, with records in the log. -/
  | fault (records : List LogRecord) (reason : Fault)
  /-- It tells its listener of an error, with records in the log. -/
  | refuse (records : List LogRecord) (listener : Value) (error : TrackerError)
  | track (event properties listener : Value)
  | mutate (method : String) (listener : Value) (operation : Field)
    (named : operation.name ≠ "$token") (operand : Value)

/-- Takes a course in a world. -/
def Course.perform (w : World) (t : Tracker) : Course → World.Sent
  | .fault records reason => (w.record records, .error reason)
  | .refuse records listener error => (w.record records).refuse listener error
  | .track event properties listener =>
    settled listener (w.attemptTrack t event properties listener)
  | .mutate method listener operation _ operand => w.mutate t method listener operation operand

/-- The properties that a course gives to an event, if it tracks one. -/
def Course.Gives (given : Value) : Course → Prop
  | .track _ properties _ => properties = given
  | _ => True

/-- An operation takes one course for all trackers with a debug mode and a user, in which events are
given certain properties. -/
def TakesCourse (debug : Bool) (user : Text) (given : Value)
    (op : World → Tracker → World.Sent) : Prop :=
  ∃ course : Course, course.Gives given ∧
    ∀ w t, t.debug = debug → t.distinctId = user → op w t = course.perform w t

variable {debug : Bool} {user : Text} {given : Value}

namespace TakesCourse

theorem fault (reason : Fault) : TakesCourse debug user given fun w _ => (w, .error reason) :=
  ⟨.fault [] reason, trivial, fun w _ _ _ => by rw [Course.perform, w.record_nil]⟩

theorem refuse (listener : Value) (error : TrackerError) :
    TakesCourse debug user given fun w _ => w.refuse listener error :=
  ⟨.refuse [] listener error, trivial, fun w _ _ _ => by rw [Course.perform, w.record_nil]⟩

theorem mutate (method : String) (listener : Value) {operation : Field}
    (named : operation.name ≠ "$token") (operand : Value) :
    TakesCourse debug user given fun w t => w.mutate t method listener operation operand :=
  ⟨.mutate method listener operation named operand, trivial, fun _ _ _ _ => rfl⟩

theorem track (event properties callback : Value) :
    TakesCourse debug user (givenProperties properties) fun w t =>
      w.track t event properties callback := by
  refine ⟨.track event (givenProperties properties)
    (if properties.callable then properties else callback), rfl, fun w t _ _ => ?_⟩
  unfold World.track
  rw [arguments_eq]
  rfl

theorem withProperties (method : String) (prop : Value) (value : Option Value) (callback : Value)
    {operation : Field} (named : operation.name ≠ "$token") :
    TakesCourse debug user given fun w t =>
      w.withProperties method prop value callback fun properties listener =>
        w.mutate t method listener operation properties := by
  unfold World.withProperties
  cases prop with
  | map entries =>
    cases value with
    | none => exact mutate method callback named (.map entries)
    | some v =>
      cases callable : v.callable with
      | true =>
        simp only [callable, if_true]
        exact mutate method v named (.map entries)
      | false =>
        simp only [callable, Bool.false_eq_true, if_false]
        exact refuse callback _
  | _ =>
    cases value with
    | none =>
      simp only
      split
      · exact refuse callback _
      · exact fault _
    | some v =>
      simp only
      split
      · exact mutate method callback named _
      · exact fault _

theorem unset (prop callback : Value) :
    TakesCourse debug user given fun w t => w.unsetProfile t prop callback := by
  unfold World.unsetProfile
  simp only
  split
  · exact mutate "unset" callback (by decide) _
  · exact fault _

theorem increment (prop amount callback : Value) :
    TakesCourse debug user given fun w t => w.incrementProfile t prop amount callback := by
  unfold World.incrementProfile
  cases prop with
  | map entries =>
    cases amount with
    | null | callback c => exact mutate "increment" _ (by decide) _
    | _ => exact refuse callback _
  | _ =>
    simp only
    split
    · exact mutate "increment" _ (by decide) _
    · exact fault _

/-- A call that needs a user refuses if there is none. -/
theorem withDistinctId (method : String) (listener : Value) {go : World → Tracker → World.Sent}
    (going : TakesCourse debug user given go) :
    TakesCourse debug user given fun w t => w.withDistinctId t method listener fun _ => go w t := by
  by_cases anonymous : user = ""
  · refine ⟨.refuse [.failure .people debug "people.%s() called before identify"
      [.value (.str method)] false] listener .noDistinctId, trivial, fun w t same known => ?_⟩
    have none : (w.store t).distinctId = "" :=
      (Store.distinctId_of_props rfl).trans (known.trans anonymous)
    rw [← same]
    exact if_pos none
  · obtain ⟨course, gives, goes⟩ := going
    refine ⟨course, gives, fun w t same known => ?_⟩
    have some : (w.store t).distinctId ≠ "" :=
      fun none => anonymous (known.symm.trans ((Store.distinctId_of_props rfl).symm.trans none))
    exact (if_neg some).trans (goes w t same known)

theorem charge (amount properties callback : Value) :
    TakesCourse debug user given fun w t => w.trackCharge t amount properties callback := by
  unfold World.trackCharge
  simp only [arguments_eq]
  generalize (if properties.callable = true then properties else callback) = listener
  refine withDistinctId "track_charge" listener ?_
  split
  · exact fault _
  · let noted : List LogRecord := [.failure .people debug
      "Invalid amount passed to people.track_charge: %r" [.value amount] false]
    split
    case h_1 shown _ =>
      refine ⟨.refuse noted listener (.invalidAmount amount shown), trivial, fun w t same _ => ?_⟩
      simp only [noted, ← same]
      rfl
    case h_2 kind _ =>
      refine ⟨.fault noted (.misuse kind), trivial, fun w t same _ => ?_⟩
      simp only [noted, ← same]
      rfl
  · split
    · exact fault _
    · exact mutate "track_charge" listener (by decide) _

end TakesCourse

/-- Every call but `identify` takes a course. -/
theorem takesCourse_perform (debug : Bool) (user : Text) (call : ClientCall)
    (anonymous : ∀ id callback, call ≠ .identify id callback) :
    TakesCourse debug user call.properties fun w t => call.perform w t := by
  cases call with
  | track event properties callback => exact .track event properties callback
  | identify id callback => exact absurd rfl (anonymous id callback)
  | set prop value callback => exact .withProperties "set" prop value callback (by decide)
  | setOnce prop value callback => exact .withProperties "set_once" prop value callback (by decide)
  | unset prop callback => exact .unset prop callback
  | increment prop amount callback => exact .increment prop amount callback
  | charge amount properties callback => exact .charge amount properties callback

end EventTracker
