import EventTracker.Proofs.Tracker.Effects
import EventTracker.Tracker.Profile

/-!
# What calls return

A call that makes a request appends one task to the queue, and nobody is told anything
yet. A call that makes none tells its listener of one failure before it returns. What a
relation between worlds has to be kept by, for failures and callbacks to keep it, stands
at the end.
-/

namespace EventTracker

/-! ## Calls -/

/-- The calls of a client that make requests. -/
inductive ClientCall where
  | track (event properties callback : Value)
  | identify (id callback : Value)
  | set (prop : Value) (value : Option Value) (callback : Value)
  | setOnce (prop : Value) (value : Option Value) (callback : Value)
  | unset (prop callback : Value)
  | increment (prop amount callback : Value)
  | charge (amount properties callback : Value)

/-- The callback of `set` and `setOnce`: with a mapping, it may stand in the place of the value. -/
def profileListener (prop : Value) (value : Option Value) (callback : Value) : Value :=
  match prop, value with
  | .map _, some v => if v.callable then v else callback
  | _, _ => callback

namespace ClientCall

/-- The callback that a call selects by its shape. -/
def listener : ClientCall → Value
  | .track _ properties callback => if properties.callable then properties else callback
  | .identify _ callback => callback
  | .set prop value callback | .setOnce prop value callback => profileListener prop value callback
  | .unset _ callback => callback
  | .increment _ amount callback => if amount.callable then amount else callback
  | .charge _ properties callback => if properties.callable then properties else callback

/-- Makes a call on the current tracker. -/
def perform (w : World) (t : Tracker) : ClientCall → World × Except Fault (Option Nat)
  | .track event properties callback => w.track t event properties callback
  | .identify id callback => w.identify t id callback
  | .set prop value callback => w.setProfile t prop value callback
  | .setOnce prop value callback => w.setProfileOnce t prop value callback
  | .unset prop callback => w.unsetProfile t prop callback
  | .increment prop amount callback => w.incrementProfile t prop amount callback
  | .charge amount properties callback => w.trackCharge t amount properties callback

end ClientCall

/-! ## Results -/

/-- What a call comes to: the number of its task, whose callback is the listener, or nothing,
when the listener has been told of a failure. A call that fails tells nobody and makes no task. -/
def Returned (t : Tracker) (w : World) (listener : Value) : World × Except Fault (Option Nat) → Prop
  | (w', .ok (some n)) =>
    n = w.created ∧ ∃ task : Task, task.callback = listener ∧ Extends t w w' [] [task]
  | (w', .ok none) =>
    ∃ error tasks, error.IsRefusal ∧ Aftermath listener tasks ∧
      Extends t w w' (heard listener (.failed error)) tasks
  | (w', .error _) => Extends t w w' [] []

variable {t : Tracker} {w : World} {listener : Value}

/-- A call that is made after what has no effect. -/
theorem Returned.after {w₁ : World} {result : World × Except Fault (Option Nat)}
    (quiet : Extends t w w₁ [] [])
    (returned : ∀ props, w₁.trackers = [{ t with props }] →
      Returned { t with props } w₁ listener result) : Returned t w listener result := by
  obtain ⟨props, after⟩ := quiet.after
  have returned := returned props after
  obtain ⟨w', result⟩ := result
  cases result with
  | error fault => exact quiet.trans returned
  | ok result =>
    cases result with
    | none =>
      obtain ⟨error, tasks, refusal, aftermath, effect⟩ := returned
      exact ⟨error, tasks, refusal, aftermath, quiet.trans effect⟩
    | some n =>
      obtain ⟨number, task, told, effect⟩ := returned
      rw [quiet.created] at number
      exact ⟨number, task, told, quiet.trans effect⟩

theorem returned_refuse (before : w.trackers = [t]) {error : TrackerError}
    (refusal : error.IsRefusal) : Returned t w listener (w.refuse listener error) := by
  obtain ⟨tasks, aftermath, effect⟩ := extends_deliver before listener (.failed error)
  exact ⟨error, tasks, refusal, aftermath, effect⟩

/-- The only tracker has one bag. -/
theorem props_unique {t' : Tracker} {props : Mapping} (before : w.trackers = [t'])
    (after : w.trackers = [{ t with props }]) : t'.props = props := by
  have trackers : [t'] = [{ t with props }] := before.symm.trans after
  exact congrArg Tracker.props (List.cons.inj trackers).1

theorem returned_record (before : w.trackers = [t]) (records : List LogRecord)
    {result : World × Except Fault (Option Nat)}
    (returned : Returned t (w.record records) listener result) : Returned t w listener result := by
  refine Returned.after ((Extends.refl before).record records) fun props after => ?_
  obtain rfl : t.props = props := props_unique before after
  exact returned

theorem returned_refuse_recorded (before : w.trackers = [t]) (records : List LogRecord)
    {error : TrackerError} (refusal : error.IsRefusal) :
    Returned t w listener ((w.record records).refuse listener error) :=
  returned_record before records (returned_refuse (w := w.record records) before refusal)

/-- What becomes of an attempt when its failure is told. -/
def settled (listener : Value) : World × Except Fault (Except TrackerError Nat) → World.Sent
  | (w, .error fault) => (w, .error fault)
  | (w, .ok result) => ((w.settle listener result).1, .ok (w.settle listener result).2)

theorem returned_settled {attempt : World × Except Fault (Except TrackerError Nat)}
    (attempted : Attempted t w listener attempt) : Returned t w listener (settled listener attempt) := by
  obtain ⟨w₁, result⟩ := attempt
  cases result with
  | error fault => exact attempted
  | ok result =>
    cases result with
    | ok n => exact attempted
    | error error =>
      obtain ⟨refusal, quiet⟩ := attempted
      refine Returned.after quiet fun props after => ?_
      exact returned_refuse after refusal

theorem returned_withDistinctId (before : w.trackers = [t]) (method : String)
    {go : Text → World.Sent} (going : ∀ id, Returned t w listener (go id)) :
    Returned t w listener (w.withDistinctId t method listener go) := by
  unfold World.withDistinctId
  simp only
  split
  · exact returned_refuse_recorded before _ trivial
  · exact going _

theorem returned_mutate (before : w.trackers = [t]) (method : String) (operation : Field)
    (operand : Value) : Returned t w listener (w.mutate t method listener operation operand) := by
  refine returned_withDistinctId before method fun id => ?_
  simp only
  split
  · exact returned_refuse_recorded before _ trivial
  · exact returned_settled (attempted_submit before t .engage _ listener)

/-- The properties that an argument in their place gives. -/
def givenProperties (properties : Value) : Value :=
  if properties.callable then .null else properties

/-- Arguments of which the first may be the listener, as they are taken. -/
theorem arguments_eq (properties callback : Value) :
    (if properties.callable then (Value.null, properties) else (properties, callback)) =
      (givenProperties properties, if properties.callable then properties else callback) := by
  unfold givenProperties
  split <;> rfl

theorem returned_track (before : w.trackers = [t]) (event properties callback : Value) :
    Returned t w (if properties.callable then properties else callback)
      (w.track t event properties callback) := by
  unfold World.track
  rw [arguments_eq]
  exact returned_settled (attempted_attemptTrack before event (givenProperties properties) _)

theorem returned_identify (before : w.trackers = [t]) (id callback : Value) :
    Returned t w callback (w.identify t id callback) := by
  unfold World.identify
  obtain ⟨s, result⟩ := (w.store t).identify id
  cases result with
  | error fault => exact extends_withStore before s
  | ok previous =>
    refine Returned.after (extends_withStore before s) fun props after => ?_
    obtain rfl : s.props = props := props_unique (withStore_trackers before s) after
    exact returned_track after (.str "$identify") (World.identifyProperties previous id) callback

/-- `set` and `setOnce` go on with their listener, or tell it what is wrong. -/
theorem returned_withProperties (before : w.trackers = [t]) (method : String) (prop : Value)
    (value : Option Value) (callback : Value) {go : (properties callback : Value) → World.Sent}
    (going : ∀ properties listener, Returned t w listener (go properties listener)) :
    Returned t w (profileListener prop value callback)
      (w.withProperties method prop value callback go) := by
  unfold World.withProperties
  cases prop with
  | map entries =>
    cases value with
    | none => exact going (.map entries) callback
    | some v =>
      cases callable : v.callable with
      | true =>
        simp only [profileListener, callable, if_true]
        exact going (.map entries) v
      | false =>
        simp only [profileListener, callable, Bool.false_eq_true, if_false]
        exact returned_refuse before trivial
  | _ =>
    cases value with
    | none =>
      simp only [profileListener]
      split
      · exact returned_refuse before trivial
      · exact Extends.refl before
    | some v =>
      simp only [profileListener]
      split
      · exact going _ _
      · exact Extends.refl before

theorem returned_unsetProfile (before : w.trackers = [t]) (prop callback : Value) :
    Returned t w callback (w.unsetProfile t prop callback) := by
  unfold World.unsetProfile
  simp only
  split
  · exact returned_mutate before "unset" ProfileMutation.unsetField _
  · exact Extends.refl before

theorem returned_incrementProfile (before : w.trackers = [t]) (prop amount callback : Value) :
    Returned t w (if amount.callable then amount else callback)
      (w.incrementProfile t prop amount callback) := by
  unfold World.incrementProfile
  cases prop with
  | map entries =>
    cases amount with
    | null => exact returned_mutate before "increment" ProfileMutation.addField (.map entries)
    | callback c => exact returned_mutate before "increment" ProfileMutation.addField (.map entries)
    | _ => exact returned_refuse before trivial
  | _ =>
    simp only
    generalize (if amount.callable = true then amount else callback) = listener
    split
    · exact returned_mutate before "increment" ProfileMutation.addField _
    · exact Extends.refl before

theorem returned_trackCharge (before : w.trackers = [t]) (amount properties callback : Value) :
    Returned t w (if properties.callable then properties else callback)
      (w.trackCharge t amount properties callback) := by
  unfold World.trackCharge
  rw [arguments_eq]
  generalize (if properties.callable = true then properties else callback) = listener
  refine returned_withDistinctId before "track_charge" fun id => ?_
  split
  · exact Extends.refl before
  · simp only
    split
    · exact returned_refuse_recorded before _ trivial
    · exact (Extends.refl before).record _
  · split
    · exact Extends.refl before
    · exact returned_mutate before "track_charge" ProfileMutation.appendField _

/-- Every call comes to a task of its listener, or tells it of one failure. -/
theorem returned_perform (before : w.trackers = [t]) (call : ClientCall) :
    Returned t w call.listener (call.perform w t) := by
  cases call with
  | track event properties callback => exact returned_track before event properties callback
  | identify id callback => exact returned_identify before id callback
  | set prop value callback =>
    rw [ClientCall.perform, World.setProfile]
    exact returned_withProperties before "set" prop value callback fun properties listener =>
      returned_mutate before "set" ProfileMutation.setField properties
  | setOnce prop value callback =>
    rw [ClientCall.perform, World.setProfileOnce]
    exact returned_withProperties before "set_once" prop value callback fun properties listener =>
      returned_mutate before "set_once" ProfileMutation.setOnceField properties
  | unset prop callback => exact returned_unsetProfile before prop callback
  | increment prop amount callback => exact returned_incrementProfile before prop amount callback
  | charge amount properties callback => exact returned_trackCharge before amount properties callback

/-! ## Relations that calls keep -/

/-- A relation between worlds, and one between outcomes, that are kept by records, by what callbacks
are told, and by events that callbacks track. -/
structure World.Echoing (R : World → World → Prop) (S : Outcome → Outcome → Prop) : Prop where
  refl (outcome : Outcome) : S outcome outcome
  record {w v : World} (related : R w v) (records : List LogRecord) :
    R (w.record records) (v.record records)
  told {w v : World} (related : R w v) (label : String) {outcome outcome' : Outcome}
    (same : S outcome outcome') :
    R { w with deliveries := w.deliveries ++ [(label, outcome)] }
      { v with deliveries := v.deliveries ++ [(label, outcome')] }
  tracked {w v : World} (related : R w v) (event : String) :
    R (w.trackUnheard event).1 (v.trackUnheard event).1 ∧
      (v.trackUnheard event).2 = (w.trackUnheard event).2

/-- Results that are the same, in worlds that are related. -/
def AgreeUpTo {α : Type} (R : World → World → Prop) (result result' : World × α) : Prop :=
  R result.1 result'.1 ∧ result'.2 = result.2

/-- Attempts that come to the same, or fail with errors that make related outcomes. -/
inductive AttemptsAgree (S : Outcome → Outcome → Prop) :
    Except Fault (Except TrackerError Nat) → Except Fault (Except TrackerError Nat) → Prop where
  | same (result : Except Fault (Except TrackerError Nat)) : AttemptsAgree S result result
  | failed {error error' : TrackerError} (same : S (.failed error) (.failed error')) :
    AttemptsAgree S (.ok (.error error)) (.ok (.error error'))

/-- That an attempt fails is no matter of how its error reads. -/
theorem AttemptsAgree.map_unit {S : Outcome → Outcome → Prop}
    {attempt attempt' : Except Fault (Except TrackerError Nat)}
    (agree : AttemptsAgree S attempt attempt') :
    attempt'.map (fun _ => ()) = attempt.map fun _ => () := by
  cases agree <;> rfl

namespace World.Echoing

variable {R : World → World → Prop} {S : Outcome → Outcome → Prop} {w v : World}

/-- Telling the same listener of related outcomes keeps the relation. -/
theorem deliver (echoing : Echoing R S) (related : R w v) (listener : Value)
    {outcome outcome' : Outcome} (same : S outcome outcome') :
    R (w.deliver listener outcome) (v.deliver listener outcome') := by
  cases listener with
  | null => exact related
  | callback c =>
    obtain ⟨label, reaction, mark⟩ := c
    have told := echoing.told related label same
    cases reaction with
    | settle => exact told
    | fail => exact echoing.record told _
    | track event =>
      obtain ⟨worlds, results⟩ := echoing.tracked told event
      unfold World.deliver
      simp only
      generalize trackUnheard { w with deliveries := w.deliveries ++ [(label, outcome)] } event =
        tracked at worlds results ⊢
      generalize trackUnheard { v with deliveries := v.deliveries ++ [(label, outcome')] } event =
        tracked' at worlds results ⊢
      obtain ⟨w₁, result⟩ := tracked
      obtain ⟨v₁, result'⟩ := tracked'
      obtain rfl : result' = result := results
      cases result' with
      | ok done => exact worlds
      | error fault => exact echoing.record worlds _
  | _ => exact echoing.record related _

theorem refuse (echoing : Echoing R S) (related : R w v) (listener : Value) (error : TrackerError) :
    AgreeUpTo R (w.refuse listener error) (v.refuse listener error) :=
  ⟨echoing.deliver related listener (echoing.refl _), rfl⟩

/-- Attempts that agree still do when their failures are told. -/
theorem settled {attempt attempt' : World × Except Fault (Except TrackerError Nat)}
    (echoing : Echoing R S) (worlds : R attempt.1 attempt'.1)
    (agree : AttemptsAgree S attempt.2 attempt'.2) (listener : Value) :
    AgreeUpTo R (EventTracker.settled listener attempt)
      (EventTracker.settled listener attempt') := by
  obtain ⟨w₁, result⟩ := attempt
  obtain ⟨v₁, result'⟩ := attempt'
  cases agree with
  | failed same => exact ⟨echoing.deliver worlds listener same, rfl⟩
  | same =>
    cases result with
    | error fault => exact ⟨worlds, rfl⟩
    | ok result =>
      cases result with
      | ok n => exact ⟨worlds, rfl⟩
      | error error => exact ⟨echoing.deliver worlds listener (echoing.refl _), rfl⟩

end World.Echoing

end EventTracker
