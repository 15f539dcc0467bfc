import EventTracker.Proofs.Store.Composition
import EventTracker.Proofs.Store.Disks
import EventTracker.Proofs.Store.Loading
import EventTracker.Proofs.Tracker.Lasting
import EventTracker.Proofs.Tracker.Opening

/-!
# A clock that can be read

The clock is read when an event is composed, and nothing else touches it. A clock whose
readings are numbers stays one after a reading, and so after any call, any task and any
run.
-/

namespace EventTracker

/-- A clock whose readings are numbers. -/
def Clock.Readable : Clock → Prop
  | .ticking _ => True
  | .fixed reading => ∃ time, Clock.number reading = .ok time

theorem Clock.Readable.exists_read {clock : Clock} (readable : clock.Readable) :
    ∃ time clock', clock.read = (.ok time, clock') ∧ clock'.Readable := by
  cases clock with
  | ticking readings => exact ⟨_, _, rfl, trivial⟩
  | fixed reading =>
    obtain ⟨time, number⟩ := readable
    exact ⟨time, _, Prod.ext number rfl, time, number⟩

namespace Store

variable (s : Store)

@[simp] theorem load_clock : s.load.clock = s.clock := by
  obtain ⟨props, log, same⟩ := s.exists_load_eq
  rw [same]

@[simp] theorem enterAnonymous_clock : s.enterAnonymous.clock = s.clock :=
  s.undrawn_enterAnonymous.clock

@[simp] theorem ensureIdentity_clock : s.ensureIdentity.clock = s.clock := by
  unfold ensureIdentity
  split
  · exact s.enterAnonymous_clock
  · rfl

@[simp] theorem reset_clock : s.reset.clock = s.clock :=
  s.clear.enterAnonymous_clock.trans (Undrawn.clear s).clock

@[simp] theorem identify_clock (id : Value) : (s.identify id).1.clock = s.clock :=
  (Undrawn.identify s id).clock

@[simp] theorem registerSuper_clock (patch : Value) : (s.registerSuper patch).1.clock = s.clock :=
  (Undrawn.registerSuper s patch).clock

@[simp] theorem registerSuperOnce_clock (patch : Value) :
    (s.registerSuperOnce patch).1.clock = s.clock :=
  (Undrawn.registerSuperOnce s patch).clock

@[simp] theorem unregisterSuper_clock (key : Value) : (s.unregisterSuper key).1.clock = s.clock :=
  (Undrawn.unregisterSuper s key).clock

variable {s : Store}

/-- Composing an event reads the clock at most. -/
theorem compose_clock_readable (readable : s.clock.Readable) (token : Text)
    (environment : Option Environment) (event properties : Value) :
    (s.compose token environment event properties).1.clock.Readable := by
  obtain ⟨time, clock, read, readable'⟩ := readable.exists_read
  cases layers : s.lowerLayers environment properties with
  | mk lower misuse =>
    cases misuse with
    | none =>
      rw [compose_of_layers layers read]
      exact readable'
    | some kind =>
      rw [lowerLayers] at layers
      simp only [compose, composeFor, layers]
      exact readable

end Store

/-! ## Requests and tasks -/

variable {w : World} {t : Tracker}

theorem readable_submit (readable : w.clock.Readable) (endpoint : Endpoint) (payload callback : Value) :
    (w.submit t endpoint payload callback).1.clock.Readable := by
  unfold World.submit
  split
  · exact readable
  · simp only
    split
    · exact readable
    · split <;> exact readable

theorem readable_attemptTrack (readable : w.clock.Readable) (event properties callback : Value) :
    (w.attemptTrack t event properties callback).1.clock.Readable := by
  have composed := Store.compose_clock_readable (s := w.store t) readable t.token t.environment event
    properties
  unfold World.attemptTrack
  split
  case h_1 same =>
    rw [same] at composed
    exact readable_submit (w := w.withStore t _) composed .track _ callback
  case h_2 same =>
    rw [same] at composed
    exact composed
  case h_3 same =>
    rw [same] at composed
    exact composed

theorem openChannel_clock (w : World) (place : Nat) (t : Tracker) :
    (w.openChannel place t).1.clock = w.clock := by
  unfold World.openChannel
  split
  · rfl
  · split <;> rfl

theorem post_clock (w : World) (t : Tracker) (channel : Channel) (url : Text) (body : String) :
    (w.post t channel url body).1.clock = w.clock := by
  have next (w : World) : w.nextReply.2.clock = w.clock := by
    unfold World.nextReply
    split <;> rfl
  unfold World.post
  simp only
  split
  · cases channel <;> exact next _
  · rfl

theorem lasting_readable :
    World.Lasting (fun w => w.clock.Readable) (fun _ => True) (fun _ => True) where
  record readable _ := readable
  told readable _ := readable
  own _ _ := trivial
  nothing := trivial
  linked _ _ := trivial
  tracked readable _ _ event callback := readable_attemptTrack readable event _ callback
  engaged readable _ payload callback := readable_submit readable .engage payload callback
  identified readable _ id := ⟨(Store.identify_clock _ id).symm ▸ readable, trivial⟩

theorem running_readable : World.Running fun w => w.clock.Readable where
  left readable _ := readable
  posted readable _ _ := by
    intro connected
    rw [post_clock, openChannel_clock]
    exact readable
  finished readable _ := readable

/-! ## Actions and runs -/

theorem readable_action (readable : w.clock.Readable) (action : Action) :
    (action.perform w t).1.clock.Readable := by
  cases action with
  | request call => exact lasting_readable.perform readable trivial trivial
  | register patch => exact ((w.store t).registerSuper_clock patch).symm ▸ readable
  | registerOnce patch => exact ((w.store t).registerSuperOnce_clock patch).symm ▸ readable
  | unregister key => exact ((w.store t).unregisterSuper_clock key).symm ▸ readable
  | reset => exact (w.store t).reset_clock.symm ▸ readable
  | property key | distinctId => exact readable
  | configure patch more =>
    simp only [Action.perform, Action.perform.answer, World.reconfigure]
    split <;> exact readable
  | flush => exact lasting_readable.flush running_readable readable

theorem readable_run (readable : w.clock.Readable) (steps : List TrackerStep) :
    (w.run steps).clock.Readable := by
  induction steps generalizing w with
  | nil => exact readable
  | cons step rest ih =>
    refine ih ?_
    unfold World.take
    simp only
    split
    · exact readable_action (w := { w with looping := step.looping }) readable step.action
    · exact readable

theorem readable_openTracker {w' : World} {token : Value} {config : Config}
    {environment : Option Environment} {connection : Connection} {shared : Bool}
    (readable : w.clock.Readable)
    (opened : w.openTracker token config environment connection shared = (w', .ok ())) :
    w'.clock.Readable := by
  obtain ⟨text, disk, -, -, -, rfl⟩ := World.exists_of_openTracker_eq_ok opened
  refine (Store.ensureIdentity_clock _).symm ▸ ?_
  exact (Store.load_clock _).symm ▸ readable

end EventTracker
