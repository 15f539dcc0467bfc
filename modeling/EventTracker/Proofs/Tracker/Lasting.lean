import EventTracker.Proofs.Store.Texts
import EventTracker.Proofs.Tracker.Actions
import EventTracker.Proofs.Tracker.Courses

/-!
# What lasts while requests are made and run

A property of worlds that a few operations keep is kept by every call and by every task,
whatever callbacks do meanwhile. The operations are those that calls and tasks come to:
records in the log, outcomes that are told, events and mutations that are requested, users
that are identified, and requests that are posted.
-/

namespace EventTracker.World

/-- All trackers are of a kind still when one of that kind takes a place. -/
theorem forall_mem_set {Own : Tracker → Prop} {trackers : List Tracker} {t : Tracker}
    (all : ∀ other ∈ trackers, Own other) (own : Own t) (place : Nat) :
    ∀ other ∈ trackers.set place t, Own other := by
  intro other mem
  obtain before | rfl := List.mem_or_eq_of_mem_set mem
  · exact all other before
  · exact own

/-- A property of worlds that is kept when requests are settled. Events are tracked by trackers and
with properties of certain kinds: trackers that are current are such, and so are the properties of
a callback's event. -/
structure Settling (P : World → Prop) (Own : Tracker → Prop) (Fits : Value → Prop) : Prop where
  record {w : World} (holds : P w) (records : List LogRecord) : P (w.record records)
  told {w : World} (holds : P w) (told : List (String × Outcome)) :
    P { w with deliveries := w.deliveries ++ told }
  own {w : World} {t : Tracker} (holds : P w) (current : w.current? = some t) : Own t
  nothing : Fits .null
  tracked {w : World} {t : Tracker} {properties : Value} (holds : P w) (own : Own t)
    (fits : Fits properties) (event callback : Value) :
    P (w.attemptTrack t event properties callback).1

/-- A property of worlds that the parts of calls keep, whatever mutations are requested. -/
structure Lasting (P : World → Prop) (Own : Tracker → Prop) (Fits : Value → Prop) : Prop
    extends Settling P Own Fits where
  linked (previous user : Text) : Fits (identifyProperties previous (.str user))
  engaged {w : World} (holds : P w) (t : Tracker) (payload callback : Value) :
    P (w.submit t .engage payload callback).1
  identified {w : World} {t : Tracker} (holds : P w) (own : Own t) (id : Value) :
    let s := ((w.store t).identify id).1
    P (w.withStore t s) ∧ Own { t with props := s.props }

/-! ## Callbacks -/

namespace Settling

variable {P : World → Prop} {Own : Tracker → Prop} {Fits : Value → Prop} {w : World} {t : Tracker}

theorem echoing (settling : Settling P Own Fits) : Echoing (fun w v => P w ∧ v = w) Eq where
  refl _ := rfl
  record related records :=
    ⟨settling.record related.1 records, congrArg (World.record · records) related.2⟩
  told related label _ _ same := ⟨settling.told related.1 [(label, _)], by rw [related.2, same]⟩
  tracked related event := by
    obtain ⟨holds, rfl⟩ := related
    refine ⟨⟨?_, rfl⟩, rfl⟩
    unfold trackUnheard
    split
    case h_1 => exact holds
    case h_2 t current => exact settling.tracked holds (settling.own holds current) settling.nothing _ _

theorem deliver (settling : Settling P Own Fits) (holds : P w) (callback : Value)
    (outcome : Outcome) : P (w.deliver callback outcome) :=
  (settling.echoing.deliver ⟨holds, rfl⟩ callback (Eq.refl outcome)).1

theorem settled (settling : Settling P Own Fits)
    {attempt : World × Except Fault (Except TrackerError Nat)} (holds : P attempt.1)
    (listener : Value) : P (EventTracker.settled listener attempt).1 :=
  (settling.echoing.settled ⟨holds, rfl⟩ (.same attempt.2) listener).1.1

end Settling

/-! ## Calls -/

namespace Lasting

variable {P : World → Prop} {Own : Tracker → Prop} {Fits : Value → Prop} {w : World} {t : Tracker}

theorem mutate (lasting : Lasting P Own Fits) (holds : P w) (method : String) (callback : Value)
    (operation : Field) (operand : Value) :
    P (w.mutate t method callback operation operand).1 := by
  unfold World.mutate withDistinctId
  simp only
  split
  · exact lasting.deliver (lasting.record holds _) callback _
  · split
    · exact lasting.deliver (lasting.record holds _) callback _
    · exact lasting.settled (lasting.engaged holds t _ callback) callback

theorem course (lasting : Lasting P Own Fits) (holds : P w) (own : Own t) {given : Value}
    (fits : Fits given) {course : Course} (gives : course.Gives given) :
    P (course.perform w t).1 := by
  cases course with
  | fault records reason => exact lasting.record holds records
  | refuse records listener error => exact lasting.deliver (lasting.record holds records) listener _
  | track event properties listener =>
    obtain rfl : properties = given := gives
    exact lasting.settled (lasting.tracked holds own fits event listener) listener
  | mutate method listener operation named operand =>
    exact lasting.mutate holds method listener operation operand

theorem takesCourse (lasting : Lasting P Own Fits) (holds : P w) (own : Own t) {given : Value}
    (fits : Fits given) {op : World → Tracker → Sent}
    (takes : TakesCourse t.debug t.distinctId given op) : P (op w t).1 := by
  obtain ⟨course, gives, goes⟩ := takes
  rw [goes w t rfl rfl]
  exact lasting.course holds own fits gives

theorem identify (lasting : Lasting P Own Fits) (holds : P w) (own : Own t) (id callback : Value) :
    P (w.identify t id callback).1 := by
  have kept := lasting.identified holds own id
  unfold World.identify
  cases identified : (w.store t).identify id with
  | mk s result =>
    rw [identified] at kept
    obtain ⟨stored, after⟩ := kept
    cases result with
    | error fault => exact stored
    | ok previous =>
      obtain ⟨user, -, -⟩ := Store.distinctId_identify identified
      have fits : Fits (givenProperties (identifyProperties previous id)) :=
        user ▸ lasting.linked previous s.distinctId
      exact lasting.takesCourse stored after fits (.track _ _ callback)

/-- Every call keeps the property. -/
theorem perform (lasting : Lasting P Own Fits) (holds : P w) (own : Own t) {call : ClientCall}
    (fits : Fits call.properties) : P (call.perform w t).1 := by
  cases call with
  | identify id callback => exact lasting.identify holds own id callback
  | _ =>
    exact lasting.takesCourse holds own fits (takesCourse_perform _ _ _ (by rintro _ _ ⟨⟩))

end Lasting

/-! ## Tasks -/

/-- What else a property needs to be kept by tasks: a task may leave the queue and may be posted on
that, and it may be finished. -/
structure Running (P : World → Prop) : Prop where
  left {w : World} {task : Task} {rest : List Task} (holds : P w) (waits : w.queue = task :: rest) :
    P { w with queue := rest }
  posted {w : World} {task : Task} {rest : List Task} {t : Tracker} (holds : P w)
    (waits : w.queue = task :: rest) (found : w.trackers[task.owner]? = some t) :
    let connected := ({ w with queue := rest } : World).openChannel task.owner t
    P (connected.1.post t connected.2 task.url task.body).1
  finished {w : World} (holds : P w) (finished : List (Nat × Outcome)) :
    P { w with finished := w.finished ++ finished }

namespace Settling

variable {P : World → Prop} {Own : Tracker → Prop} {Fits : Value → Prop} {w : World}

theorem runTask (settling : Settling P Own Fits) (running : Running P) (holds : P w) {task : Task}
    {rest : List Task} (waits : w.queue = task :: rest) :
    P (({ w with queue := rest } : World).runTask task) := by
  unfold World.runTask
  split
  case h_1 => exact running.left holds waits
  case h_2 t found =>
    refine running.finished (settling.deliver (settling.record ?_ _) task.callback _) [_]
    exact running.posted holds waits found

theorem drain (settling : Settling P Own Fits) (running : Running P) (holds : P w) (fuel : Nat) :
    P (w.drain fuel) := by
  induction fuel generalizing w with
  | zero => exact holds
  | succ fuel ih =>
    rw [World.drain]
    split
    case h_1 => exact holds
    case h_2 task rest waits => exact ih (settling.runTask running holds waits)

theorem flush (settling : Settling P Own Fits) (running : Running P) (holds : P w) : P w.flush := by
  unfold World.flush
  split
  · exact holds
  · exact settling.drain running holds _

end Settling

end EventTracker.World
