import EventTracker.Proofs.Tracker.Calls
import EventTracker.Tracker.EventLoop

/-!
# All that callers can ask of a tracker

Besides the calls that make requests: super-properties, the identity and its reset,
look-ups, the configuration, and waiting for the requests that are under way. A run
makes one action after another on the current tracker.
-/

namespace EventTracker

/-- What callers can ask of a tracker. -/
inductive Action where
  | request (call : ClientCall)
  | register (patch : Value)
  | registerOnce (patch : Value)
  | unregister (key : Value)
  | reset
  | property (key : Value)
  | distinctId
  | configure (patch : Value) (more : Table Value)
  | flush

/-- What an action returns. -/
inductive Answer where
  | done
  /-- The number of a task, if there is one. -/
  | task (number : Option Nat)
  | value (v : Value)

/-- The task whose number is answered. -/
def Answer.number? : Answer → Option Nat
  | .task number => number
  | _ => none

theorem Answer.eq_of_number? {result : Except Fault Answer} {n : Nat}
    (known : result.toOption.bind number? = some n) : result = .ok (.task (some n)) := by
  cases result with
  | error fault => cases known
  | ok answer =>
    cases answer with
    | task number => exact congrArg (Except.ok ∘ task) known
    | done => cases known
    | value v => cases known

/-- Performs an action on the current tracker. -/
def Action.perform (w : World) (t : Tracker) : Action → World × Except Fault Answer
  | .request call => answer .task (call.perform w t)
  | .register patch => answer (fun _ => .done) (w.onStore t (·.registerSuper patch))
  | .registerOnce patch => answer (fun _ => .done) (w.onStore t (·.registerSuperOnce patch))
  | .unregister key => answer (fun _ => .done) (w.onStore t (·.unregisterSuper key))
  | .reset => w.onStore t fun s => (s.reset, .ok .done)
  | .property key => (w, ((w.store t).property key).map .value)
  | .distinctId => (w, .ok (.value (.str (w.store t).distinctId)))
  | .configure patch more => answer (fun _ => .done) (w.reconfigure t patch more)
  | .flush => (w.flush, .ok .done)
where
  answer {α : Type} (f : α → Answer) (result : World × Except Fault α) :
      World × Except Fault Answer :=
    (result.1, result.2.map f)

/-- An action, and whether an event loop runs when it is performed. -/
structure TrackerStep where
  looping : Bool
  action : Action

/-- Performs a step on the current tracker; without one, nothing happens. -/
def World.take (w : World) (step : TrackerStep) : World × Except Fault Answer :=
  let w : World := { w with looping := step.looping }
  match w.current? with
  | some t => step.action.perform w t
  | none => (w, .ok .done)

/-- The world after some steps. -/
def World.run (w : World) (steps : List TrackerStep) : World :=
  steps.foldl (fun w step => (w.take step).1) w

end EventTracker
