import EventTracker.Proofs.Tracker.Actions
import EventTracker.Proofs.Tracker.Requests

/-!
# All that a client is asked

Besides the actions of a tracker a client is asked for its settings, its super-properties
and its environment, is given another environment, and is closed, perhaps many times. A
context that ends closes the client, too.
-/

namespace EventTracker

/-- All that a client can be asked. -/
inductive ClientAction where
  | act (action : Action)
  | setting (key : Value)
  | superProperties
  | surroundings
  | surround (environment : Option Environment)
  | close

/-- What a client answers. -/
inductive ClientAnswer where
  | of (answer : Answer)
  | surroundings (environment : Option Environment)

/-- The task whose number is answered. -/
def ClientAnswer.number? : ClientAnswer → Option Nat
  | .of answer => answer.number?
  | .surroundings _ => none

theorem ClientAnswer.eq_of_number? {result : Except Fault ClientAnswer} {n : Nat}
    (known : result.toOption.bind number? = some n) : result = .ok (.of (.task (some n))) := by
  cases result with
  | error fault => cases known
  | ok answer =>
    cases answer with
    | of answer =>
      have answered : Except.ok answer = .ok (.task (some n)) := Answer.eq_of_number? known
      exact congrArg (Except.map of) answered
    | surroundings environment => cases known

/-- Performs what a client is asked on the current tracker. -/
def ClientAction.perform (w : World) (t : Tracker) :
    ClientAction → World × Except Fault ClientAnswer
  | .act action => ((action.perform w t).1, (action.perform w t).2.map .of)
  | .setting key => (w, (t.config.lookup key).map fun v => .of (.value v))
  | .superProperties => (w, .ok (.of (.value (.map (w.store t).superProperties))))
  | .surroundings => (w, .ok (.surroundings t.environment))
  | .surround environment =>
    (w.setTracker w.currentPlace { t with environment }, .ok (.of .done))
  | .close => (w.close, .ok (.of .done))

/-- What a client is asked, and whether an event loop runs meanwhile. -/
structure ClientStep where
  looping : Bool
  action : ClientAction

namespace World

/-- The world while a step is taken. -/
def during (w : World) (step : ClientStep) : World := { w with looping := step.looping }

/-- Takes a step on the current tracker; without one, nothing happens. -/
def handle (w : World) (step : ClientStep) : World × Except Fault ClientAnswer :=
  match (w.during step).current? with
  | some t => step.action.perform (w.during step) t
  | none => (w.during step, .ok (.of .done))

/-- The world after some steps. -/
def handled (w : World) (steps : List ClientStep) : World :=
  steps.foldl (fun w step => (w.handle step).1) w

/-- What some steps answer, and the world after each of them. -/
def handling (w : World) : List ClientStep → List (World × Except Fault ClientAnswer)
  | [] => []
  | step :: rest => w.handle step :: (w.handle step).1.handling rest

theorem handled_cons (w : World) (step : ClientStep) (rest : List ClientStep) :
    w.handled (step :: rest) = (w.handle step).1.handled rest := rfl

end World

variable {t : Tracker} {w w' : World}

theorem World.Serves.during (serves : w.Serves t) (step : ClientStep) :
    (w.during step).Serves t := ⟨serves.alone, serves.owners, serves.connected⟩

theorem World.handle_eq (serves : w.Serves t) (step : ClientStep) :
    w.handle step = step.action.perform (w.during step) t := by
  rw [handle, (serves.during step).current]

/-! ## Moves -/

/-- The world with a desk, and with the only tracker as it is given. -/
def World.desked (w : World) (desk : Desk) (t : Tracker) : World :=
  { w with toDesk := desk, trackers := [t] }

/-- An operation may change the desk, and the only tracker but for its connection, and comes to
moves besides, in which only requests of this tracker are made. -/
def World.Moves (w w' : World) (t : Tracker) : Prop :=
  ∃ desk props config environment moves,
    w' = (w.desked desk { t with props, config, environment }).moves moves ∧
      ∀ task ∈ Move.scheduled moves, task.owner = 0

namespace World

theorem Serves.desked_self (serves : w.Serves t) : w.desked w.toDesk t = w := by
  rw [desked, ← serves.alone]

theorem Serves.withStore_eq (serves : w.Serves t) (s : Store) :
    w.withStore t s = w.desked s.toDesk { t with props := s.props } := by
  rw [withStore, desked, serves.place, serves.alone]
  rfl

theorem Serves.setTracker_eq (serves : w.Serves t) (t' : Tracker) :
    w.setTracker w.currentPlace t' = w.desked w.toDesk t' := by
  rw [setTracker, desked, serves.place, serves.alone]
  rfl

namespace Moves

theorem of_desked {desk : Desk} (props : Mapping) (config : Config)
    (environment : Option Environment)
    (same : w' = w.desked desk { t with props, config, environment }) : w.Moves w' t :=
  ⟨desk, props, config, environment, [], same, List.forall_mem_nil _⟩

theorem of_withStore (serves : w.Serves t) (s : Store) : w.Moves (w.withStore t s) t :=
  of_desked s.props t.config t.environment (serves.withStore_eq s)

section Comes

variable {α : Type} {made : Task → Prop} {op : World → World × α}

/-- Moves after a change of the desk and the bag. -/
theorem of_comesTo_desked {desk : Desk} (props : Mapping)
    (same : w' = w.desked desk { t with props })
    (comes : ComesTo made w' op) (owners : ∀ task, made task → task.owner = 0) :
    w.Moves (op w').1 t := by
  obtain ⟨moves, result, performed, scheduled⟩ := comes
  refine ⟨desk, props, t.config, t.environment, moves, ?_,
    fun task mem => owners task (scheduled task mem)⟩
  exact (congrArg Prod.fst (performed w'.toDisk)).trans (congrArg (·.moves moves) same)

theorem of_stored {s : Store} (serves : w.Serves t) (comes : ComesTo made (w.withStore t s) op)
    (owners : ∀ task, made task → task.owner = 0) : w.Moves (op (w.withStore t s)).1 t :=
  of_comesTo_desked s.props (serves.withStore_eq s) comes owners

theorem of_comesTo (serves : w.Serves t) (comes : ComesTo made w op)
    (owners : ∀ task, made task → task.owner = 0) : w.Moves (op w).1 t :=
  of_comesTo_desked t.props serves.desked_self.symm comes owners

end Comes

end Moves

theorem Serves.moves_identify (serves : w.Serves t) (id callback : Value) :
    w.Moves (w.identify t id callback).1 t := by
  unfold identify
  obtain ⟨s, result⟩ := (w.store t).identify id
  cases result with
  | error fault => exact .of_withStore serves s
  | ok previous =>
    have stored := serves.schedules_withStore s
    have serves' := stored.serves serves
    have comes := comesTo_track serves'.current (.str "$identify")
      (identifyProperties previous id) callback
    rw [serves'.place] at comes
    exact .of_stored serves comes fun _ made => made.owner_eq

theorem Serves.moves_request (serves : w.Serves t) (call : ClientCall) :
    w.Moves (call.perform w t).1 t := by
  have others (anonymous : ∀ id callback, call ≠ .identify id callback) :
      w.Moves (call.perform w t).1 t := by
    have comes := comesTo_perform serves.current call anonymous
    rw [serves.place] at comes
    exact .of_comesTo serves comes fun _ made => made.owner_eq
  cases call with
  | identify id callback => exact serves.moves_identify id callback
  | _ => exact others (by rintro _ _ ⟨⟩)

/-- What is asked besides requests, flushes and closing changes the desk and the tracker only. -/
theorem Serves.exists_desked (serves : w.Serves t) {action : ClientAction}
    (requests : ∀ call, action ≠ .act (.request call)) (flushes : action ≠ .act .flush)
    (closes : action ≠ .close) :
    ∃ desk props config environment,
      (action.perform w t).1 = w.desked desk { t with props, config, environment } := by
  have unchanged : ∃ desk props config environment,
      w = w.desked desk { t with props, config, environment } :=
    ⟨w.toDesk, t.props, t.config, t.environment, serves.desked_self.symm⟩
  cases action with
  | act action =>
    cases action with
    | request call => exact absurd rfl (requests call)
    | register | registerOnce | unregister | reset =>
      exact ⟨_, _, t.config, t.environment, serves.withStore_eq _⟩
    | property | distinctId => exact unchanged
    | configure patch more =>
      rw [ClientAction.perform, Action.perform, reconfigure]
      cases (Config.Change.reconfigure patch more).call t.config with
      | ok _ config | error _ config =>
        exact ⟨_, t.props, config, t.environment, serves.setTracker_eq _⟩
    | flush => exact absurd rfl flushes
  | setting | superProperties | surroundings => exact unchanged
  | surround environment => exact ⟨_, t.props, t.config, environment, serves.setTracker_eq _⟩
  | close => exact absurd rfl closes

/-- What a client is asked comes to moves, unless tasks are run. -/
theorem Serves.moves_perform (serves : w.Serves t) {action : ClientAction}
    (flushes : action ≠ .act .flush) (closes : action ≠ .close) :
    w.Moves (action.perform w t).1 t := by
  by_cases asks : ∃ call, action = .act (.request call)
  · obtain ⟨call, rfl⟩ := asks
    exact serves.moves_request call
  · obtain ⟨desk, props, config, environment, same⟩ :=
      serves.exists_desked (not_exists.1 asks) flushes closes
    exact .of_desked props config environment same

/-! ## What stays as it is -/

theorem Serves.after_moves (serves : w.Serves t) {moves : List Move}
    (owners : ∀ task ∈ Move.scheduled moves, task.owner = 0) : (w.moves moves).Serves t := by
  refine ⟨(World.moves_trackers _ _).trans serves.alone, ?_, ?_⟩
  · rw [World.moves_queue]
    exact List.forall_mem_append.2 ⟨serves.owners, owners⟩
  · rw [Connected, moves_trackers, moves_sessions]
    exact serves.connected

/-- Another desk, bag, configuration or environment leaves the only tracker as it serves. -/
theorem Serves.desked (serves : w.Serves t) (desk : Desk) (props : Mapping) (config : Config)
    (environment : Option Environment) :
    (w.desked desk { t with props, config, environment }).Serves
      { t with props, config, environment } :=
  ⟨rfl, serves.owners, serves.connected.of_same serves.alone rfl rfl rfl rfl⟩

theorem exists_serves_close (serves : w.Serves t) :
    ∃ channel session, w.close.Serves { t with channel, session } := by
  obtain ⟨channel, session, -, flushed, -⟩ := advances_flush serves
  unfold World.close
  simp only [flushed.current]
  split
  · have alone : [{ t with channel := none, session := none }] =
        w.flush.trackers.set w.flush.currentPlace { t with channel := none, session := none } := by
      rw [flushed.place, flushed.alone]
      rfl
    exact ⟨none, none, alone.symm, flushed.owners, .of_alone alone.symm ⟨nofun, nofun⟩⟩
  · exact ⟨channel, _, flushed⟩

/-- Whatever a client is asked, it is the only one still, and has its token still. -/
theorem exists_serves_perform (serves : w.Serves t) (action : ClientAction) :
    ∃ t', (action.perform w t).1.Serves t' ∧ t'.token = t.token := by
  by_cases flushes : action = .act .flush
  · obtain ⟨channel, session, -, flushed, -⟩ := advances_flush serves
    rw [flushes]
    exact ⟨_, flushed, rfl⟩
  by_cases closes : action = .close
  · obtain ⟨channel, session, closed⟩ := exists_serves_close serves
    rw [closes]
    exact ⟨_, closed, rfl⟩
  obtain ⟨desk, props, config, environment, moves, same, owners⟩ :=
    serves.moves_perform flushes closes
  rw [same]
  exact ⟨_, (serves.desked desk props config environment).after_moves owners, rfl⟩

theorem exists_serves_handled (serves : w.Serves t) (steps : List ClientStep) :
    ∃ t', (w.handled steps).Serves t' ∧ t'.token = t.token := by
  induction steps generalizing w t with
  | nil => exact ⟨t, serves, rfl⟩
  | cons step rest ih =>
    obtain ⟨t₁, serves₁, kept₁⟩ := exists_serves_perform (serves.during step) step.action
    rw [handled_cons, handle_eq serves]
    obtain ⟨t', serves', kept⟩ := ih serves₁
    exact ⟨t', serves', kept.trans kept₁⟩

end World

end EventTracker
