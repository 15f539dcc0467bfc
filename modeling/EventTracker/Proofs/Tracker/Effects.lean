import EventTracker.Tracker.Request

/-!
# What requests and listeners do to the world

Making a request appends a task to the queue or comes to nothing, and nobody is told
anything yet. Telling a listener is heard once; a listener may track another event, which
appends a task of which nobody is told. Neither posts.
-/

namespace EventTracker

/-- Who hears of an outcome: callbacks do, under their labels. -/
def heard (listener : Value) (outcome : Outcome) : List (String × Outcome) :=
  match listener with
  | .callback c => [(c.label, outcome)]
  | _ => []

/-- The errors that calls without a request end with: what was given is not valid, a precondition
does not hold, or no event loop runs. -/
def TrackerError.IsRefusal : TrackerError → Prop
  | .validation _ | .invalidAmount _ _ | .noDistinctId => True
  | .transport problem _ _ => problem = .noEventLoop
  | _ => False

theorem World.record_nil (w : World) : w.record [] = w := by
  rw [record, List.append_nil]

/-! ## Effects -/

/-- What a call does to a world of one tracker: it tells some callbacks and appends some tasks,
numbered on from those before, and it changes nothing of what is settled and of the connection. -/
structure Extends (t : Tracker) (w w' : World) (told : List (String × Outcome)) (tasks : List Task) :
    Prop where
  before : w.trackers = [t]
  after : ∃ props, w'.trackers = [{ t with props }]
  queue : w'.queue = w.queue ++ tasks
  created : w'.created = w.created + tasks.length
  numbers : tasks.map Task.number = List.range' w.created tasks.length
  owners : ∀ task ∈ tasks, task.owner = 0
  deliveries : w'.deliveries = w.deliveries ++ told
  posts : w'.posts = w.posts
  replies : w'.replies = w.replies
  finished : w'.finished = w.finished
  sessions : w'.sessions = w.sessions

namespace Extends

variable {t : Tracker} {w w' w'' : World} {told told' : List (String × Outcome)}
  {tasks tasks' : List Task}

theorem refl (before : w.trackers = [t]) : Extends t w w [] [] where
  before := before
  after := ⟨t.props, before⟩
  queue := (List.append_nil _).symm
  created := rfl
  numbers := rfl
  owners := List.forall_mem_nil _
  deliveries := (List.append_nil _).symm
  posts := rfl
  replies := rfl
  finished := rfl
  sessions := rfl

theorem trans {props : Mapping} (first : Extends t w w' told tasks)
    (next : Extends { t with props } w' w'' told' tasks') :
    Extends t w w'' (told ++ told') (tasks ++ tasks') := by
  constructor
  · exact first.before
  · exact next.after
  · rw [next.queue, first.queue, List.append_assoc]
  · rw [next.created, first.created, List.length_append, Nat.add_assoc]
  · rw [List.map_append, first.numbers, next.numbers, first.created, List.length_append,
      List.range'_append_1]
  · intro task mem
    rcases List.mem_append.1 mem with mem | mem
    · exact first.owners task mem
    · exact next.owners task mem
  · rw [next.deliveries, first.deliveries, List.append_assoc]
  · rw [next.posts, first.posts]
  · rw [next.replies, first.replies]
  · rw [next.finished, first.finished]
  · rw [next.sessions, first.sessions]

/-- Records in the log are no effect. -/
theorem record (effect : Extends t w w' told tasks) (records : List LogRecord) :
    Extends t w (w'.record records) told tasks :=
  ⟨effect.before, effect.after, effect.queue, effect.created, effect.numbers, effect.owners,
    effect.deliveries, effect.posts, effect.replies, effect.finished, effect.sessions⟩

/-- Whether an event loop runs is no part of the effect. -/
theorem of_looping {looping : Bool} (effect : Extends t { w with looping } w' told tasks) :
    Extends t w w' told tasks :=
  ⟨effect.before, effect.after, effect.queue, effect.created, effect.numbers, effect.owners,
    effect.deliveries, effect.posts, effect.replies, effect.finished, effect.sessions⟩

end Extends

variable {t : Tracker} {w : World}

theorem withStore_trackers (before : w.trackers = [t]) (s : Store) :
    (w.withStore t s).trackers = [{ t with props := s.props }] := by
  rw [World.withStore, World.currentPlace, before]
  rfl

/-- A change of the store is no effect. -/
theorem extends_withStore (before : w.trackers = [t]) (s : Store) :
    Extends t w (w.withStore t s) [] [] :=
  { Extends.refl before with after := ⟨s.props, withStore_trackers before s⟩ }

/-! ## Requests -/

/-- What an attempt to make a request comes to: a task, whose callback is the one given, or an
error. -/
def Attempted (t : Tracker) (w : World) (callback : Value) :
    World × Except Fault (Except TrackerError Nat) → Prop
  | (w', .ok (.ok n)) =>
    n = w.created ∧ ∃ task : Task, task.callback = callback ∧ Extends t w w' [] [task]
  | (w', .ok (.error error)) => error.IsRefusal ∧ Extends t w w' [] []
  | (w', .error _) => Extends t w w' [] []

theorem attempted_submit (before : w.trackers = [t]) (maker : Tracker) (endpoint : Endpoint)
    (payload callback : Value) :
    Attempted t w callback (w.submit maker endpoint payload callback) := by
  unfold World.submit
  cases truncated maxTextLength payload with
  | error kind => exact Extends.refl before
  | ok payload =>
    simp only
    cases encodeBody payload with
    | error cause => exact ⟨trivial, (Extends.refl before).record _⟩
    | ok body =>
      simp only
      split
      case isTrue =>
        have owner : w.currentPlace = 0 := by rw [World.currentPlace, before]; rfl
        refine ⟨rfl, _, rfl, { Extends.refl before with
          queue := rfl
          created := rfl
          numbers := rfl
          owners := ?_ }⟩
        exact List.forall_mem_singleton.2 owner
      case isFalse => exact ⟨rfl, ((Extends.refl before).record _).record _⟩

/-- An attempt that is made after what has no effect. -/
theorem Attempted.after {w₁ : World} {callback : Value}
    {result : World × Except Fault (Except TrackerError Nat)} (quiet : Extends t w w₁ [] [])
    (attempted : ∀ props, w₁.trackers = [{ t with props }] →
      Attempted { t with props } w₁ callback result) : Attempted t w callback result := by
  obtain ⟨props, after⟩ := quiet.after
  have attempted := attempted props after
  obtain ⟨w', result⟩ := result
  cases result with
  | error fault => exact quiet.trans attempted
  | ok result =>
    cases result with
    | error error => exact ⟨attempted.1, quiet.trans attempted.2⟩
    | ok n =>
      obtain ⟨number, task, unheard, effect⟩ := attempted
      rw [quiet.created] at number
      exact ⟨number, task, unheard, quiet.trans effect⟩

theorem attempted_attemptTrack (before : w.trackers = [t]) (event properties callback : Value) :
    Attempted t w callback (w.attemptTrack t event properties callback) := by
  unfold World.attemptTrack
  obtain ⟨s, composed⟩ := (w.store t).compose t.token t.environment event properties
  have stored := extends_withStore before s
  cases composed with
  | ok composed =>
    refine Attempted.after stored fun props after => ?_
    exact attempted_submit after t .track composed.wire.toValue callback
  | error fault =>
    cases fault with
    | invalid report => exact ⟨trivial, stored.record _⟩
    | _ => exact stored

/-! ## Callbacks -/

/-- The tasks that telling a listener may bring about: at most one, of which nobody is told, if
the listener is a callback that tracks an event. -/
def Aftermath (listener : Value) (tasks : List Task) : Prop :=
  tasks = [] ∨ ∃ label event mark task, listener = .callback ⟨label, .track event, mark⟩ ∧
    tasks = [task] ∧ task.callback = .null

theorem extends_trackUnheard (before : w.trackers = [t]) (event : String) :
    ∃ tasks, (tasks = [] ∨ ∃ task : Task, tasks = [task] ∧ task.callback = .null) ∧
      Extends t w (w.trackUnheard event).1 [] tasks := by
  have current : w.current? = some t := by rw [World.current?, before]; rfl
  have attempted := attempted_attemptTrack before (.str event) .null .null
  rw [World.trackUnheard, current]
  simp only
  generalize w.attemptTrack t (.str event) .null .null = attempt at attempted ⊢
  obtain ⟨w', result⟩ := attempt
  cases result with
  | error fault => exact ⟨[], Or.inl rfl, attempted⟩
  | ok result =>
    cases result with
    | error error => exact ⟨[], Or.inl rfl, attempted.2⟩
    | ok n =>
      obtain ⟨-, task, unheard, effect⟩ := attempted
      exact ⟨[task], Or.inr ⟨task, rfl, unheard⟩, effect⟩

/-- Telling a listener is heard once, whatever the listener does. -/
theorem extends_deliver (before : w.trackers = [t]) (listener : Value) (outcome : Outcome) :
    ∃ tasks, Aftermath listener tasks ∧
      Extends t w (w.deliver listener outcome) (heard listener outcome) tasks := by
  cases listener with
  | null => exact ⟨[], Or.inl rfl, Extends.refl before⟩
  | callback c =>
    obtain ⟨label, reaction, mark⟩ := c
    let told : World := { w with deliveries := w.deliveries ++ [(label, outcome)] }
    have hears : Extends t w told [(label, outcome)] [] :=
      { Extends.refl before with deliveries := rfl }
    cases reaction with
    | settle => exact ⟨[], Or.inl rfl, hears⟩
    | fail => exact ⟨[], Or.inl rfl, hears.record _⟩
    | track event =>
      obtain ⟨tasks, few, effect⟩ := extends_trackUnheard (w := told) before event
      refine ⟨tasks, ?_, ?_⟩
      · rcases few with rfl | ⟨task, rfl, unheard⟩
        · exact Or.inl rfl
        · exact Or.inr ⟨label, event, mark, task, rfl, rfl, unheard⟩
      · have both : Extends t w (told.trackUnheard event).1 [(label, outcome)] tasks :=
          hears.trans (show Extends { t with props := t.props } told _ [] tasks from effect)
        show Extends t w (World.deliver w _ outcome) [(label, outcome)] tasks
        simp only [World.deliver]
        split
        case h_1 tracked => rwa [tracked] at both
        case h_2 tracked => rw [tracked] at both; exact both.record _
  | _ => exact ⟨[], Or.inl rfl, (Extends.refl before).record _⟩

end EventTracker
