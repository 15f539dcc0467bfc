import EventTracker.Proofs.Tracker.Calls
import EventTracker.Proofs.Tracker.Draining
import Mathlib.Data.List.Forall2

/-!
# Runs of calls

In a run each call has one outcome: that of its task, or the failure that it told before
it returned. What the callbacks have been told by the end is, up to its order, one outcome
for each call.
-/

namespace EventTracker

/-- A call of a run, with its result and the worlds around it. -/
structure Turn where
  call : ClientCall
  /-- Whether the call is made while an event loop runs. -/
  looping : Bool
  result : Option Nat
  before : World
  after : World

/-- Calls that are made one after another on the current tracker, and that all return. -/
inductive ClientRun : World → List Turn → World → Prop where
  | done (w : World) : ClientRun w [] w
  | turn {w w₁ w' : World} {t : Tracker} {call : ClientCall} {looping : Bool} {result : Option Nat}
    {turns : List Turn} (current : w.current? = some t)
    (returned : call.perform { w with looping } t = (w₁, .ok result))
    (rest : ClientRun w₁ turns w') : ClientRun w (⟨call, looping, result, w, w₁⟩ :: turns) w'

/-- A call that returns nothing has told its listener of a failure, and the only task that may come
of it is one that the listener tracks. -/
def Turn.Refused (turn : Turn) (outcome : Outcome) : Prop :=
  turn.after.deliveries = turn.before.deliveries ++ heard turn.call.listener outcome ∧
    (∃ error : TrackerError, error.IsRefusal ∧ outcome = .failed error) ∧
    ∃ tasks, Aftermath turn.call.listener tasks ∧ turn.after.queue = turn.before.queue ++ tasks

/-- The outcome of a call, where tasks have theirs. -/
def TurnSettled (outcomeOf : Task → Outcome) (tasks : List Task) (turn : Turn) (outcome : Outcome) :
    Prop :=
  turn.after.posts = turn.before.posts ∧
    match turn.result with
    | none => turn.Refused outcome
    | some n =>
      turn.after.deliveries = turn.before.deliveries ∧
        ∃ task ∈ tasks, turn.after.queue = turn.before.queue ++ [task] ∧ task.number = n ∧
          task.callback = turn.call.listener ∧ outcome = outcomeOf task

theorem TurnSettled.mono {outcomeOf : Task → Outcome} {tasks more : List Task} {turn : Turn}
    {outcome : Outcome} (sub : tasks ⊆ more) (settled : TurnSettled outcomeOf tasks turn outcome) :
    TurnSettled outcomeOf more turn outcome := by
  obtain ⟨call, looping, result, before, after⟩ := turn
  obtain ⟨posts, settled⟩ := settled
  refine ⟨posts, ?_⟩
  cases result with
  | none => exact settled
  | some n =>
    obtain ⟨silent, task, mem, others⟩ := settled
    exact ⟨silent, task, sub mem, others⟩

/-- What a call returns is the number of a task. -/
theorem TurnSettled.numbers {outcomeOf : Task → Outcome} {tasks : List Task} {turn : Turn}
    {outcome : Outcome} (settled : TurnSettled outcomeOf tasks turn outcome) :
    turn.result.toList.Sublist (tasks.map Task.number) := by
  obtain ⟨call, looping, result, before, after⟩ := turn
  cases result with
  | none => exact List.nil_sublist _
  | some n =>
    obtain ⟨-, -, task, mem, -, rfl, -⟩ := settled
    exact List.singleton_sublist.2 (List.mem_map_of_mem mem)

/-- What listeners hear of tasks. -/
def heardOf (outcomeOf : Task → Outcome) (tasks : List Task) : List (String × Outcome) :=
  tasks.flatMap fun task => heard task.callback (outcomeOf task)

theorem heardOf_append (outcomeOf : Task → Outcome) (tasks more : List Task) :
    heardOf outcomeOf (tasks ++ more) = heardOf outcomeOf tasks ++ heardOf outcomeOf more :=
  List.flatMap_append

theorem heardOf_unheard (outcomeOf : Task → Outcome) {tasks : List Task}
    (unheard : ∀ task ∈ tasks, task.callback = .null) : heardOf outcomeOf tasks = [] := by
  refine List.flatMap_eq_nil_iff.2 fun task mem => ?_
  rw [unheard task mem]
  rfl

/-- What listeners hear of calls. -/
def heardOfTurns (turns : List Turn) (outcomes : List Outcome) : List (String × Outcome) :=
  (turns.zip outcomes).flatMap fun (turn, outcome) => heard turn.call.listener outcome

variable {t : Tracker} {w w' : World}

/-- One call, with the tasks that come of it. -/
theorem turn_settles (before : w.trackers = [t]) {call : ClientCall} {looping : Bool}
    {result : Option Nat} (returned : call.perform { w with looping } t = (w', .ok result))
    (outcomeOf : Task → Outcome) :
    ∃ told tasks outcome, Extends t w w' told tasks ∧
      TurnSettled outcomeOf tasks ⟨call, looping, result, w, w'⟩ outcome ∧
      told ++ heardOf outcomeOf tasks = heard call.listener outcome := by
  have spec := returned_perform (w := { w with looping }) before call
  rw [returned] at spec
  cases result with
  | none =>
    obtain ⟨error, tasks, refusal, aftermath, effect⟩ := spec
    have effect := effect.of_looping
    have refused : Turn.Refused ⟨call, looping, none, w, w'⟩ (.failed error) :=
      ⟨effect.deliveries, ⟨error, refusal, rfl⟩, tasks, aftermath, effect.queue⟩
    refine ⟨_, tasks, .failed error, effect, ⟨effect.posts, refused⟩, ?_⟩
    rw [heardOf_unheard outcomeOf aftermath.unheard, List.append_nil]
  | some n =>
    obtain ⟨number, task, listener, effect⟩ := spec
    have effect := effect.of_looping
    have numbered : task.number = w.created := (List.cons.inj effect.numbers).1
    refine ⟨[], [task], outcomeOf task, effect, ⟨effect.posts, ?_, task, List.mem_singleton_self task,
      effect.queue, ?_, listener, rfl⟩, ?_⟩
    · rw [effect.deliveries, List.append_nil]
    · rw [numbered, number]
    · rw [← listener]
      simp [heardOf]

/-- A run, with the tasks that come of it. -/
theorem run_settles {turns : List Turn} (run : ClientRun w turns w') (before : w.trackers = [t])
    (outcomeOf : Task → Outcome) :
    ∃ told tasks outcomes, Extends t w w' told tasks ∧
      List.Forall₂ (TurnSettled outcomeOf tasks) turns outcomes ∧
      (told ++ heardOf outcomeOf tasks).Perm (heardOfTurns turns outcomes) ∧
      (turns.filterMap Turn.result).Sublist (tasks.map Task.number) := by
  induction run generalizing t with
  | done w => exact ⟨[], [], [], Extends.refl before, .nil, List.Perm.nil, List.Sublist.slnil⟩
  | @turn w w₁ w' t' call looping result turns current returned rest ih =>
    have same : t' = t := by
      rw [World.current?, before] at current
      exact (Option.some.inj current).symm
    subst same
    obtain ⟨told, tasks, outcome, effect, settled, hears⟩ := turn_settles before returned outcomeOf
    obtain ⟨props, after⟩ := effect.after
    obtain ⟨told', tasks', outcomes, effect', settled', hears', numbers⟩ := ih after
    refine ⟨told ++ told', tasks ++ tasks', outcome :: outcomes, effect.trans effect', .cons ?_ ?_, ?_, ?_⟩
    · exact settled.mono (List.subset_append_left _ _)
    · exact settled'.imp fun _ _ one => one.mono (List.subset_append_right _ _)
    · rw [heardOf_append]
      have swap : (told ++ told' ++ (heardOf outcomeOf tasks ++ heardOf outcomeOf tasks')).Perm
          ((told ++ heardOf outcomeOf tasks) ++ (told' ++ heardOf outcomeOf tasks')) := by
        rw [List.append_assoc, List.append_assoc]
        refine List.Perm.append_left told ?_
        rw [← List.append_assoc, ← List.append_assoc]
        exact List.perm_append_comm.append_right _
      rw [hears] at swap
      exact swap.trans (hears'.append_left _)
    · have first := settled.numbers.append numbers
      rw [List.map_append]
      cases result with
      | none => exact first
      | some n => exact first

/-! ## Flushing -/

/-- The queue after a run that started with none. -/
theorem Extends.waiting {told : List (String × Outcome)} {tasks : List Task}
    (effect : Extends t w w' told tasks) (idle : w.queue = []) :
    w'.queue = tasks ∧ Waiting w.created w' := by
  have queue : w'.queue = tasks := by rw [effect.queue, idle, List.nil_append]
  refine ⟨queue, ?_, ?_, ?_⟩
  · rw [queue]
    exact effect.owners
  · rw [queue, effect.numbers]
  · rw [queue, effect.created]

/-- What a run leaves to a flush. -/
theorem ClientRun.waiting {turns : List Turn} (run : ClientRun w turns w')
    (before : w.trackers = [t]) (idle : w.queue = []) :
    ∃ props, w'.trackers = [{ t with props }] ∧ Waiting w.created w' := by
  obtain ⟨told, tasks, outcomes, effect, -⟩ := run_settles run before fun _ => .accepted
  obtain ⟨props, after⟩ := effect.after
  exact ⟨props, after, (effect.waiting idle).2⟩

theorem flush_eq_drain (before : w.trackers = [t]) (owners : ∀ task ∈ w.queue, task.owner = 0) :
    w.flush = w.drain w.workload := by
  unfold World.flush
  split
  case isFalse => rfl
  case isTrue none =>
    have place : w.currentPlace = 0 := by rw [World.currentPlace, before]; rfl
    have idle : w.queue = [] := by
      rw [World.pending, List.length_eq_zero_iff, List.filter_eq_nil_iff, place] at none
      refine List.eq_nil_iff_forall_not_mem.2 fun task mem => none task mem ?_
      rw [owners task mem]
      rfl
    rw [World.workload, idle]
    rfl

/-- A flush runs all tasks of the only tracker. -/
theorem drained_flush {first : Nat} (before : w.trackers = [t]) (connected : w.Connected)
    (waiting : Waiting first w) : ∃ tasks, Drained t.isDirect first w w.flush tasks := by
  rw [flush_eq_drain before waiting.owners]
  exact drained_drain before connected waiting (Nat.le_refl _)

/-- A flush ends because nothing is left to run: with room for more tasks it would end the same. -/
theorem drain_eq_flush (before : w.trackers = [t]) (owners : ∀ task ∈ w.queue, task.owner = 0)
    (emptied : w.flush.queue = []) {fuel : Nat} (enough : w.workload ≤ fuel) :
    w.drain fuel = w.flush := by
  obtain ⟨more, rfl⟩ := Nat.exists_eq_add_of_le enough
  rw [drain_add, ← flush_eq_drain before owners, drain_idle emptied]

/-- The post of a task stands at the place of its number. -/
theorem Drained.exists_post {direct : Bool} {first : Nat} {tasks : List Task}
    (drained : Drained direct first w w' tasks) {task : Task} (mem : task ∈ tasks) :
    ∃ post, w'.posts[w.posts.length + (task.number - first)]? = some post ∧ post.url = task.url ∧
      post.body = task.body := by
  obtain ⟨place, within, found⟩ := List.getElem_of_mem mem
  obtain ⟨posts, all, same⟩ := drained.posts
  have number : task.number = first + place := by
    have numbered := congrArg (·[place]?) drained.numbers
    simpa [List.getElem?_range', within, found] using numbered
  have keyed := congrArg (·[place]?) same
  simp only [List.getElem?_map, List.getElem?_eq_getElem within, found, Option.map_some,
    Option.map_eq_some_iff, Prod.mk.injEq] at keyed
  obtain ⟨post, at_place, url, body⟩ := keyed
  refine ⟨post, ?_, url, body⟩
  rw [all, List.getElem?_append_right (Nat.le_add_right _ _), number]
  rw [show w.posts.length + (first + place - first) - w.posts.length = place by omega]
  exact at_place

theorem Drained.length_posts {direct : Bool} {first : Nat} {tasks : List Task}
    (drained : Drained direct first w w' tasks) :
    w'.posts.length = w.posts.length + tasks.length := by
  obtain ⟨posts, all, same⟩ := drained.posts
  have length := congrArg List.length same
  rw [List.length_map, List.length_map] at length
  rw [all, List.length_append, length]

/-- Only tasks that waited before are heard of. -/
theorem Drained.deliveries_eq {direct : Bool} {first : Nat} {tasks : List Task}
    (drained : Drained direct first w w' tasks) :
    w'.deliveries = w.deliveries ++
      heardOf (fun task => task.outcome direct (task.reply w.replies first)) w.queue := by
  obtain ⟨inner, joined, unheard⟩ := drained.joined
  have all := heardOf_append (fun task => task.outcome direct (task.reply w.replies first)) w.queue
    inner
  rw [heardOf_unheard _ unheard, List.append_nil, ← joined] at all
  rw [drained.deliveries, ← all]
  rfl

/-- What becomes of a call by the time that all tasks of its run have been run. The reply that
counts is the one at the place of the task's number. -/
def Settles (direct : Bool) (start flushed : World) (turn : Turn) (outcome : Outcome) : Prop :=
  turn.after.posts = turn.before.posts ∧
    match turn.result with
    | none => turn.Refused outcome
    | some n =>
      turn.after.deliveries = turn.before.deliveries ∧
        ∃ task post, turn.after.queue = turn.before.queue ++ [task] ∧ task.number = n ∧
          task.callback = turn.call.listener ∧ (n, outcome) ∈ flushed.finished ∧
          flushed.posts[start.posts.length + (n - start.created)]? = some post ∧
          post.url = task.url ∧ post.body = task.body ∧
          let exchange := (task.reply start.replies start.created).through direct task.url
          (outcome = .accepted ↔ exchange = .text "1" ∨ exchange = .text "\"1\"") ∧
            (outcome = .accepted ∨
              ∃ problem status place, outcome = .failed (.transport problem status place))

/-- A call whose task was run by the flush. -/
theorem TurnSettled.settles {direct : Bool} {start flushed : World} {all : List Task} {turn : Turn}
    {outcome : Outcome}
    (settled : TurnSettled
      (fun task => task.outcome direct (task.reply start.replies start.created)) all turn outcome)
    (drained : Drained direct start.created w flushed all) (posts : w.posts = start.posts)
    (replies : w.replies = start.replies) : Settles direct start flushed turn outcome := by
  obtain ⟨call, looping, result, before, after⟩ := turn
  obtain ⟨silent, settled⟩ := settled
  refine ⟨silent, ?_⟩
  cases result with
  | none => exact settled
  | some n =>
    obtain ⟨silent, task, mem, queue, number, listener, rfl⟩ := settled
    obtain ⟨post, posted, url, body⟩ := drained.exists_post mem
    refine ⟨silent, task, post, queue, number, listener, ?_, ?_, url, body, ?_⟩
    · rw [drained.finished, replies, ← number]
      exact List.mem_append_right _ (List.mem_map_of_mem
        (f := fun task => (task.number, task.outcome direct (task.reply start.replies start.created)))
        mem)
    · rw [← posts, ← number]
      exact posted
    · exact ⟨task.outcome_eq_accepted_iff direct _, task.outcome_accepted_or direct _⟩

/-- A run after its flush: nothing waits, each call has its outcome, and each task has posted and
finished once. -/
structure RunSettled (direct : Bool) (start flushed : World) (turns : List Turn)
    (outcomes : List Outcome) : Prop where
  emptied : flushed.queue = []
  calls : List.Forall₂ (Settles direct start flushed) turns outcomes
  deliveries : flushed.deliveries.Perm (start.deliveries ++ heardOfTurns turns outcomes)
  /-- There are as many posts as tasks that calls have made, those inside callbacks included. -/
  posts : flushed.posts.length = start.posts.length + (flushed.created - start.created)
  finished : flushed.finished.map Prod.fst =
    start.finished.map Prod.fst ++ List.range' start.created (flushed.created - start.created)
  results : (turns.filterMap Turn.result).Sublist
    (List.range' start.created (flushed.created - start.created))

theorem flush_settles (before : w.trackers = [t]) (connected : w.Connected) (idle : w.queue = [])
    {turns : List Turn} (run : ClientRun w turns w') :
    ∃ outcomes, RunSettled t.isDirect w ({ w' with looping := true } : World).flush turns outcomes := by
  let outcomeOf (task : Task) : Outcome :=
    task.outcome t.isDirect (task.reply w.replies w.created)
  obtain ⟨told, tasks, outcomes, effect, settled, hears, numbers⟩ := run_settles run before outcomeOf
  obtain ⟨props, after⟩ := effect.after
  obtain ⟨queue, waiting⟩ := effect.waiting idle
  have waits : Waiting w.created { w' with looping := true } :=
    ⟨waiting.owners, waiting.numbers, waiting.created⟩
  obtain ⟨all, drained⟩ : ∃ all, Drained t.isDirect w.created { w' with looping := true }
      ({ w' with looping := true } : World).flush all :=
    drained_flush (t := { t with props }) after (effect.connected connected) waits
  refine ⟨outcomes, ?_⟩
  generalize ({ w' with looping := true } : World).flush = flushed at drained ⊢
  have replies : w'.replies = w.replies := effect.replies
  have posts : w'.posts = w.posts := effect.posts
  have deliveries : w'.deliveries = w.deliveries ++ told := effect.deliveries
  have finished : w'.finished = w.finished := effect.finished
  obtain ⟨inner, joined, -⟩ := drained.joined
  have joined : all = tasks ++ inner := by rw [joined, queue]
  have count : flushed.created - w.created = all.length := by
    rw [drained.created]
    omega
  constructor
  · exact drained.queue
  · refine settled.imp fun turn outcome one => ?_
    have one := one.mono (List.subset_append_left tasks inner)
    rw [← joined] at one
    exact one.settles drained posts replies
  · have heard := drained.deliveries_eq
    simp only [deliveries, replies, queue, List.append_assoc] at heard
    rw [heard]
    exact hears.append_left _
  · rw [drained.length_posts, count, posts]
  · rw [drained.finished, count, List.map_append, List.map_map, ← drained.numbers, finished]
    rfl
  · rw [count, ← drained.numbers, joined, List.map_append]
    exact numbers.trans (List.sublist_append_left _ _)

end EventTracker
