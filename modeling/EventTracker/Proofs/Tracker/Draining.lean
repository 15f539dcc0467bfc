import EventTracker.Proofs.Tracker.Effects
import EventTracker.Tracker.EventLoop
import Mathlib.Data.List.Basic

/-!
# Running tasks to their end

A task that is run posts once, takes one reply, tells its listener of one outcome and is
finished with that outcome; what its listener tracks joins the end of the queue. Tasks
that come of listeners bring about no further ones, so draining runs every task and ends
with an empty queue.
-/

namespace EventTracker

/-- The reply when the script has ended. -/
def Reply.accepting : Reply := .text 200 "1"

/-- What becomes of a reply on its way through a transport. -/
def Reply.through (direct : Bool) (url : Text) (reply : Reply) : Exchange :=
  if direct then reply.direct else reply.overHttp url

/-- Whether a tracker posts through a transport of the caller's. -/
def Tracker.isDirect (t : Tracker) : Bool := t.channel = some .direct

/-- The outcome of a request to which there is a reply. -/
def Task.outcome (direct : Bool) (task : Task) (reply : Reply) : Outcome :=
  ((reply.through direct task.url).outcome false task.endpoint task.url).1

/-- What is told does not depend on how failures are logged. -/
theorem Exchange.outcome_fst (exchange : Exchange) (debug : Bool) (endpoint : Endpoint)
    (url : Text) :
    (exchange.outcome debug endpoint url).1 = (exchange.outcome false endpoint url).1 := by
  cases exchange with
  | text response =>
    unfold Exchange.outcome
    simp only
    split <;> rfl
  | refused problem status place => rfl
  | raised kind message => rfl

theorem isAccepted_iff (response : String) :
    isAccepted response = true ↔ response = "1" ∨ response = "\"1\"" := by
  rw [isAccepted, Bool.or_eq_true, beq_iff_eq, beq_iff_eq]

/-- A request is accepted exactly if the transport gives one of the two texts that say so. -/
theorem Task.outcome_eq_accepted_iff (direct : Bool) (task : Task) (reply : Reply) :
    task.outcome direct reply = .accepted ↔
      reply.through direct task.url = .text "1" ∨
        reply.through direct task.url = .text "\"1\"" := by
  unfold Task.outcome
  cases reply.through direct task.url with
  | text response =>
    rw [Exchange.text.injEq, Exchange.text.injEq, ← isAccepted_iff]
    unfold Exchange.outcome
    cases accepted : isAccepted response with
    | true => simp only [accepted, if_true]
    | false => simp only [accepted, Bool.false_eq_true, if_false, reduceCtorEq]
  | refused problem status place => simp only [Exchange.outcome, reduceCtorEq, or_self]
  | raised kind message => simp only [Exchange.outcome, reduceCtorEq, or_self]

/-- A request that is not accepted ends with a transport error. -/
theorem Task.outcome_accepted_or (direct : Bool) (task : Task) (reply : Reply) :
    task.outcome direct reply = .accepted ∨ ∃ problem status place,
      task.outcome direct reply = .failed (.transport problem status place) := by
  unfold Task.outcome
  cases reply.through direct task.url with
  | text response =>
    unfold Exchange.outcome
    simp only
    split
    · exact Or.inl rfl
    · exact Or.inr ⟨_, _, _, rfl⟩
  | refused problem status place => exact Or.inr ⟨_, _, _, rfl⟩
  | raised kind message => exact Or.inr ⟨_, _, _, rfl⟩

/-! ## Connections -/

/-- A tracker whose channel and whose session, where it has them, are open. -/
structure Tracker.Connected (t : Tracker) (sessions : List Bool) : Prop where
  channel : ∀ session, t.channel = some (.http session) → sessions[session]? = some true
  session : ∀ session, t.session = some session → sessions[session]? = some true

/-- A world in which no tracker would post on a closed session. -/
def World.Connected (w : World) : Prop := ∀ t ∈ w.trackers, t.Connected w.sessions

variable {t : Tracker} {w w' : World}

theorem isOpen_http_iff {session : Nat} :
    w.isOpen (.http session) = true ↔ w.sessions[session]? = some true := by
  rw [World.isOpen]
  cases w.sessions[session]? with
  | none => decide
  | some state => cases state <;> decide

theorem World.Connected.of_alone (alone : w.trackers = [t]) (connected : t.Connected w.sessions) :
    w.Connected := by
  rw [World.Connected, alone]
  exact List.forall_mem_singleton.2 connected

theorem World.Connected.tracker (connected : w.Connected) (alone : w.trackers = [t]) :
    t.Connected w.sessions :=
  connected t (alone ▸ List.mem_singleton_self t)

theorem Extends.connected {told : List (String × Outcome)} {tasks : List Task}
    (effect : Extends t w w' told tasks) (connected : w.Connected) : w'.Connected := by
  obtain ⟨props, after⟩ := effect.after
  obtain ⟨channel, session⟩ := connected.tracker effect.before
  rw [← effect.sessions] at channel session
  exact .of_alone after ⟨channel, session⟩

/-- What a connected tracker goes on to post with is open. -/
theorem isOpen_openChannel (place : Nat) (connected : t.Connected w.sessions) :
    (w.openChannel place t).1.isOpen (w.openChannel place t).2 = true := by
  unfold World.openChannel
  cases channel : t.channel with
  | some c =>
    cases c with
    | direct => rfl
    | http session => exact isOpen_http_iff.2 (connected.channel session channel)
  | none =>
    cases opened : t.session with
    | some session => exact isOpen_http_iff.2 (connected.session session opened)
    | none => exact isOpen_http_iff.2 (by simp [World.setTracker])

/-- Connecting a tracker changes neither what it is given to post with nor whether that is open. -/
theorem openChannel_eq (before : w.trackers = [t]) (connected : w.Connected) :
    ∃ t' sessions traffic channel,
      w.openChannel 0 t = ({ w with trackers := [t'], sessions, traffic }, channel) ∧
      t'.isDirect = t.isDirect ∧ decide (channel = .direct) = t.isDirect ∧
      t'.Connected sessions := by
  have here := connected.tracker before
  unfold World.openChannel
  cases channel : t.channel with
  | some c =>
    refine ⟨t, w.sessions, w.traffic, c, ?_, rfl, ?_, here⟩
    · rw [← before]
    · simp [Tracker.isDirect, channel]
  | none =>
    have indirect : t.isDirect = false := by simp [Tracker.isDirect, channel]
    cases opened : t.session with
    | some session =>
      have reached := here.session session opened
      refine ⟨{ t with channel := some (.http session) }, w.sessions, w.traffic, .http session, ?_,
        ?_, ?_, ⟨?_, here.session⟩⟩
      · simp [World.setTracker, before, opened]
      · rw [indirect]
        simp [Tracker.isDirect]
      · rw [indirect]
        simp
      · rintro _ ⟨⟩
        exact reached
    | none =>
      have added : (w.sessions ++ [true])[w.sessions.length]? = some true := by simp
      refine ⟨{ t with
        channel := some (.http w.sessions.length), session := some w.sessions.length },
        w.sessions ++ [true], w.traffic ++ [.opens w.sessions.length], .http w.sessions.length,
        ?_, ?_, ?_, ⟨?_, ?_⟩⟩
      · simp [World.setTracker, before]
      · rw [indirect]
        simp [Tracker.isDirect]
      · rw [indirect]
        simp
      · rintro _ ⟨⟩
        exact added
      · rintro _ ⟨⟩
        exact added

/-! ## One task -/

theorem nextReply_eq (w : World) :
    w.nextReply = (w.replies.headD .accepting, { w with replies := w.replies.tail }) := by
  unfold World.nextReply
  split
  case h_1 replies => rw [replies]; rfl
  case h_2 none => rw [none]; exact Prod.ext rfl (by rw [List.tail_nil, ← none])

theorem post_eq (t : Tracker) {channel : Channel} (opened : w.isOpen channel = true) (url : Text)
    (body : String) :
    ∃ timeout log, w.post t channel url body =
        ({ w with
            posts := w.posts ++ [⟨channel, url, body, timeout⟩]
            replies := w.replies.tail
            traffic := w.traffic ++ [.posts channel]
            log },
          (w.replies.headD .accepting).through (channel = .direct) url) := by
  unfold World.post
  simp only [opened, if_true, nextReply_eq]
  cases channel with
  | direct => exact ⟨none, _, rfl⟩
  | http session => exact ⟨some t.config.requestTimeout, _, rfl⟩

/-- What running a task does to a world of one tracker. -/
structure Ran (direct : Bool) (task : Task) (w w' : World) (tasks : List Task) : Prop where
  tracker : ∃ t, w'.trackers = [t] ∧ t.isDirect = direct
  connected : w'.Connected
  queue : w'.queue = w.queue ++ tasks
  created : w'.created = w.created + tasks.length
  numbers : tasks.map Task.number = List.range' w.created tasks.length
  owners : ∀ task ∈ tasks, task.owner = 0
  aftermath : Aftermath task.callback tasks
  posts : ∃ post, w'.posts = w.posts ++ [post] ∧ post.url = task.url ∧ post.body = task.body
  replies : w'.replies = w.replies.tail
  deliveries : w'.deliveries = w.deliveries ++
    heard task.callback (task.outcome direct (w.replies.headD .accepting))
  finished : w'.finished =
    w.finished ++ [(task.number, task.outcome direct (w.replies.headD .accepting))]

theorem ran_runTask (before : w.trackers = [t]) (connected : w.Connected) {task : Task}
    (owner : task.owner = 0) : ∃ tasks, Ran t.isDirect task w (w.runTask task) tasks := by
  obtain ⟨t', sessions, traffic, channel, opened, direct', direct, reached⟩ :=
    openChannel_eq before connected
  have reach := isOpen_openChannel 0 (connected.tracker before)
  rw [opened] at reach
  have found : w.trackers[task.owner]? = some t := by rw [owner, before]; rfl
  unfold World.runTask
  rw [found, owner]
  simp only [opened]
  obtain ⟨timeout, log, posted⟩ :=
    post_eq (w := { w with trackers := [t'], sessions, traffic }) t reach task.url task.body
  simp only [posted]
  have told : ((((w.replies.headD .accepting).through (decide (channel = .direct)) task.url).outcome
      t.debug task.endpoint task.url).1) = task.outcome t.isDirect (w.replies.headD .accepting) := by
    rw [Exchange.outcome_fst, direct]
    rfl
  rw [told]
  generalize (((w.replies.headD .accepting).through (decide (channel = .direct)) task.url).outcome
      t.debug task.endpoint task.url).2 = records
  let posted : World :=
    { w with
      trackers := [t']
      sessions
      traffic := traffic ++ [.posts channel]
      posts := w.posts ++ [⟨channel, task.url, task.body, timeout⟩]
      replies := w.replies.tail
      log }
  obtain ⟨tasks, aftermath, effect⟩ := extends_deliver (t := t') (w := posted.record records) rfl
    task.callback (task.outcome t.isDirect (w.replies.headD .accepting))
  refine ⟨tasks, ?_⟩
  obtain ⟨props, after⟩ := effect.after
  constructor
  · exact ⟨_, after, direct'⟩
  · exact effect.connected (.of_alone (t := t') rfl reached)
  · exact effect.queue
  · exact effect.created
  · exact effect.numbers
  · exact effect.owners
  · exact aftermath
  · exact ⟨_, effect.posts, rfl, rfl⟩
  · exact effect.replies
  · exact effect.deliveries
  · exact congrArg (· ++ _) effect.finished

/-! ## All tasks -/

/-- The reply that a task gets, where tasks are numbered from `first` on. -/
def Task.reply (replies : List Reply) (first : Nat) (task : Task) : Reply :=
  (replies[task.number - first]?).getD .accepting

theorem Task.reply_first {replies : List Reply} {first : Nat} {task : Task}
    (number : task.number = first) : task.reply replies first = replies.headD .accepting := by
  rw [Task.reply, number, Nat.sub_self]
  cases replies <;> rfl

theorem Task.reply_tail {replies : List Reply} {first : Nat} {task : Task}
    (later : first + 1 ≤ task.number) :
    task.reply replies.tail (first + 1) = task.reply replies first := by
  rw [Task.reply, Task.reply, List.getElem?_tail]
  congr 3
  omega

/-- What draining does: all tasks that wait and all that come of their listeners are run in order,
each with its own reply. -/
structure Drained (direct : Bool) (first : Nat) (w w' : World) (tasks : List Task) : Prop where
  queue : w'.queue = []
  joined : ∃ inner, tasks = w.queue ++ inner ∧ ∀ task ∈ inner, task.callback = .null
  numbers : tasks.map Task.number = List.range' first tasks.length
  created : w'.created = first + tasks.length
  posts : ∃ posts, w'.posts = w.posts ++ posts ∧
    posts.map (fun post => (post.url, post.body)) = tasks.map fun task => (task.url, task.body)
  replies : w'.replies = w.replies.drop tasks.length
  deliveries : w'.deliveries = w.deliveries ++ tasks.flatMap fun task =>
    heard task.callback (task.outcome direct (task.reply w.replies first))
  finished : w'.finished = w.finished ++ tasks.map fun task =>
    (task.number, task.outcome direct (task.reply w.replies first))

theorem Task.weight_pos (task : Task) : 0 < task.weight := by
  unfold Task.weight
  split <;> decide

theorem Task.totalWeight_append (tasks more : List Task) :
    Task.totalWeight (tasks ++ more) = Task.totalWeight tasks + Task.totalWeight more := by
  induction tasks with
  | nil => exact (Nat.zero_add _).symm
  | cons task rest ih => rw [List.cons_append, totalWeight, totalWeight, ih, Nat.add_assoc]

/-- A task outweighs what comes of its listener. -/
theorem Aftermath.totalWeight_lt {task : Task} {tasks : List Task}
    (aftermath : Aftermath task.callback tasks) : Task.totalWeight tasks < task.weight := by
  rcases aftermath with rfl | ⟨label, event, mark, inner, listener, rfl, unheard⟩
  · exact task.weight_pos
  · rw [Task.totalWeight, Task.totalWeight, Task.weight, Task.weight, listener, unheard]
    exact Nat.one_lt_two

/-- What weighs nothing is no task. -/
theorem Task.eq_nil_of_totalWeight {tasks : List Task} (light : Task.totalWeight tasks ≤ 0) :
    tasks = [] := by
  cases tasks with
  | nil => rfl
  | cons task rest =>
    have pos := task.weight_pos
    rw [totalWeight] at light
    omega

/-- The tasks that wait after one was run weigh less than those before. -/
theorem Ran.totalWeight_le {direct : Bool} {task : Task} {rest tasks : List Task} {fuel : Nat}
    (ran : Ran direct task { w with queue := rest } w' tasks) (waits : w.queue = task :: rest)
    (enough : Task.totalWeight w.queue ≤ fuel + 1) : Task.totalWeight w'.queue ≤ fuel := by
  have lighter := ran.aftermath.totalWeight_lt
  rw [waits, Task.totalWeight] at enough
  rw [ran.queue, Task.totalWeight_append]
  show Task.totalWeight rest + _ ≤ _
  omega

theorem Aftermath.unheard {listener : Value} {tasks : List Task}
    (aftermath : Aftermath listener tasks) : ∀ task ∈ tasks, task.callback = .null := by
  rcases aftermath with rfl | ⟨label, event, mark, inner, listens, rfl, unheard⟩
  · exact List.forall_mem_nil _
  · exact List.forall_mem_singleton.2 unheard

/-- A queue of the current tracker's tasks, numbered one after another up to the last one
created. -/
structure Waiting (first : Nat) (w : World) : Prop where
  owners : ∀ task ∈ w.queue, task.owner = 0
  numbers : w.queue.map Task.number = List.range' first w.queue.length
  created : w.created = first + w.queue.length

theorem drained_of_idle {first : Nat} (waiting : Waiting first w) (idle : w.queue = []) (direct : Bool) :
    Drained direct first w w [] where
  queue := idle
  joined := ⟨[], by rw [idle]; rfl, List.forall_mem_nil _⟩
  numbers := rfl
  created := by rw [waiting.created, idle]
  posts := ⟨[], (List.append_nil _).symm, rfl⟩
  replies := rfl
  deliveries := (List.append_nil _).symm
  finished := (List.append_nil _).symm

/-- What waits after a task was run. -/
theorem Ran.waiting {direct : Bool} {first : Nat} {task : Task} {rest tasks : List Task}
    (ran : Ran direct task { w with queue := rest } w' tasks) (waits : w.queue = task :: rest)
    (waiting : Waiting first w) : task.number = first ∧ Waiting (first + 1) w' := by
  obtain ⟨owners, numbers, created⟩ := waiting
  rw [waits, List.forall_mem_cons] at owners
  rw [waits, List.map_cons, List.length_cons, List.range'_succ, List.cons.injEq] at numbers
  rw [waits, List.length_cons] at created
  have queue : w'.queue = rest ++ tasks := ran.queue
  have numbered : tasks.map Task.number = List.range' w.created tasks.length := ran.numbers
  have more : w'.created = w.created + tasks.length := ran.created
  refine ⟨numbers.1, ?_, ?_, ?_⟩
  · rw [queue]
    intro task' mem
    rcases List.mem_append.1 mem with mem | mem
    · exact owners.2 task' mem
    · exact ran.owners task' mem
  · rw [queue, List.map_append, numbers.2, numbered, List.length_append, created,
      show first + (rest.length + 1) = first + 1 + rest.length by omega, List.range'_append_1]
  · rw [more, queue, created, List.length_append]
    omega

/-- A task that is run before the others are drained. -/
theorem Drained.cons {direct : Bool} {first : Nat} {task : Task} {w'' : World}
    {rest inner tasks : List Task} (ran : Ran direct task { w with queue := rest } w' inner)
    (waits : w.queue = task :: rest) (number : task.number = first)
    (drained : Drained direct (first + 1) w' w'' tasks) :
    Drained direct first w w'' (task :: tasks) := by
  have replies : w'.replies = w.replies.tail := ran.replies
  have own : task.reply w.replies first = w.replies.headD .accepting := Task.reply_first number
  have later : ∀ task' ∈ tasks, task'.reply w'.replies (first + 1) = task'.reply w.replies first := by
    intro task' mem
    have numbered : task'.number ∈ List.range' (first + 1) tasks.length :=
      drained.numbers ▸ List.mem_map_of_mem mem
    rw [replies, Task.reply_tail (List.mem_range'_1.1 numbered).1]
  constructor
  · exact drained.queue
  · obtain ⟨others, joined, unheard⟩ := drained.joined
    refine ⟨inner ++ others, ?_, ?_⟩
    · have queue : w'.queue = rest ++ inner := ran.queue
      rw [joined, queue, waits, List.cons_append, List.append_assoc]
    · intro task' mem
      rcases List.mem_append.1 mem with mem | mem
      · exact ran.aftermath.unheard task' mem
      · exact unheard task' mem
  · rw [List.map_cons, List.length_cons, List.range'_succ, number, drained.numbers]
  · rw [drained.created, List.length_cons]
    omega
  · obtain ⟨post, posted, url, body⟩ := ran.posts
    obtain ⟨posts, others, same⟩ := drained.posts
    refine ⟨post :: posts, ?_, ?_⟩
    · rw [others, posted, List.append_assoc]
      rfl
    · rw [List.map_cons, List.map_cons, same, url, body]
  · rw [drained.replies, replies, List.drop_tail, List.length_cons]
  · have told : w'.deliveries =
        w.deliveries ++ heard task.callback (task.outcome direct (w.replies.headD .accepting)) :=
      ran.deliveries
    rw [drained.deliveries, told, List.flatMap_cons, own, List.append_assoc]
    congr 2
    refine List.flatMap_congr fun task' mem => ?_
    rw [later task' mem]
  · have done : w'.finished =
        w.finished ++ [(task.number, task.outcome direct (w.replies.headD .accepting))] :=
      ran.finished
    rw [drained.finished, done, List.map_cons, own, List.append_assoc, List.singleton_append]
    congr 2
    refine List.map_congr_left fun task' mem => ?_
    rw [later task' mem]

theorem drained_drain {first fuel : Nat} (before : w.trackers = [t]) (connected : w.Connected)
    (waiting : Waiting first w) (enough : Task.totalWeight w.queue ≤ fuel) :
    ∃ tasks, Drained t.isDirect first w (w.drain fuel) tasks := by
  induction fuel generalizing w t first with
  | zero =>
    exact ⟨[], drained_of_idle waiting (Task.eq_nil_of_totalWeight enough) _⟩
  | succ fuel ih =>
    rw [World.drain]
    cases waits : w.queue with
    | nil => exact ⟨[], drained_of_idle waiting waits _⟩
    | cons task rest =>
      have owner := waiting.owners task (waits ▸ List.mem_cons_self)
      obtain ⟨inner, ran⟩ := ran_runTask (w := { w with queue := rest }) before connected owner
      obtain ⟨number, waiting'⟩ := ran.waiting waits waiting
      obtain ⟨t', after, direct⟩ := ran.tracker
      obtain ⟨tasks, drained⟩ := ih after ran.connected waiting' (ran.totalWeight_le waits enough)
      rw [direct] at drained
      exact ⟨task :: tasks, drained.cons ran waits number⟩

theorem drain_idle (idle : w.queue = []) (fuel : Nat) : w.drain fuel = w := by
  cases fuel with
  | zero => rfl
  | succ fuel => rw [World.drain, idle]

theorem drain_add (w : World) (fuel more : Nat) :
    w.drain (fuel + more) = (w.drain fuel).drain more := by
  induction fuel generalizing w with
  | zero => rw [Nat.zero_add, World.drain]
  | succ fuel ih =>
    rw [Nat.succ_add, World.drain, World.drain]
    cases waits : w.queue with
    | nil => exact (drain_idle waits more).symm
    | cons task rest => exact ih _

end EventTracker
