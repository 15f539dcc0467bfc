import EventTracker.Proofs.Tracker.Sessions

/-!
# The life of a client's sessions

A client that is given nothing to post with has at most one session open at any moment,
posts on no closed one, and has closed all of them when it is closed; it may be used again
then, and opens another. What the caller gives is posted with throughout, and stays open.
-/

namespace EventTracker

open SessionEvent

/-- A world with one tracker, whose link, sessions and posts are what the traffic since a world before
makes of those of that world. -/
structure World.Links (w base : World) (start : Link) (events : List SessionEvent) (link : Link)
    (t : Tracker) : Prop where
  serves : w.Serves t
  holds : link.Holds t
  traffic : w.traffic = base.traffic ++ events
  course : Traffic base.sessions.length start link events
  sessions : w.sessions = events.foldl apply base.sessions
  /-- What is posted is sent. -/
  posts : w.posts.map Post.channel = base.posts.map Post.channel ++ channels events

/-- The link and the traffic agree in some way. -/
abbrev World.Linked (w base : World) (start : Link) : Prop :=
  ∃ events link t, w.Links base start events link t

variable {base : World} {start link : Link} {events : List SessionEvent} {t : Tracker}
  {w w' : World}

namespace World.Links

theorem length_sessions (links : w.Links base start events link t) :
    w.sessions.length = base.sessions.length + (opened events).length := by
  rw [links.sessions, length_foldl_apply]

/-- What comes from here on can be told on its own. -/
theorem restart (links : w.Links base start events link t) : w.Links w link [] link t where
  serves := links.serves
  holds := links.holds
  traffic := (List.append_nil _).symm
  course := .starts
  sessions := rfl
  posts := (List.append_nil _).symm

theorem during (links : w.Links base start events link t) (step : ClientStep) :
    (w.during step).Links base start events link t :=
  ⟨links.serves.during step, links.holds, links.traffic, links.course, links.sessions, links.posts⟩

end World.Links

/-! ## Running tasks -/

theorem openChannel_of_idle (alone : w.trackers = [t]) (holds : Link.idle.Holds t) :
    w.openChannel 0 t =
      ({ w with
          trackers := [{ t with
            channel := some (.http w.sessions.length), session := some w.sessions.length }]
          sessions := w.sessions ++ [true]
          traffic := w.traffic ++ [.opens w.sessions.length] }, .http w.sessions.length) := by
  obtain ⟨-, session, channel⟩ := holds
  simp only [World.openChannel, channel, session, World.setTracker, alone]
  rfl

/-- What a client posts with already, it goes on to post with. -/
theorem exists_openChannel_of_link {channel : Channel} (alone : w.trackers = [t])
    (holds : link.Holds t) (through : link.channel? = some channel) :
    ∃ t', link.Holds t' ∧ w.openChannel 0 t = ({ w with trackers := [t'] }, channel) := by
  have already (open_ : t.channel = some channel) :
      w.openChannel 0 t = ({ w with trackers := [t] }, channel) := by
    simp only [World.openChannel, open_, ← alone]
  cases link with
  | idle => cases through
  | own session =>
    cases through
    exact ⟨t, holds, already holds.2.2⟩
  | direct =>
    cases through
    exact ⟨t, holds, already holds.2.2⟩
  | lent session =>
    cases through
    obtain ⟨external, given, unused | used⟩ := holds
    · refine ⟨{ t with channel := some (.http session) }, ⟨external, given, .inr rfl⟩, ?_⟩
      simp only [World.openChannel, unused, given, World.setTracker, alone]
      rfl
    · exact ⟨t, ⟨external, given, .inr used⟩, already used⟩

/-- What listeners are told leaves connections and traffic alone. -/
theorem deliver_connected (current : w.current? = some t) (listener : Value) (outcome : Outcome) :
    (w.deliver listener outcome).trackers = w.trackers ∧
      (w.deliver listener outcome).sessions = w.sessions ∧
      (w.deliver listener outcome).traffic = w.traffic ∧
      (w.deliver listener outcome).posts = w.posts := by
  obtain ⟨moves, told⟩ := (comesTo_deliver current listener outcome).exists_moves
  have told : w.deliver listener outcome = w.moves moves := told
  rw [told]
  exact ⟨w.moves_trackers moves, w.moves_sessions moves, w.moves_traffic moves, w.moves_posts moves⟩

/-- Running a task leaves the connection that was made for it, and posts on it. -/
theorem runTask_connected {task : Task} {t' : Tracker} (sessions : List Bool)
    (traffic : List SessionEvent) {channel : Channel} (serves : w.Serves t) (owner : task.owner = 0)
    (connected : w.openChannel 0 t = ({ w with trackers := [t'], sessions, traffic }, channel)) :
    ∃ post : Post, post.channel = channel ∧ (w.runTask task).trackers = [t'] ∧
      (w.runTask task).sessions = sessions ∧
      (w.runTask task).traffic = traffic ++ [.posts channel] ∧
      (w.runTask task).posts = w.posts ++ [post] := by
  have found : w.trackers[task.owner]? = some t := by rw [owner, serves.alone]; rfl
  have reach := isOpen_openChannel 0 (serves.connected.tracker serves.alone)
  rw [connected] at reach
  obtain ⟨timeout, log, posted⟩ := post_eq (w := { w with trackers := [t'], sessions, traffic })
    t reach task.url task.body
  unfold World.runTask
  rw [found, owner]
  simp only [connected, posted]
  exact ⟨⟨channel, task.url, task.body, timeout⟩, rfl,
    deliver_connected (t := t') rfl task.callback _⟩

theorem serves_runTask {task : Task} {t' : Tracker} (serves : w.Serves t) (owner : task.owner = 0)
    (alone : (w.runTask task).trackers = [t']) : (w.runTask task).Serves t' := by
  obtain ⟨tasks, ran⟩ := ran_runTask serves.alone serves.connected owner
  exact serves.append alone ran.queue ran.owners ran.connected

/-- A client that posts with nothing as yet opens a session. -/
theorem World.Links.runTask_of_idle {task : Task} (links : w.Links base start events .idle t)
    (owner : task.owner = 0) :
    ∃ t', (w.runTask task).Links base start
      (events ++ [.opens w.sessions.length] ++ [.posts (.http w.sessions.length)])
      (.own w.sessions.length) t' := by
  obtain ⟨post, through, kept, sessions, traffic, posts⟩ := runTask_connected _ _ links.serves owner
    (openChannel_of_idle links.serves.alone links.holds)
  have course := links.course.opens
  rw [← links.length_sessions] at course
  refine ⟨_, serves_runTask links.serves owner kept, ⟨links.holds.1, rfl, rfl⟩, ?_,
    .posts rfl course, ?_, ?_⟩
  · rw [traffic, links.traffic, List.append_assoc, List.append_assoc, List.append_assoc]
  · rw [sessions, links.sessions, List.foldl_append, List.foldl_append]
    rfl
  · rw [posts, List.map_append, links.posts, channels_append, channels_append, channels_opens,
      channels_posts, List.append_nil, List.append_assoc, ← through]
    rfl

theorem World.Links.runTask_of_channel {task : Task} {channel : Channel}
    (links : w.Links base start events link t) (owner : task.owner = 0)
    (through : link.channel? = some channel) :
    ∃ t', (w.runTask task).Links base start (events ++ [.posts channel]) link t' := by
  obtain ⟨t', holds, connected⟩ :=
    exists_openChannel_of_link links.serves.alone links.holds through
  obtain ⟨post, rfl, kept, sessions, traffic, posts⟩ :=
    runTask_connected w.sessions w.traffic links.serves owner connected
  refine ⟨t', serves_runTask links.serves owner kept, holds, ?_, .posts through links.course, ?_, ?_⟩
  · rw [traffic, links.traffic, List.append_assoc]
  · rw [sessions, links.sessions, List.foldl_append]
    rfl
  · rw [posts, List.map_append, links.posts, channels_append, channels_posts, List.append_assoc]
    rfl

theorem World.Links.runTask {task : Task} (links : w.Links base start events link t)
    (owner : task.owner = 0) : (w.runTask task).Linked base start := by
  cases through : link.channel? with
  | none =>
    obtain rfl : link = .idle := by cases link <;> first | rfl | cases through
    exact ⟨_, _, links.runTask_of_idle owner⟩
  | some channel => exact ⟨_, _, links.runTask_of_channel owner through⟩

theorem World.Links.started {task : Task} {rest : List Task}
    (links : w.Links base start events link t) (waits : w.queue = task :: rest) :
    task.owner = 0 ∧ ({ w with queue := rest } : World).Links base start events link t := by
  obtain ⟨owner, here⟩ := links.serves.started waits
  exact ⟨owner, here, links.holds, links.traffic, links.course, links.sessions, links.posts⟩

namespace World.Linked

theorem drain (linked : w.Linked base start) (fuel : Nat) : (w.drain fuel).Linked base start := by
  induction fuel generalizing w with
  | zero => exact linked
  | succ fuel ih =>
    rw [World.drain]
    cases waits : w.queue with
    | nil => exact linked
    | cons task rest =>
      obtain ⟨events, link, t, links⟩ := linked
      obtain ⟨owner, started⟩ := links.started waits
      exact ih (started.runTask owner)

theorem flush (linked : w.Linked base start) : w.flush.Linked base start := by
  unfold World.flush
  split
  case isTrue => exact linked
  case isFalse => exact linked.drain w.workload

end World.Linked

theorem flush_of_idle (idle : w.queue = []) : w.flush = w := by
  have none : w.pending = 0 := by rw [World.pending, idle]; rfl
  exact if_pos none

/-! ## Closing -/

theorem close_of_own {session : Nat} (links : w.flush.Links base start events (.own session) t) :
    w.close = { w.flush with
      trackers := [{ t with session := none, channel := none }]
      sessions := w.flush.sessions.set session false
      traffic := w.flush.traffic ++ [.closes session] } := by
  obtain ⟨external, opened, -⟩ := links.holds
  unfold World.close
  simp only [links.serves.current, external, opened, World.setTracker, links.serves.place,
    links.serves.alone]
  rfl

theorem close_of_other (links : w.flush.Links base start events link t)
    (none : link.unclosed = []) : w.close = w.flush := by
  unfold World.close
  simp only [links.serves.current]
  have holds := links.holds
  cases link with
  | own session => cases none
  | idle | direct | lent session => simp only [holds.1, holds.2.1]

/-- A client that is closed waits for nothing, and has no session of its own. -/
theorem World.Linked.close (linked : w.Linked base start) :
    ∃ events link t, w.close.Links base start events link t ∧ link.unclosed = [] ∧
      w.close.queue = [] := by
  obtain ⟨_, _, _, before⟩ := linked
  have emptied := flush_queue before.serves
  obtain ⟨events, link, t, links⟩ := World.Linked.flush ⟨_, _, _, before⟩
  cases unclosed : link.unclosed with
  | nil =>
    rw [close_of_other links unclosed]
    exact ⟨events, link, t, links, unclosed, emptied⟩
  | cons session rest =>
    obtain rfl : link = .own session := by cases link <;> cases unclosed; rfl
    have disconnected : Tracker.Connected { t with session := none, channel := none }
      (w.flush.sessions.set session false) := ⟨nofun, nofun⟩
    rw [close_of_own links]
    refine ⟨events ++ [.closes session], .idle, _, ⟨⟨rfl, links.serves.owners,
      .of_alone rfl disconnected⟩, ⟨links.holds.1, rfl, rfl⟩, ?_, links.course.closes, ?_, ?_⟩, rfl,
      emptied⟩
    · rw [links.traffic, List.append_assoc]
    · rw [List.foldl_append, ← links.sessions]
      rfl
    · rw [channels_append, channels_closes, List.append_nil]
      exact links.posts

/-- Closing once more does nothing. -/
theorem World.Links.close_again (links : w.Links base start events link t)
    (unclosed : link.unclosed = []) (emptied : w.queue = []) : w.close = w := by
  have same := flush_of_idle emptied
  rw [← same] at links
  exact (close_of_other links unclosed).trans same

/-! ## Outcomes -/

/-- Each task that waits is finished with the outcome of its own reply, and so are those that
listeners bring about. -/
theorem exists_finished_drain {fuel : Nat} (serves : w.Serves t)
    (enough : Task.totalWeight w.queue ≤ fuel) :
    ∃ more, (w.drain fuel).finished = w.finished ++ (w.queue ++ more).mapIdx fun place task =>
      (task.number, task.outcome t.isDirect (w.replies[place]?.getD .accepting)) := by
  induction fuel generalizing w t with
  | zero => exact ⟨[], by simp [World.drain, Task.eq_nil_of_totalWeight enough]⟩
  | succ fuel ih =>
    rw [World.drain]
    cases waits : w.queue with
    | nil => exact ⟨[], (List.append_nil _).symm⟩
    | cons task rest =>
      obtain ⟨owner, here⟩ := serves.started waits
      obtain ⟨inner, ran⟩ := ran_runTask here.alone here.connected owner
      obtain ⟨t', after, direct⟩ := ran.tracker
      obtain ⟨more, finished⟩ :=
        ih (serves_runTask here owner after) (ran.totalWeight_le waits enough)
      refine ⟨inner ++ more, finished.trans ?_⟩
      rw [ran.finished, ran.queue, ran.replies, direct, List.append_assoc, List.append_assoc,
        List.singleton_append, List.cons_append, List.mapIdx_cons]
      have head : w.replies.headD .accepting = w.replies[0]?.getD .accepting := by
        cases w.replies <;> rfl
      simp only [List.getElem?_tail, head]

theorem exists_finished_flush (serves : w.Serves t) :
    ∃ more, w.flush.finished = w.finished ++ (w.queue ++ more).mapIdx fun place task =>
      (task.number, task.outcome t.isDirect (w.replies[place]?.getD .accepting)) := by
  rw [flush_eq_drain serves.alone serves.owners]
  exact exists_finished_drain serves (Nat.le_refl _)

/-! ## Runs -/

/-- What is asked of a client besides flushing and closing leaves its link alone. -/
theorem World.Links.moved (links : w.Links base start events link t) (moves : w.Moves w' t) :
    ∃ t', w'.Links base start events link t' := by
  obtain ⟨desk, props, config, environment, moves, rfl, owners⟩ := moves
  have desked := links.serves.desked desk props config environment
  refine ⟨_, desked.after_moves owners, ?_, (World.moves_traffic _ _).trans links.traffic,
    links.course, (World.moves_sessions _ _).trans links.sessions,
    (congrArg _ (World.moves_posts _ _)).trans links.posts⟩
  have holds := links.holds
  cases link <;> exact holds

namespace World.Linked

theorem during (linked : w.Linked base start) (step : ClientStep) :
    (w.during step).Linked base start := by
  obtain ⟨events, link, t, links⟩ := linked
  exact ⟨events, link, t, links.during step⟩

theorem handle (linked : w.Linked base start) (step : ClientStep) :
    (w.handle step).1.Linked base start := by
  obtain ⟨events, link, t, links⟩ := linked.during step
  simp only [World.handle, links.serves.current]
  by_cases flushes : step.action = .act .flush
  · rw [flushes]
    exact World.Linked.flush ⟨events, link, t, links⟩
  by_cases closes : step.action = .close
  · obtain ⟨events', link', t', closed, -⟩ := World.Linked.close ⟨events, link, t, links⟩
    rw [closes]
    exact ⟨events', link', t', closed⟩
  · obtain ⟨t', moved⟩ := links.moved (links.serves.moves_perform flushes closes)
    exact ⟨events, link, t', moved⟩

theorem handled (linked : w.Linked base start) (steps : List ClientStep) :
    (w.handled steps).Linked base start := by
  induction steps generalizing w with
  | nil => exact linked
  | cons step rest ih => exact ih (linked.handle step)

end World.Linked

/-- What a client that is opened posts with. -/
def Connection.firstLink (sessions : List Bool) : Connection → Link
  | .own => .idle
  | .session => .lent sessions.length
  | .direct => .direct

theorem linked_openTracker {token : Value} {config : Config} {environment : Option Environment}
    {connection : Connection} {shared : Bool} (alone : w.trackers = []) (idle : w.queue = [])
    (opened : w.openTracker token config environment connection shared = (w', .ok ())) :
    ∃ t, w'.Links w' (connection.firstLink w.sessions) [] (connection.firstLink w.sessions) t := by
  obtain ⟨text, disk, -, -, -, rfl⟩ := World.exists_of_openTracker_eq_ok opened
  refine ⟨_, serves_joinedBy alone idle text config environment connection _, ?_,
    (List.append_nil _).symm, .starts, rfl, (List.append_nil _).symm⟩
  cases connection with
  | own => exact ⟨rfl, rfl, rfl⟩
  | direct => exact ⟨rfl, rfl, rfl⟩
  | session => exact ⟨rfl, rfl, .inl rfl⟩

/-- Only requests are answered with the number of a task. -/
theorem exists_call_of_number {action : ClientAction} {n : Nat}
    (answered : (action.perform w t).2 = .ok (.of (.task (some n)))) :
    ∃ call, action = .act (.request call) ∧ (call.perform w t).2 = .ok (some n) := by
  cases action with
  | act action =>
    obtain ⟨answer, returned, same⟩ := Json.map_eq_ok_iff.1 answered
    cases same
    cases action with
    | request call => exact ⟨call, rfl, Action.number_of_answer returned⟩
    | register | registerOnce | unregister | property | configure =>
      obtain ⟨_, -, same⟩ := Json.map_eq_ok_iff.1 returned
      cases same
    | reset | distinctId | flush => cases returned
  | setting key =>
    obtain ⟨_, -, same⟩ := Json.map_eq_ok_iff.1 answered
    cases same
  | superProperties | surroundings | surround | close => cases answered

/-- A request joins the queue, and a flush finishes it with the outcome of the reply that follows
those to the requests before it. -/
def World.Answers (w : World) (step : ClientStep) : Prop :=
  ∀ n, (w.handle step).2 = .ok (.of (.task (some n))) →
    ∃ task, (w.handle step).1.queue = w.queue ++ [task] ∧ task.number = n ∧
      (n, task.outcome false (w.replies[w.queue.length]?.getD .accepting)) ∈
        (w.handle step).1.flush.finished

theorem answers_of_serves (serves : w.Serves t) (indirect : t.isDirect = false)
    (step : ClientStep) : w.Answers step := by
  intro n answered
  have here := serves.during step
  rw [World.handle_eq serves] at answered ⊢
  obtain ⟨call, asked, numbered⟩ := exists_call_of_number answered
  obtain ⟨props, made, schedules, makes⟩ := exists_makes here call
  obtain ⟨task, rfl, own⟩ := makes.eq_of_number here schedules numbered
  have same : (step.action.perform (w.during step) t).1 = (call.perform (w.during step) t).1 := by
    rw [asked]
    rfl
  have replies : (call.perform (w.during step) t).1.replies = w.replies := by
    obtain ⟨_, _, _, _, moves, moved, -⟩ := here.moves_request call
    rw [moved]
    exact World.moves_replies _ _
  obtain ⟨more, finished⟩ := exists_finished_flush (schedules.serves here)
  have queue : (call.perform (w.during step) t).1.queue = w.queue ++ [task] := schedules.queue
  rw [same]
  refine ⟨task, queue, own.number, ?_⟩
  rw [finished, queue, replies]
  refine List.mem_append_right _ (List.mem_iff_getElem?.2 ⟨w.queue.length, ?_⟩)
  have direct : Tracker.isDirect { t with props } = false := indirect
  simp [direct, own.number]

/-- A client without a transport of the caller's posts over HTTP. -/
theorem World.Links.isDirect (links : w.Links base start events link t) (http : start ≠ .direct) :
    t.isDirect = false := by
  have holds := links.holds
  cases link with
  | idle => simp [Tracker.isDirect, holds.2.2]
  | own session => simp [Tracker.isDirect, holds.2.2]
  | lent session => rcases holds.2.2 with unused | used <;> simp [Tracker.isDirect, *]
  | direct => exact absurd rfl (links.course.ne_direct http)

/-- The first thing that a client does that posts with nothing as yet is that it opens a session. -/
theorem World.Links.exists_traffic_flush (links : w.Links base start events .idle t) {task : Task}
    {rest : List Task} (waits : w.queue = task :: rest) :
    ∃ later, w.flush.traffic =
      w.traffic ++ .opens w.sessions.length :: .posts (.http w.sessions.length) :: later := by
  obtain ⟨owner, started⟩ := links.started waits
  obtain ⟨t', ran⟩ := started.restart.runTask_of_idle owner
  obtain ⟨fuel, room⟩ : ∃ fuel, w.workload = fuel + 1 := by
    have pos := task.weight_pos
    refine ⟨w.workload - 1, ?_⟩
    rw [World.workload, waits, Task.totalWeight]
    omega
  obtain ⟨later, _, _, drained⟩ := World.Linked.drain ⟨_, _, _, ran.restart⟩ fuel
  refine ⟨later, ?_⟩
  rw [flush_eq_drain links.serves.alone links.serves.owners, room, World.drain, waits]
  refine drained.traffic.trans ?_
  rw [ran.traffic, List.append_assoc]
  rfl

/-- What holds after a client was closed that opens sessions for itself, with the traffic since it was
opened: all of them are closed, nothing waits, closing once more does nothing, and a request opens
another session. -/
structure World.AtRest (w base : World) (events : List SessionEvent) : Prop where
  traffic : w.traffic = base.traffic ++ events
  balanced : opened events = closed events
  sessions : w.sessions = base.sessions ++ List.replicate (closed events).length false
  queue : w.queue = []
  pending : w.pending = 0
  again : w.close = w
  renewed : ∀ step n, (w.handle step).2 = .ok (.of (.task (some n))) →
    ∃ later, (w.handle step).1.flush.traffic =
      w.traffic ++ .opens w.sessions.length :: .posts (.http w.sessions.length) :: later

theorem World.Links.renewed (links : w.Links base start events .idle t) {step : ClientStep}
    {n : Nat} (answered : (w.handle step).2 = .ok (.of (.task (some n)))) :
    ∃ later, (w.handle step).1.flush.traffic =
      w.traffic ++ .opens w.sessions.length :: .posts (.http w.sessions.length) :: later := by
  have indirect : t.isDirect = false := by simp [Tracker.isDirect, links.holds.2.2]
  obtain ⟨task, queue, -⟩ := answers_of_serves links.serves indirect step n answered
  have here := links.serves.during step
  rw [World.handle_eq links.serves] at answered queue ⊢
  obtain ⟨call, asked, -⟩ := exists_call_of_number answered
  have moves : (w.during step).Moves (step.action.perform (w.during step) t).1 t :=
    here.moves_perform (by rw [asked]; rintro ⟨⟩) (by rw [asked]; rintro ⟨⟩)
  obtain ⟨t', after⟩ := (links.during step).moved moves
  obtain ⟨first, rest, waits⟩ : ∃ first rest,
      (step.action.perform (w.during step) t).1.queue = first :: rest := by
    rw [queue]
    cases w.queue with
    | nil => exact ⟨task, [], rfl⟩
    | cons first rest => exact ⟨first, rest ++ [task], rfl⟩
  obtain ⟨later, opens⟩ := after.exists_traffic_flush waits
  rw [after.traffic, ← links.traffic, after.length_sessions, ← links.length_sessions] at opens
  exact ⟨later, opens⟩

theorem atRest_close (before : w.Links base .idle events link t) :
    ∃ more, w.close.AtRest base (events ++ more) := by
  obtain ⟨all, link', t', links, unclosed, emptied⟩ := World.Linked.close ⟨_, _, _, before⟩
  obtain rfl : link' = .idle := by
    rcases links.course.idle_or_own with idle | ⟨session, rfl⟩
    · exact idle
    · cases unclosed
  -- What closing adds follows what was there.
  obtain ⟨more, _, _, later, -⟩ := World.Linked.close ⟨_, _, _, before.restart⟩
  obtain rfl : all = events ++ more := by
    have same := links.traffic.symm.trans later.traffic
    rw [before.traffic, List.append_assoc] at same
    exact List.append_cancel_left same
  refine ⟨more, links.traffic, ?_, ?_, emptied, ?_, links.close_again rfl emptied,
    fun step n answered => links.renewed answered⟩
  · exact links.course.opened_eq.trans (List.append_nil _)
  · exact (links.sessions.trans links.course.foldl_apply).trans (List.append_nil _)
  · rw [World.pending, emptied]
    rfl

theorem sessions_openTracker {token : Value} {config : Config} {environment : Option Environment}
    {connection : Connection} {shared : Bool}
    (opened : w.openTracker token config environment connection shared = (w', .ok ())) :
    w'.sessions = (w.connectedBy connection).sessions := by
  obtain ⟨text, disk, -, -, -, rfl⟩ := World.exists_of_openTracker_eq_ok opened
  rfl

/-- The sessions in the life of a client, whatever it is asked, are what its traffic makes of them, and
what it posts is sent. If it is given nothing to post with, it has at most one session open at any
moment and posts on no other; each of its requests is settled by the reply to it; and when it is
closed, all of its sessions are, nothing waits, closing once more does nothing, and a request opens
another session. A session or transport of the caller's is all that is posted with, and is neither
closed nor replaced. -/
theorem sessions_are_kept_and_closed {token : Value} {config : Config}
    {environment : Option Environment} {connection : Connection} {shared : Bool}
    (alone : w.trackers = []) (idle : w.queue = [])
    (opens : w.openTracker token config environment connection shared = (w', .ok ()))
    (steps : List ClientStep) :
    let here := w'.handled steps
    ∃ events, here.traffic = w'.traffic ++ events ∧
      here.sessions = events.foldl apply w'.sessions ∧
      here.posts.map Post.channel = w'.posts.map Post.channel ++ channels events ∧
      match connection with
      | .own =>
        Orderly w.sessions.length events ∧ (∀ step, here.Answers step) ∧
          ∀ looping, ∃ more, (here.handle ⟨looping, .close⟩).1.AtRest w' (events ++ more)
      | .session =>
        (∀ event ∈ events, event = .posts (.http w.sessions.length)) ∧
          here.sessions = w.sessions ++ [true] ∧
          ∃ t, here.trackers = [t] ∧ t.session = some w.sessions.length ∧
            (t.channel = none ∨ t.channel = some (.http w.sessions.length))
      | .direct =>
        (∀ event ∈ events, event = .posts .direct) ∧ here.sessions = w.sessions ∧
          ∃ t, here.trackers = [t] ∧ t.session = none ∧ t.channel = some .direct := by
  intro here
  have known := sessions_openTracker opens
  obtain ⟨t₀, first⟩ := linked_openTracker alone idle opens
  obtain ⟨events, link, t, links⟩ := World.Linked.handled ⟨_, _, t₀, first⟩ steps
  refine ⟨events, links.traffic, links.sessions, links.posts, ?_⟩
  cases connection with
  | own =>
    have known : w'.sessions = w.sessions := known
    refine ⟨known ▸ links.course.orderly, answers_of_serves links.serves (links.isDirect nofun),
      fun looping => ?_⟩
    rw [World.handle_eq links.serves]
    exact atRest_close (links.during ⟨looping, .close⟩)
  | session =>
    obtain ⟨rfl, posted⟩ := links.course.of_given rfl
    refine ⟨posted, ?_, t, links.serves.alone, links.holds.2.1, links.holds.2.2⟩
    rw [links.sessions, foldl_apply_of_posts posted]
    exact known
  | direct =>
    obtain ⟨rfl, posted⟩ := links.course.of_given rfl
    refine ⟨posted, ?_, t, links.serves.alone, links.holds.2.1, links.holds.2.2⟩
    rw [links.sessions, foldl_apply_of_posts posted]
    exact known

/-- A client whose listener tracks an event while the client is closed posts both events on one
session, and what it tracks later on another. -/
theorem sessions_are_kept_and_closed_twice :
    let start := World.fresh ⟨.memory [] [] 0, ⟨[]⟩, []⟩ []
    let opened := start.openTracker (.str "T") .standard none .own true
    let listener : Value := .callback ⟨"A", .track "echo", 0⟩
    let steps : List ClientStep :=
      [⟨true, .act (.request (.track (.str "seen") .null listener))⟩, ⟨true, .close⟩,
        ⟨true, .act (.request (.track (.str "left") .null .null))⟩]
    let here := opened.1.handled steps
    ∃ events more, here.traffic = opened.1.traffic ++ events ∧ Orderly 0 events ∧
      (here.handle ⟨true, .close⟩).1.AtRest opened.1 (events ++ more) ∧
      events ++ more =
        [.opens 0, .posts (.http 0), .posts (.http 0), .closes 0,
          .opens 1, .posts (.http 1), .closes 1] := by
  intro start opened listener steps here
  have told : (here.handle ⟨true, .close⟩).1.traffic = opened.1.traffic ++
      [.opens 0, .posts (.http 0), .posts (.http 0), .closes 0,
        .opens 1, .posts (.http 1), .closes 1] := by decide +kernel
  have given : opened = (opened.1, .ok ()) := rfl
  obtain ⟨events, traffic, -, -, orderly, -, closing⟩ :=
    sessions_are_kept_and_closed rfl rfl given steps
  obtain ⟨more, closed⟩ :
      ∃ more, (here.handle ⟨true, .close⟩).1.AtRest opened.1 (events ++ more) := closing true
  rw [closed.traffic] at told
  exact ⟨events, more, traffic, orderly, closed, List.append_cancel_left told⟩

end EventTracker
