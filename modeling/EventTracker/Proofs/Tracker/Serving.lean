import EventTracker.Proofs.Tracker.Draining
import EventTracker.Proofs.Tracker.Moves

/-!
# Running tasks on any disk

A task that is run gives its tracker a connection and posts its body to its URL; what
comes after are moves. So running tasks leaves the storage, the files, and all of the
trackers but their connections as they are, and no disk has a say in it.
-/

namespace EventTracker

variable {t owner : Tracker} {w : World}

theorem exists_openChannel_eq {place : Nat} (found : w.trackers[place]? = some t) :
    ∃ channel session sessions traffic, ∀ d, (w.onDisk d).openChannel place t =
      (({ w with
          trackers := w.trackers.set place { t with channel := some channel, session }
          sessions, traffic } : World).onDisk d, channel) := by
  obtain ⟨within, here⟩ := List.getElem?_eq_some_iff.1 found
  unfold World.openChannel
  cases channel : t.channel with
  | some c =>
    refine ⟨c, t.session, w.sessions, w.traffic, fun d => ?_⟩
    have same : w.trackers.set place { t with channel := some c } = w.trackers := by
      rw [← channel, ← here]
      exact List.set_getElem_self within
    simp only [same]
  | none =>
    cases opened : t.session with
    | some session => exact ⟨.http session, some session, w.sessions, w.traffic, fun d => rfl⟩
    | none =>
      exact ⟨.http w.sessions.length, some w.sessions.length, w.sessions ++ [true],
        w.traffic ++ [.opens w.sessions.length], fun d => rfl⟩

/-- A body is posted, and perhaps noted, and the next reply is taken; on a closed session, nothing is
posted. -/
theorem exists_post_eq (w : World) (t : Tracker) (channel : Channel) (url : Text) (body : String) :
    ∃ posts replies traffic records exchange,
      (∃ timeout, posts = if w.isOpen channel then [⟨channel, url, body, timeout⟩] else []) ∧
      ∀ d, (w.onDisk d).post t channel url body =
        (({ w with posts := w.posts ++ posts, replies, traffic } : World).onDisk
          { d with log := d.log ++ records }, exchange) := by
  unfold World.post
  simp only [nextReply_eq]
  cases channel with
  | direct =>
    exact ⟨_, w.replies.tail, w.traffic ++ [.posts .direct], [],
      (w.replies.headD .accepting).direct, ⟨none, rfl⟩, fun d => rfl⟩
  | http session =>
    have same (d : Disk) : (w.onDisk d).isOpen (.http session) = w.isOpen (.http session) := rfl
    simp only [same]
    cases opened : w.isOpen (.http session) with
    | false =>
      refine ⟨[], w.replies, w.traffic ++ [.posts (.http session)], [postRecord url], .onClosed,
        ⟨none, rfl⟩, fun d => ?_⟩
      rw [List.append_nil]
      rfl
    | true =>
      exact ⟨_, w.replies.tail, w.traffic ++ [.posts (.http session)], [postRecord url],
        (w.replies.headD .accepting).overHttp url,
        ⟨some t.config.requestTimeout, rfl⟩, fun d => rfl⟩

/-- The current tracker may have been connected. -/
theorem current_connected (current : w.current? = some t) {place : Nat}
    (found : w.trackers[place]? = some owner) (channel : Option Channel) (session : Option Nat) :
    ∃ channel' session', (w.trackers.set place { owner with channel, session }).getLast? =
      some { t with channel := channel', session := session' } := by
  rw [World.current?, List.getLast?_eq_getElem?] at current
  rw [List.getLast?_eq_getElem?, List.length_set, List.getElem?_set]
  split
  case isTrue last =>
    obtain rfl : owner = t := Option.some.inj (found.symm.trans (last ▸ current))
    obtain ⟨within, -⟩ := List.getElem?_eq_some_iff.1 found
    exact ⟨channel, session, if_pos within⟩
  case isFalse => exact ⟨t.channel, t.session, current⟩

/-- Connecting changes nothing of what a tracker sends. -/
theorem Task.Carries.of_connected {channel : Option Channel} {session : Option Nat} {place : Nat}
    {endpoint : Endpoint} {given callback : Value} {task : Task}
    (carries : task.Carries { t with channel, session } place endpoint given callback) :
    task.Carries t place endpoint given callback := by
  obtain ⟨owner, goal, listener, url, payload, sendable, body⟩ := carries
  refine ⟨owner, goal, listener, url, payload, ?_, body⟩
  cases sendable with
  | event bag composed => exact .event bag composed
  | mutation bag user => exact .mutation bag user

/-- What running a task comes to, on any disk: its tracker is connected, the body is posted, and
moves follow. -/
theorem exists_runTask_eq (current : w.current? = some t) {task : Task}
    (found : w.trackers[task.owner]? = some owner) :
    ∃ channel session sessions traffic posts replies moves,
      (owner.Connected w.sessions →
        ∃ post, posts = [post] ∧ post.url = task.url ∧ post.body = task.body) ∧
      (∀ task' ∈ Move.scheduled moves, task'.Carries t w.currentPlace .track .null .null) ∧
      ∀ d, (w.onDisk d).runTask task =
        (({ w with
            trackers := w.trackers.set task.owner { owner with channel, session }
            sessions, traffic
            posts := w.posts ++ posts
            replies } : World).onDisk d).moves moves := by
  obtain ⟨channel, session, sessions, traffic, opened⟩ := exists_openChannel_eq found
  obtain ⟨channel', session', current⟩ := current_connected current found (some channel) session
  let connected : World :=
    { w with
      trackers := w.trackers.set task.owner { owner with channel := some channel, session }
      sessions, traffic }
  have place : connected.currentPlace = w.currentPlace := congrArg (· - 1) List.length_set
  obtain ⟨posts, replies, traffic', records, exchange, sends, posted⟩ :=
    exists_post_eq connected owner channel task.url task.body
  have reached (here : owner.Connected w.sessions) : connected.isOpen channel = true := by
    have reached := isOpen_openChannel (w := w) task.owner here
    rw [show w.openChannel task.owner owner = _ from opened w.toDisk] at reached
    exact reached
  let sent : World := { connected with posts := w.posts ++ posts, replies, traffic := traffic' }
  obtain ⟨outcome, records', told⟩ : ∃ outcome records',
    exchange.outcome owner.debug task.endpoint task.url = (outcome, records') := ⟨_, _, rfl⟩
  obtain ⟨moves, done, delivered, echoes⟩ :=
    comesTo_deliver (w := (sent.record records).record records') current task.callback outcome
  refine ⟨some channel, session, sessions, traffic', posts, replies,
    .note records :: .note records' :: moves ++ [.finish task.number outcome], fun here => ?_, ?_,
    fun d => ?_⟩
  · obtain ⟨timeout, rfl⟩ := sends
    exact ⟨_, if_pos (reached here), rfl, rfl⟩
  · rw [Move.scheduled_append]
    intro task' mem
    rcases List.mem_append.1 mem with mem | mem
    · exact place ▸ (echoes task' mem).2.of_connected
    · cases mem
  · have found (d : Disk) : (w.onDisk d).trackers[task.owner]? = some owner := found
    simp only [World.runTask, found, opened]
    rw [show World.post _ owner channel task.url task.body = _ from posted d, World.moves_append]
    simp only [told]
    have heard := congrArg Prod.fst (delivered { d with log := d.log ++ records ++ records' })
    exact congrArg (World.move · (.finish task.number outcome)) heard

/-! ## On other disks -/

theorem runTask_of_missing {task : Task} (missing : w.trackers[task.owner]? = none) :
    w.runTask task = w := by
  unfold World.runTask
  rw [missing]

theorem exists_current {place : Nat} (found : w.trackers[place]? = some owner) :
    ∃ t, w.current? = some t := by
  obtain ⟨within, -⟩ := List.getElem?_eq_some_iff.1 found
  have there : w.trackers ≠ [] := List.ne_nil_of_length_pos (Nat.zero_lt_of_lt within)
  exact ⟨_, List.getLast?_eq_some_getLast there⟩

theorem exists_runTask_onDisk (w : World) (task : Task) (d : Disk) :
    ∃ d', (w.onDisk d).runTask task = (w.runTask task).onDisk d' := by
  cases found : w.trackers[task.owner]? with
  | none =>
    have missing : (w.onDisk d).trackers[task.owner]? = none := found
    exact ⟨d, by rw [runTask_of_missing missing, runTask_of_missing found]⟩
  | some owner =>
    obtain ⟨t, current⟩ := exists_current found
    obtain ⟨channel, session, sessions, traffic, posts, replies, moves, -, -, ran⟩ :=
      exists_runTask_eq current found
    obtain ⟨d', moved⟩ := World.exists_moves_onDisk _ moves d
    have here : w.runTask task = _ := ran w.toDisk
    exact ⟨d', by rw [ran d, moved, here]; rfl⟩

theorem exists_drain_onDisk (w : World) (fuel : Nat) (d : Disk) :
    ∃ d', (w.onDisk d).drain fuel = (w.drain fuel).onDisk d' := by
  induction fuel generalizing w d with
  | zero => exact ⟨d, rfl⟩
  | succ fuel ih =>
    rw [World.drain, World.drain, show (w.onDisk d).queue = w.queue from rfl]
    cases w.queue with
    | nil => exact ⟨d, rfl⟩
    | cons task rest =>
      obtain ⟨d', ran⟩ := exists_runTask_onDisk { w with queue := rest } task d
      obtain ⟨d'', drained⟩ := ih _ d'
      exact ⟨d'', (congrArg (World.drain fuel) ran).trans drained⟩

/-- No disk has a say in what flushing comes to. -/
theorem exists_flush_onDisk (w : World) (d : Disk) :
    ∃ d', (w.onDisk d).flush = w.flush.onDisk d' := by
  unfold World.flush
  rw [show (w.onDisk d).pending = w.pending from rfl]
  split
  · exact ⟨d, rfl⟩
  · exact exists_drain_onDisk w w.workload d

/-! ## What is left alone -/

/-- A tracker without its connection. -/
def Tracker.offline (t : Tracker) : Tracker := { t with channel := none, session := none }

/-- What tasks and calls leave alone: the storage, the files, and the trackers but for their
connections. -/
structure Undisturbed (w w' : World) : Prop where
  storage : w'.storage = w.storage
  files : w'.files = w.files
  trackers : w'.trackers.map Tracker.offline = w.trackers.map Tracker.offline

namespace Undisturbed

variable {w' w'' : World}

theorem refl (w : World) : Undisturbed w w := ⟨rfl, rfl, rfl⟩

theorem trans (first : Undisturbed w w') (later : Undisturbed w' w'') : Undisturbed w w'' :=
  ⟨later.storage.trans first.storage, later.files.trans first.files,
    later.trackers.trans first.trackers⟩

theorem moves (undisturbed : Undisturbed w w') (ms : List Move) : Undisturbed w (w'.moves ms) where
  storage := (w'.moves_storage ms).trans undisturbed.storage
  files := (w'.moves_files ms).trans undisturbed.files
  trackers := by rw [World.moves_trackers, undisturbed.trackers]

/-- The current tracker is the same up to its connection. -/
theorem current (undisturbed : Undisturbed w w') (current : w.current? = some t) :
    ∃ t', w'.current? = some t' ∧ t'.offline = t.offline := by
  have last := congrArg List.getLast? undisturbed.trackers
  rw [List.getLast?_map, List.getLast?_map, ← World.current?, ← World.current?, current] at last
  exact Option.map_eq_some_iff.1 last

theorem runTask (w : World) (task : Task) : Undisturbed w (w.runTask task) := by
  cases found : w.trackers[task.owner]? with
  | none => exact (runTask_of_missing found).symm ▸ refl w
  | some owner =>
    obtain ⟨t, current⟩ := exists_current found
    obtain ⟨channel, session, sessions, traffic, posts, replies, moves, -, -, ran⟩ :=
      exists_runTask_eq current found
    have here : w.runTask task = _ := ran w.toDisk
    rw [here]
    refine Undisturbed.moves ?_ moves
    refine ⟨rfl, rfl, ?_⟩
    have there : (w.trackers.map Tracker.offline)[task.owner]? =
        some { owner with channel, session }.offline := by
      rw [List.getElem?_map, found]
      rfl
    obtain ⟨within, here⟩ := List.getElem?_eq_some_iff.1 there
    show (w.trackers.set task.owner { owner with channel, session }).map Tracker.offline = _
    rw [List.map_set, ← here]
    exact List.set_getElem_self _

theorem drain (w : World) (fuel : Nat) : Undisturbed w (w.drain fuel) := by
  induction fuel generalizing w with
  | zero => exact refl w
  | succ fuel ih =>
    rw [World.drain]
    cases w.queue with
    | nil => exact refl w
    | cons task rest =>
      have ran := (runTask { w with queue := rest } task).trans (ih _)
      exact ⟨ran.storage, ran.files, ran.trackers⟩

theorem flush (w : World) : Undisturbed w w.flush := by
  unfold World.flush
  split
  · exact refl w
  · exact drain w w.workload

end Undisturbed

end EventTracker
