import EventTracker.Proofs.Tracker.Actions
import EventTracker.Proofs.Tracker.Opening
import EventTracker.Proofs.Tracker.Runs
import EventTracker.Proofs.Tracker.Snapshots

/-!
# The history of requests

What a client has requested, be it posted or still waiting, is only ever added to, and a
flush posts it in order. What an action adds is made of the tracker as the action finds
it. So nothing that happens between a call and the flush has a say in what is posted for
the call.
-/

namespace EventTracker

/-- Where a request goes to, and its body. -/
def Task.request (task : Task) : Text × String := (task.url, task.body)

/-- What has been posted, and where. -/
def World.posted (w : World) : List (Text × String) := w.posts.map fun post => (post.url, post.body)

/-- What has been requested: first what has been posted, then what waits. -/
def World.requests (w : World) : List (Text × String) := w.posted ++ w.queue.map Task.request

/-- A world whose only tracker is a given one, which is connected, and whose requests are all of that
tracker. -/
structure World.Serves (w : World) (t : Tracker) : Prop where
  alone : w.trackers = [t]
  owners : ∀ task ∈ w.queue, task.owner = 0
  connected : w.Connected

/-- What actions but flushing do to the only tracker and to the requests. -/
structure World.Schedules (w w' : World) (t' : Tracker) (made : List Task) : Prop where
  alone : w'.trackers = [t']
  posts : w'.posts = w.posts
  queue : w'.queue = w.queue ++ made
  owners : ∀ task ∈ made, task.owner = 0
  connected : w.Connected → w'.Connected

variable {t t' : Tracker} {w w' w'' : World}

namespace World

theorem Serves.current (serves : w.Serves t) : w.current? = some t := by
  rw [current?, serves.alone]
  rfl

theorem Serves.place (serves : w.Serves t) : w.currentPlace = 0 := by
  rw [currentPlace, serves.alone]
  rfl

theorem Serves.append {made : List Task} (serves : w.Serves t) (alone : w'.trackers = [t'])
    (queue : w'.queue = w.queue ++ made) (owners : ∀ task ∈ made, task.owner = 0)
    (connected : w'.Connected) : w'.Serves t' := by
  refine ⟨alone, ?_, connected⟩
  rw [queue]
  exact List.forall_mem_append.2 ⟨serves.owners, owners⟩

/-- A change of the only tracker besides its connection leaves it connected. -/
theorem Connected.of_same (connected : w.Connected) (alone : w.trackers = [t])
    (alone' : w'.trackers = [t']) (sessions : w'.sessions = w.sessions)
    (channel : t'.channel = t.channel) (session : t'.session = t.session) : w'.Connected := by
  refine .of_alone alone' ?_
  obtain ⟨opened, given⟩ := connected.tracker alone
  rw [sessions]
  exact ⟨channel ▸ opened, session ▸ given⟩

/-- The world in which the first task of the queue is run. -/
theorem Serves.started (serves : w.Serves t) {task : Task} {rest : List Task}
    (waits : w.queue = task :: rest) :
    task.owner = 0 ∧ ({ w with queue := rest } : World).Serves t := by
  have owners := serves.owners
  rw [waits, List.forall_mem_cons] at owners
  exact ⟨owners.1, serves.alone, owners.2, serves.connected⟩

namespace Schedules

variable {made : List Task}

theorem serves (schedules : w.Schedules w' t' made) (serves : w.Serves t) : w'.Serves t' :=
  serves.append schedules.alone schedules.queue schedules.owners
    (schedules.connected serves.connected)

theorem requests (schedules : w.Schedules w' t' made) :
    w'.requests = w.requests ++ made.map Task.request := by
  rw [World.requests, posted, schedules.posts, schedules.queue, List.map_append,
    ← List.append_assoc]
  rfl

theorem after (first : w.Schedules w' t []) (later : w'.Schedules w'' t' made) :
    w.Schedules w'' t' made where
  alone := later.alone
  posts := later.posts.trans first.posts
  queue := by rw [later.queue, first.queue, List.append_nil]
  owners := later.owners
  connected connected := later.connected (first.connected connected)

end Schedules

theorem Serves.schedules_nothing (serves : w.Serves t) : w.Schedules w t [] where
  alone := serves.alone
  posts := rfl
  queue := (List.append_nil _).symm
  owners := List.forall_mem_nil _
  connected := id

theorem Serves.schedules_withStore (serves : w.Serves t) (s : Store) :
    w.Schedules (w.withStore t s) { t with props := s.props } [] :=
  have alone := withStore_trackers serves.alone s
  { serves.schedules_nothing with
    alone
    connected := fun connected => connected.of_same serves.alone alone rfl rfl rfl }

/-- An operation that comes to moves schedules what it makes. -/
theorem Serves.exists_schedules {α : Type} {op : World → World × α} {made : Task → Prop}
    (serves : w.Serves t) (comes : ComesTo made w op) (owners : ∀ task, made task → task.owner = 0) :
    ∃ tasks, w.Schedules (op w).1 t tasks ∧ ∀ task ∈ tasks, made task := by
  obtain ⟨moves, result, same, scheduled⟩ := comes
  have moved : (op w).1 = w.moves moves := congrArg Prod.fst (same w.toDisk)
  rw [moved]
  refine ⟨Move.scheduled moves, ?_, scheduled⟩
  constructor
  · rw [moves_trackers, serves.alone]
  · exact w.moves_posts moves
  · exact w.moves_queue moves
  · exact fun task mem => owners task (scheduled task mem)
  · intro connected
    rw [Connected, moves_trackers, moves_sessions]
    exact connected

end World

/-! ## Calls -/

namespace ClientCall

/-- The user that a call makes its request for: the tracker's, or the new one. -/
def user (t : Tracker) : ClientCall → Text
  | .identify (.str id) _ => id
  | _ => t.distinctId

/-- The properties that go into the event of a call besides those of the tracker. -/
def given (t : Tracker) : ClientCall → Value
  | .identify id _ => World.identifyProperties t.distinctId id
  | call => call.properties

end ClientCall

theorem Task.MadeBy.owner_eq {place : Nat} {endpoint : Endpoint} {given listener : Value}
    {task : Task} (made : task.MadeBy t place endpoint given listener) : task.owner = place := by
  rcases made with own | ⟨-, echo⟩
  · exact own.owner
  · exact echo.owner

/-- What a call makes of a tracker: a bag with the same super-properties, and requests of the
tracker with that bag. -/
structure ClientCall.Makes (call : ClientCall) (t : Tracker) (props : Mapping) (made : List Task) :
    Prop where
  requests : ∀ task ∈ made,
    task.MadeBy { t with props } 0 call.endpoint (call.given t) call.listener
  user : made ≠ [] → Tracker.distinctId { t with props } = call.user t
  super : ∀ name, isReserved (.str name) = false → props.text? name = t.props.text? name
  keyed : t.props.TextKeyed → props.TextKeyed

theorem exists_makes_identify (serves : w.Serves t) (id callback : Value) :
    ∃ props made, w.Schedules (w.identify t id callback).1 { t with props } made ∧
      (ClientCall.identify id callback).Makes t props made := by
  have super (name : Text) (super : isReserved (.str name) = false) :=
    (w.store t).text?_identify id super
  have keyed (bag : t.props.TextKeyed) := Store.keyed_identify (s := w.store t) bag id
  unfold World.identify
  cases identified : (w.store t).identify id with
  | mk s result =>
    rw [identified] at super keyed
    have stored := serves.schedules_withStore s
    cases result with
    | error fault =>
      exact ⟨s.props, [], stored, List.forall_mem_nil _, absurd rfl, super, keyed⟩
    | ok previous =>
      obtain ⟨rfl, -, rfl⟩ := Store.distinctId_identify identified
      have serves := stored.serves serves
      have comes := comesTo_track serves.current (.str "$identify")
        (World.identifyProperties t.distinctId (.str s.distinctId)) callback
      rw [serves.place] at comes
      obtain ⟨made, schedules, scheduled⟩ := serves.exists_schedules comes fun _ made => made.owner_eq
      exact ⟨s.props, made, stored.after schedules, scheduled,
        fun _ => (Store.distinctId_of_props rfl).symm, super, keyed⟩

/-- What a call schedules is what it makes. -/
theorem exists_makes (serves : w.Serves t) (call : ClientCall) :
    ∃ props made, w.Schedules (call.perform w t).1 { t with props } made ∧
      call.Makes t props made := by
  have others (anonymous : ∀ id callback, call ≠ .identify id callback)
      (user : call.user t = t.distinctId) (given : call.given t = call.properties) :
      ∃ props made, w.Schedules (call.perform w t).1 { t with props } made ∧
        call.Makes t props made := by
    have comes := comesTo_perform serves.current call anonymous
    rw [serves.place, ← given] at comes
    obtain ⟨made, schedules, scheduled⟩ := serves.exists_schedules comes fun _ made => made.owner_eq
    exact ⟨t.props, made, schedules, scheduled, fun _ => user.symm, fun _ _ => rfl, id⟩
  cases call with
  | identify id callback => exact exists_makes_identify serves id callback
  | _ => exact others (by rintro _ _ ⟨⟩) rfl rfl

/-- What a call makes are snapshots of the tracker as the call finds it. -/
theorem ClientCall.Makes.isSnapshot {call : ClientCall} {props : Mapping} {made : List Task}
    (makes : call.Makes t props made) (bag : t.props.TextKeyed) (texts : (call.given t).TextKeyed) :
    ∀ task ∈ made, task.IsSnapshot t (call.user t) (call.given t) := by
  intro task mem
  have snapshot := (makes.requests task mem).isSnapshot (makes.keyed bag) texts
  rw [makes.user (List.ne_nil_of_mem mem)] at snapshot
  exact snapshot.of_props makes.super

/-- A request that a call has made, and the number that the call has returned. -/
structure Task.MadeFor (task : Task) (call : ClientCall) (n : Nat) : Prop where
  number : task.number = n
  endpoint : task.endpoint = call.endpoint
  callback : task.callback = call.listener

/-- A call that returns a number has made one request, which bears that number. -/
theorem ClientCall.Makes.eq_of_number {call : ClientCall} {props : Mapping} {made : List Task}
    {n : Nat} (makes : call.Makes t props made) (serves : w.Serves t)
    (schedules : w.Schedules (call.perform w t).1 { t with props } made)
    (returned : (call.perform w t).2 = .ok (some n)) :
    ∃ task, made = [task] ∧ task.MadeFor call n := by
  have settled := returned_perform serves.alone call
  cases performed : call.perform w t with
  | mk w' result =>
  rw [performed] at settled schedules returned
  obtain rfl : result = .ok (some n) := returned
  obtain ⟨rfl, task, heard, effect⟩ := settled
  obtain rfl : made = [task] := List.append_cancel_left (schedules.queue.symm.trans effect.queue)
  refine ⟨task, rfl, (List.cons.inj effect.numbers).1, ?_, heard⟩
  rcases makes.requests task (List.mem_singleton_self _) with own | ⟨listens, echo⟩
  · exact own.goal
  · exact absurd (heard.symm.trans echo.listener) listens

/-! ## Flushing -/

/-- What running tasks does: the tracker is connected, and listeners add requests of it. -/
def World.Advances (w w' : World) (t : Tracker) : Prop :=
  ∃ channel session, ∃ made : List Task, w'.Serves { t with channel, session } ∧
    w'.requests = w.requests ++ made.map Task.request ∧
    ∀ task ∈ made, task.Carries t 0 .track .null .null

namespace World.Advances

theorem refl (serves : w.Serves t) : w.Advances w t :=
  ⟨t.channel, t.session, [], serves, (List.append_nil _).symm, List.forall_mem_nil _⟩

theorem trans (first : w.Advances w' t)
    (later : ∀ channel session, w'.Serves { t with channel, session } →
      w'.Advances w'' { t with channel, session }) : w.Advances w'' t := by
  obtain ⟨channel, session, made, serves, requests, carries⟩ := first
  obtain ⟨channel', session', more, serves, requests', carries'⟩ := later channel session serves
  refine ⟨channel', session', made ++ more, serves, ?_, fun task mem => ?_⟩
  · rw [requests', requests, List.map_append, List.append_assoc]
  · exact (List.mem_append.1 mem).elim (carries task) fun mem => (carries' task mem).of_connected

end World.Advances

/-- A task that is run moves from what waits to what has been posted. -/
theorem advances_runTask (serves : w.Serves t) {task : Task} {rest : List Task}
    (waits : w.queue = task :: rest) : w.Advances ({ w with queue := rest }.runTask task) t := by
  let w₁ : World := { w with queue := rest }
  obtain ⟨owner, here⟩ : task.owner = 0 ∧ w₁.Serves t := serves.started waits
  have found : w₁.trackers[task.owner]? = some t := by rw [owner, here.alone]; rfl
  obtain ⟨channel, session, sessions, traffic, posts, replies, moves, sends, scheduled, ran⟩ :=
    exists_runTask_eq here.current found
  obtain ⟨post, rfl, url, body⟩ := sends (here.connected.tracker here.alone)
  obtain ⟨more, done⟩ := ran_runTask here.alone here.connected owner
  rw [here.place] at scheduled
  let sent : World :=
    { w₁ with
      trackers := w₁.trackers.set task.owner { t with channel, session }
      sessions, traffic
      posts := w₁.posts ++ [post]
      replies }
  have ran : w₁.runTask task = sent.moves moves := ran w₁.toDisk
  have connected : sent.trackers = [{ t with channel, session }] := by
    show w₁.trackers.set task.owner _ = _
    rw [here.alone, owner]
    rfl
  refine ⟨channel, session, Move.scheduled moves, ?_, ?_, scheduled⟩
  · rw [ran]
    exact here.append ((sent.moves_trackers moves).trans connected) (sent.moves_queue moves)
      (fun task mem => (scheduled task mem).owner) (ran ▸ done.connected)
  · rw [ran, World.requests, World.requests, World.posted, World.posted, World.moves_posts,
      World.moves_queue, waits]
    show (w.posts ++ [post]).map _ ++ (rest ++ Move.scheduled moves).map _ = _
    rw [List.map_append, List.map_singleton, url, body]
    simp [Task.request]

theorem advances_drain (serves : w.Serves t) (fuel : Nat) : w.Advances (w.drain fuel) t := by
  induction fuel generalizing w t with
  | zero => exact .refl serves
  | succ fuel ih =>
    rw [World.drain]
    cases waits : w.queue with
    | nil => exact .refl serves
    | cons task rest =>
      exact (advances_runTask serves waits).trans fun channel session serves => ih serves

/-- Draining a queue that weighs no more than the fuel leaves nothing that waits. -/
theorem drain_queue (serves : w.Serves t) {fuel : Nat} (enough : w.workload ≤ fuel) :
    (w.drain fuel).queue = [] := by
  induction fuel generalizing w t with
  | zero => exact Task.eq_nil_of_totalWeight enough
  | succ fuel ih =>
    rw [World.drain]
    cases waits : w.queue with
    | nil => exact waits
    | cons task rest =>
      obtain ⟨channel, session, -, serves', -, -⟩ := advances_runTask serves waits
      obtain ⟨owner, here⟩ := serves.started waits
      obtain ⟨made, ran⟩ := ran_runTask here.alone here.connected owner
      exact ih serves' (ran.totalWeight_le waits enough)

theorem advances_flush (serves : w.Serves t) : w.Advances w.flush t := by
  rw [flush_eq_drain serves.alone serves.owners]
  exact advances_drain serves w.workload

theorem flush_queue (serves : w.Serves t) : w.flush.queue = [] := by
  rw [flush_eq_drain serves.alone serves.owners]
  exact drain_queue serves (Nat.le_refl _)

/-- After a flush, all that was requested has been posted. -/
theorem requests_flush (serves : w.Serves t) : w.flush.requests = w.flush.posted := by
  rw [World.requests, flush_queue serves]
  exact List.append_nil _

/-! ## Actions -/

namespace Action

/-- Whether the mappings that go into the bag and into events are under texts. -/
def TextKeyed : Action → Prop
  | .request (.track _ properties _) => (givenProperties properties).TextKeyed
  | .register patch | .registerOnce patch => patch.TextKeyed
  | _ => True

/-- The user that an action makes requests for. -/
def user (t : Tracker) : Action → Text
  | .request call => call.user t
  | _ => t.distinctId

/-- The properties that go into the events of an action besides those of the tracker. -/
def given (t : Tracker) : Action → Value
  | .request call => call.given t
  | _ => .null

theorem TextKeyed.given {action : Action} (keyed : action.TextKeyed) (t : Tracker) :
    (action.given t).TextKeyed := by
  cases action with
  | request call =>
    cases call with
    | track event properties callback => exact keyed
    | identify id callback => rfl
    | _ => trivial
  | _ => trivial

/-- A call that returns a number has made one request: it bears that number and goes to the call's
endpoint. -/
def Accounts (action : Action) (answer : Except Fault Answer) (made : List Task) : Prop :=
  ∀ call n, action = .request call → answer = .ok (.task (some n)) →
    ∃ task, made = [task] ∧ task.number = n ∧ task.endpoint = call.endpoint

end Action

/-- What an action does to the world of one tracker: it adds snapshots of the tracker as the action
finds it to what has been requested. -/
structure ActionStep (w : World) (t : Tracker) (action : Action) (t' : Tracker) (made : List Task) :
    Prop where
  serves : (action.perform w t).1.Serves t'
  requests : (action.perform w t).1.requests = w.requests ++ made.map Task.request
  accounts : action.Accounts (action.perform w t).2 made
  keyed : t.props.TextKeyed → action.TextKeyed → t'.props.TextKeyed
  snapshots : t.props.TextKeyed → action.TextKeyed →
    ∀ task ∈ made, task.IsSnapshot t (action.user t) (action.given t)

theorem ActionStep.of_silent {action : Action}
    (schedules : w.Schedules (action.perform w t).1 t' [])
    (serves : w.Serves t) (silent : ∀ call, action ≠ .request call)
    (keyed : t.props.TextKeyed → action.TextKeyed → t'.props.TextKeyed) :
    ActionStep w t action t' [] where
  serves := schedules.serves serves
  requests := schedules.requests
  accounts := fun call _ asked => absurd asked (silent call)
  keyed := keyed
  snapshots := fun _ _ => List.forall_mem_nil _

theorem Action.number_of_answer {call : ClientCall} {n : Nat}
    (returned : ((Action.request call).perform w t).2 = .ok (.task (some n))) :
    (call.perform w t).2 = .ok (some n) := by
  rw [perform, perform.answer] at returned
  cases answered : (call.perform w t).2 with
  | error fault => rw [answered] at returned; cases returned
  | ok number => rw [answered] at returned; cases returned; rfl

theorem exists_actionStep_request (serves : w.Serves t) (call : ClientCall) :
    ∃ t' made, ActionStep w t (.request call) t' made := by
  obtain ⟨props, made, schedules, makes⟩ := exists_makes serves call
  refine ⟨{ t with props }, made, schedules.serves serves, schedules.requests, ?_,
    fun bag _ => makes.keyed bag, fun bag keyed => makes.isSnapshot bag (keyed.given t)⟩
  rintro _ n ⟨⟩ answered
  obtain ⟨task, made, own⟩ :=
    makes.eq_of_number serves schedules (Action.number_of_answer answered)
  exact ⟨task, made, own.number, own.endpoint⟩

theorem exists_actionStep_flush (serves : w.Serves t) :
    ∃ t' made, ActionStep w t .flush t' made := by
  obtain ⟨channel, session, made, after, requests, carries⟩ := advances_flush serves
  exact ⟨_, made, after, requests, nofun, fun bag _ => bag,
    fun bag _ task mem => (carries task mem).isSnapshot bag trivial⟩

theorem actionStep_of_store (serves : w.Serves t) {action : Action} {s : Store}
    (same : (action.perform w t).1 = w.withStore t s) (silent : ∀ call, action ≠ .request call)
    (keyed : t.props.TextKeyed → action.TextKeyed → s.props.TextKeyed) :
    ActionStep w t action { t with props := s.props } [] :=
  .of_silent (same ▸ serves.schedules_withStore s) serves silent keyed

theorem exists_schedules_configure (serves : w.Serves t) (patch : Value) (more : Table Value) :
    ∃ config, w.Schedules (w.reconfigure t patch more).1 { t with config } [] := by
  have changed (config : Config) :
      w.Schedules (w.setTracker w.currentPlace { t with config }) { t with config } [] := by
    have alone : (w.setTracker w.currentPlace { t with config }).trackers = [{ t with config }] := by
      rw [World.setTracker, serves.place, serves.alone]
      rfl
    refine ⟨alone, rfl, (List.append_nil _).symm, List.forall_mem_nil _, fun connected => ?_⟩
    exact connected.of_same serves.alone alone rfl rfl rfl
  unfold World.reconfigure
  cases (Config.Change.reconfigure patch more).call t.config with
  | ok _ config | error _ config => exact ⟨config, changed config⟩

theorem exists_actionStep_configure (serves : w.Serves t) (patch : Value) (more : Table Value) :
    ∃ t' made, ActionStep w t (.configure patch more) t' made := by
  obtain ⟨config, changed⟩ := exists_schedules_configure serves patch more
  exact ⟨{ t with config }, [], .of_silent changed serves nofun fun bag _ => bag⟩

/-- Every action is such a step. -/
theorem exists_actionStep (serves : w.Serves t) (action : Action) :
    ∃ t' made, ActionStep w t action t' made := by
  cases action with
  | request call => exact exists_actionStep_request serves call
  | register patch =>
    exact ⟨_, [], actionStep_of_store serves rfl nofun fun bag given =>
      Store.keyed_registerSuper (s := w.store t) bag given⟩
  | registerOnce patch =>
    exact ⟨_, [], actionStep_of_store serves rfl nofun fun bag given =>
      Store.keyed_registerSuperOnce (s := w.store t) bag given⟩
  | unregister key =>
    exact ⟨_, [], actionStep_of_store serves rfl nofun fun bag _ =>
      Store.keyed_unregisterSuper (s := w.store t) bag key⟩
  | reset => exact ⟨_, [], actionStep_of_store serves rfl nofun fun _ _ => Store.keyed_reset⟩
  | property key | distinctId =>
    exact ⟨t, [], .of_silent serves.schedules_nothing serves nofun fun bag _ => bag⟩
  | configure patch more => exact exists_actionStep_configure serves patch more
  | flush => exact exists_actionStep_flush serves

/-! ## Runs -/

theorem World.take_eq (serves : w.Serves t) (step : TrackerStep) :
    w.take step = step.action.perform { w with looping := step.looping } t := by
  have current : ({ w with looping := step.looping } : World).current? = some t := serves.current
  rw [World.take]
  simp only [current]

/-- A run only adds to what has been requested, and keeps the bag under texts if the actions do. -/
theorem exists_run (serves : w.Serves t) (steps : List TrackerStep) :
    ∃ t', (w.run steps).Serves t' ∧ w.requests <+: (w.run steps).requests ∧
      (t.props.TextKeyed → (∀ step ∈ steps, step.action.TextKeyed) → t'.props.TextKeyed) := by
  induction steps generalizing w t with
  | nil => exact ⟨t, serves, List.prefix_rfl, fun bag _ => bag⟩
  | cons step rest ih =>
    have here : ({ w with looping := step.looping } : World).Serves t :=
      ⟨serves.alone, serves.owners, serves.connected⟩
    obtain ⟨t₁, made, taken⟩ := exists_actionStep here step.action
    have same := World.take_eq serves step
    obtain ⟨t', serves', longer, keyed⟩ := ih (same ▸ taken.serves)
    refine ⟨t', serves', List.IsPrefix.trans ?_ longer, fun bag given => ?_⟩
    · rw [same, taken.requests]
      exact List.prefix_append _ _
    · rw [List.forall_mem_cons] at given
      exact keyed (taken.keyed bag given.1) given.2

theorem serves_joinedBy (alone : w.trackers = []) (idle : w.queue = []) (token : Text)
    (config : Config) (environment : Option Environment) (connection : Connection) (s : Store) :
    (w.joinedBy token config environment connection s).Serves
      (w.newTracker token config environment connection s.props) := by
  have only : (w.joinedBy token config environment connection s).trackers =
      [w.newTracker token config environment connection s.props] := congrArg (· ++ _) alone
  refine ⟨only, ?_, .of_alone only ⟨?_, ?_⟩⟩
  · cases connection <;> exact idle ▸ List.forall_mem_nil _
  · cases connection <;> rintro _ ⟨⟩
  · cases connection with
    | session =>
      rintro _ ⟨⟩
      show (w.sessions ++ [true])[w.sessions.length]? = some true
      simp
    | direct | own => rintro _ ⟨⟩

theorem exists_serves_openTracker {token : Value} {config : Config}
    {environment : Option Environment} {connection : Connection} {shared : Bool}
    (alone : w.trackers = []) (idle : w.queue = [])
    (opened : w.openTracker token config environment connection shared = (w', .ok ())) :
    ∃ t, w'.Serves t ∧ t.props.TextKeyed := by
  obtain ⟨text, disk, -, -, -, rfl⟩ := World.exists_of_openTracker_eq_ok opened
  exact ⟨_, serves_joinedBy alone idle text config environment connection _,
    Store.keyed_ensureIdentity (Store.keyed_openNew _ _ _)⟩

/-- What is opened has a token. -/
theorem exists_token_openTracker {token : Value} {config : Config}
    {environment : Option Environment} {connection : Connection} {shared : Bool}
    (alone : w.trackers = []) (idle : w.queue = [])
    (opened : w.openTracker token config environment connection shared = (w', .ok ())) :
    ∃ t, w'.Serves t ∧ t.token ≠ "" := by
  obtain ⟨text, disk, -, nonempty, -, rfl⟩ := World.exists_of_openTracker_eq_ok opened
  exact ⟨_, serves_joinedBy alone idle text config environment connection _, nonempty⟩

/-- Requests are snapshots: what an action of a client requests is made of the client's
configuration, distinct id and bag as the action finds them, and comes right after what had been
requested before. Whatever is done next, all of that has been posted after a flush. -/
theorem requests_are_snapshots {token : Value} {config : Config} {environment : Option Environment}
    {connection : Connection} {shared : Bool} (alone : w.trackers = []) (idle : w.queue = [])
    (opened : w.openTracker token config environment connection shared = (w', .ok ()))
    (before : List TrackerStep) (run : ∀ step ∈ before, step.action.TextKeyed)
    (step : TrackerStep) (keyed : step.action.TextKeyed) :
    let start := w'.run before
    let taken := start.take step
    ∃ t made, start.current? = some t ∧
      taken.1.requests = start.requests ++ made.map Task.request ∧
      (∀ task ∈ made, task.IsSnapshot t (step.action.user t) (step.action.given t)) ∧
      step.action.Accounts taken.2 made ∧
      ∀ after, taken.1.requests <+: (taken.1.run after).flush.posted := by
  intro start taken
  obtain ⟨t₀, serves, bag⟩ := exists_serves_openTracker alone idle opened
  obtain ⟨t, serves, -, keeps⟩ := exists_run serves before
  have here : ({ start with looping := step.looping } : World).Serves t :=
    ⟨serves.alone, serves.owners, serves.connected⟩
  obtain ⟨t', made, acted⟩ := exists_actionStep here step.action
  have same : taken = _ := World.take_eq serves step
  refine ⟨t, made, serves.current, ?_, acted.snapshots (keeps bag run) keyed, ?_, fun after => ?_⟩
  · rw [same]
    exact acted.requests
  · rw [same]
    exact acted.accounts
  · have serves' : taken.1.Serves t' := same ▸ acted.serves
    obtain ⟨t'', later, longer, -⟩ := exists_run serves' after
    obtain ⟨channel, session, more, -, flushed, -⟩ := advances_flush later
    rw [← requests_flush later, flushed]
    exact longer.trans (List.prefix_append _ _)

/-- An event that is tracked with a plan in the bag is posted as it was, whatever plan is registered,
whoever is identified and wherever the configuration points before the flush. -/
theorem requests_are_snapshots_of_plan :
    let opened := (World.fresh ⟨.memory [] [] 0, ⟨[]⟩, []⟩ []).openTracker (.str "T") .standard none
      .direct true
    let before : List TrackerStep := [⟨true, .register (.map [(.str "plan", .str "pro")])⟩]
    let start := opened.1.run before
    let taken := start.take ⟨true, .request (.track (.str "seen") .null .null)⟩
    ∃ (t : Tracker) (task : Task), start.current? = some t ∧
      t.distinctId = "$device:00000000-0000-0000-0000-000000000001" ∧
      t.props.text? "plan" = some (.str "pro") ∧
      task.url = "https://api.mixpanel.com/track/" ∧ task.IsSnapshot t t.distinctId .null ∧
      ∀ after, [task.request] <+: (taken.1.run after).flush.posted := by
  intro opened before start taken
  have given : opened = (opened.1, .ok ()) := rfl
  have keyed : ∀ step ∈ before, step.action.TextKeyed := List.forall_mem_singleton.2 rfl
  obtain ⟨t, made, current, requests, snapshots, accounts, posted⟩ :=
    requests_are_snapshots rfl rfl given before keyed
      ⟨true, .request (.track (.str "seen") .null .null)⟩ trivial
  have returned : taken.2 = .ok (.task (some 0)) := Answer.eq_of_number? (by decide +kernel)
  obtain ⟨task, rfl, -, goal⟩ := accounts _ 0 rfl returned
  have snapshot := snapshots task (List.mem_singleton_self task)
  have bag : start.current?.bind (fun t => t.props.text? "plan") = some (.str "pro") := rfl
  have host : start.current?.map (fun t => t.config.apiHost) = some "https://api.mixpanel.com" := rfl
  have user : start.current?.map Tracker.distinctId =
    some "$device:00000000-0000-0000-0000-000000000001" := rfl
  rw [current] at bag host user
  have requests : taken.1.requests = [task.request] := requests
  refine ⟨t, task, current, Option.some.inj user, bag, ?_, snapshot, fun after => ?_⟩
  · have host : t.config.apiHost = "https://api.mixpanel.com" := Option.some.inj host
    rw [snapshot.url, goal, host]
    rfl
  · rw [← requests]
    exact posted after

end EventTracker
