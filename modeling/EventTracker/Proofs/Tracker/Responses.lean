import EventTracker.Proofs.Tracker.Lifecycle

/-!
# What the replies over HTTP come to

Every request of a client that posts over HTTP is finished once and its callback told of
the outcome, which the reply decides: a status of 200 with one of two texts is a success,
and all else is a transport error. A ledger of the tasks that have been run is carried
through whatever a client is asked.
-/

namespace EventTracker

/-! ## Replies -/

/-- The replies that a session brings: an answer with its text, or an error that is raised. Transport
errors are none of a session's. -/
def Reply.OfSession : Reply → Prop
  | .refused _ _ _ => False
  | _ => True

/-- The outcome of a request to an endpoint, as its reply over HTTP decides it. -/
structure Outcome.Classified (outcome : Outcome) (endpoint : Endpoint) (reply : Reply) : Prop where
  accepted : outcome = .accepted ↔ reply = .text 200 "1" ∨ reply = .text 200 "\"1\""
  /-- A failure has a status exactly if the text was read of an answer with another status than
  200. -/
  failed : outcome ≠ .accepted → ∃ problem status,
    outcome = .failed (.transport problem status endpoint.path) ∧
      ∀ code, status = some code ↔ code ≠ 200 ∧ ∃ response, reply = .text code response

theorem RaisedKind.exists_overHttp (kind : RaisedKind) (url : Text) (message : String) :
    (∃ problem, kind.overHttp url message = .refused problem none "") ∨
      kind.overHttp url message = .raised kind message := by
  cases kind with
  | connection => exact .inl ⟨_, rfl⟩
  | timeout => exact .inl ⟨_, rfl⟩
  | other name => exact .inr rfl

/-- Only an answer with status 200 is passed on as a text. -/
theorem Reply.overHttp_eq_text_iff (reply : Reply) (url : Text) {response : String} :
    reply.overHttp url = .text response ↔ reply = .text 200 response := by
  cases reply with
  | text status answer =>
    rw [overHttp, text.injEq]
    split
    case isTrue ok => rw [Exchange.text.injEq, and_iff_right ok]
    case isFalse other => exact ⟨nofun, fun both => absurd both.1 other⟩
  | refused message status endpoint => exact ⟨nofun, nofun⟩
  | unread _ kind message | raised kind message =>
    obtain ⟨problem, same⟩ | same := kind.exists_overHttp url message
    all_goals
      rw [overHttp, same]
      exact ⟨nofun, nofun⟩

/-- An error that a session raises ends as a transport error without a status. -/
theorem RaisedKind.exists_outcome_overHttp (kind : RaisedKind) (debug : Bool) (endpoint : Endpoint)
    (url : Text) (message : String) :
    ∃ problem, ((kind.overHttp url message).outcome debug endpoint url).1 =
      .failed (.transport problem none endpoint.path) := by
  obtain ⟨problem, same⟩ | same := kind.exists_overHttp url message
  all_goals
    rw [same]
    exact ⟨_, rfl⟩

theorem Task.classified (task : Task) {reply : Reply} (brought : reply.OfSession) :
    (task.outcome false reply).Classified task.endpoint reply := by
  have accepted : task.outcome false reply = .accepted ↔
      reply = .text 200 "1" ∨ reply = .text 200 "\"1\"" := by
    rw [Task.outcome_eq_accepted_iff, ← reply.overHttp_eq_text_iff task.url,
      ← reply.overHttp_eq_text_iff task.url]
    rfl
  refine ⟨accepted, fun failed => ?_⟩
  have told : task.outcome false reply =
      ((reply.overHttp task.url).outcome false task.endpoint task.url).1 := rfl
  cases reply with
  | refused message status endpoint => exact brought.elim
  | unread _ kind message | raised kind message =>
    obtain ⟨problem, raised⟩ :=
      kind.exists_outcome_overHttp false task.endpoint task.url message
    exact ⟨problem, none, told.trans raised, fun code => ⟨nofun, nofun⟩⟩
  | text status response =>
    by_cases ok : status = 200
    · subst ok
      have refused : ¬ isAccepted response = true := by
        rw [isAccepted_iff]
        exact fun either => failed (accepted.2 (by simpa using either))
      refine ⟨.notAccepted response, none, ?_, fun code => ⟨nofun, ?_⟩⟩
      · rw [told, Reply.overHttp, if_pos rfl, Exchange.outcome]
        simp only [if_neg refused]
      · rintro ⟨other, _, ⟨⟩⟩
        exact absurd rfl other
    · refine ⟨.httpStatus status task.url response, some status, ?_, fun code => ?_⟩
      · rw [told, Reply.overHttp, if_neg ok]
        rfl
      · constructor
        · rintro ⟨⟩
          exact ⟨ok, response, rfl⟩
        · rintro ⟨-, _, ⟨⟩⟩
          rfl

/-! ## Ledgers -/

/-- The reply to a task counts from the first task on, wherever one starts to count. -/
theorem Task.reply_drop {replies : List Reply} {first before : Nat} {task : Task}
    (later : first + before ≤ task.number) :
    task.reply (replies.drop before) (first + before) = task.reply replies first := by
  rw [Task.reply, Task.reply, List.getElem?_drop]
  congr 2
  omega

/-- What a task over HTTP comes to, where the replies to the tasks after those of a world are the
ones in the world's script. -/
def World.outcomeOf (base : World) (task : Task) : Outcome :=
  task.outcome false (task.reply base.replies base.created)

/-- Calls that make no request tell their listeners of failures. -/
def TellsRefusal (entry : String × Outcome) : Prop :=
  ∃ error : TrackerError, error.IsRefusal ∧ entry.2 = .failed error

/-- What has become of the tasks since a world: those that have been run are finished and have been
told of, and the others wait. -/
structure World.Ledger (base w : World) (ran : List Task) : Prop where
  waiting : Waiting (base.created + ran.length) w
  numbers : ran.map Task.number = List.range' base.created ran.length
  replies : w.replies = base.replies.drop ran.length
  finished : w.finished = base.finished ++ ran.map fun task => (task.number, base.outcomeOf task)
  deliveries : ∃ refusals, (∀ entry ∈ refusals, TellsRefusal entry) ∧
    w.deliveries.Perm (base.deliveries ++ refusals ++ heardOf base.outcomeOf ran)

/-- What a step keeps of a ledger: tasks that are run come in the order in which they waited, and
others are made after them. -/
def World.Ledger.Onward (base : World) (tasks : List Task) (w : World) : Prop :=
  ∃ ran, base.Ledger w ran ∧ tasks <+: ran ++ w.queue

variable {t : Tracker} {base w w' : World} {ran tasks : List Task}

theorem ledger_self (idle : w.queue = []) : w.Ledger w [] where
  waiting := ⟨by simp [idle], by simp [idle], by simp [idle]⟩
  numbers := rfl
  replies := rfl
  finished := (List.append_nil _).symm
  deliveries := ⟨[], List.forall_mem_nil _, by simp [heardOf]⟩

namespace World.Ledger

/-- A ledger is about no more than the tasks and what is told of them. -/
theorem unmoved (ledger : base.Ledger w ran) (queue : w'.queue = w.queue)
    (created : w'.created = w.created) (replies : w'.replies = w.replies)
    (finished : w'.finished = w.finished) (deliveries : w'.deliveries = w.deliveries) :
    base.Ledger w' ran where
  waiting := by
    obtain ⟨owners, numbers, counted⟩ := ledger.waiting
    exact ⟨by rwa [queue], by rwa [queue], by rwa [queue, created]⟩
  numbers := ledger.numbers
  replies := replies.trans ledger.replies
  finished := finished.trans ledger.finished
  deliveries := by
    rw [deliveries]
    exact ledger.deliveries

theorem onward (ledger : base.Ledger w ran) : Onward base (ran ++ w.queue) w :=
  ⟨ran, ledger, List.prefix_rfl⟩

/-! ### Requests -/

/-- What a call makes waits, and what it tells are refusals. -/
theorem called (ledger : base.Ledger w ran) {told : List (String × Outcome)}
    (effect : Extends t w w' told tasks) (refused : ∀ entry ∈ told, TellsRefusal entry) :
    Onward base (ran ++ w.queue) w' := by
  obtain ⟨owners, numbers, created⟩ := ledger.waiting
  obtain ⟨refusals, earlier, same⟩ := ledger.deliveries
  refine ⟨ran, ⟨⟨?_, ?_, ?_⟩, ledger.numbers, effect.replies.trans ledger.replies,
    effect.finished.trans ledger.finished, refusals ++ told,
    List.forall_mem_append.2 ⟨earlier, refused⟩, ?_⟩, ?_⟩
  · rw [effect.queue]
    exact List.forall_mem_append.2 ⟨owners, effect.owners⟩
  · rw [effect.queue, List.map_append, numbers, effect.numbers, created, List.length_append,
      List.range'_append_1]
  · rw [effect.created, created, effect.queue, List.length_append, Nat.add_assoc]
  · rw [effect.deliveries]
    refine (same.append_right told).trans ?_
    simp only [List.append_assoc]
    exact (List.perm_append_comm.append_left refusals).append_left base.deliveries
  · rw [effect.queue, ← List.append_assoc]
    exact List.prefix_append _ _

theorem request (ledger : base.Ledger w ran) (serves : w.Serves t) (call : ClientCall) :
    Onward base (ran ++ w.queue) (call.perform w t).1 := by
  have returned := returned_perform serves.alone call
  generalize call.perform w t = result at returned ⊢
  obtain ⟨w', fault | none | n⟩ := result
  · exact ledger.called returned (List.forall_mem_nil _)
  · obtain ⟨error, made, refusal, -, effect⟩ := returned
    refine ledger.called effect fun entry mem => ?_
    unfold heard at mem
    split at mem
    · rw [List.mem_singleton] at mem
      exact mem ▸ ⟨error, refusal, rfl⟩
    · cases mem
  · obtain ⟨-, task, -, effect⟩ := returned
    exact ledger.called effect (List.forall_mem_nil _)

/-! ### Flushes -/

theorem flush (ledger : base.Ledger w ran) (serves : w.Serves t) (http : t.isDirect = false) :
    Onward base (ran ++ w.queue) w.flush := by
  obtain ⟨more, drained⟩ := drained_flush serves.alone serves.connected ledger.waiting
  rw [http] at drained
  have outcomes : ∀ task ∈ more,
      task.outcome false (task.reply w.replies (base.created + ran.length)) =
        base.outcomeOf task := by
    intro task mem
    have numbered := drained.numbers ▸ List.mem_map_of_mem (f := Task.number) mem
    rw [ledger.replies, Task.reply_drop (List.mem_range'_1.1 numbered).1]
    rfl
  obtain ⟨refusals, refused, same⟩ := ledger.deliveries
  refine ⟨ran ++ more, ⟨⟨?_, ?_, ?_⟩, ?_, ?_, ?_, refusals, refused, ?_⟩, ?_⟩
  · rw [drained.queue]
    exact List.forall_mem_nil _
  · rw [drained.queue]
    rfl
  · rw [drained.created, drained.queue, List.length_append, List.length_nil]
    omega
  · rw [List.map_append, ledger.numbers, drained.numbers, List.length_append, List.range'_append_1]
  · rw [drained.replies, ledger.replies, List.drop_drop, List.length_append]
  · rw [drained.finished, ledger.finished, List.append_assoc, List.map_append]
    congr 2
    exact List.map_congr_left fun task mem => by rw [outcomes task mem]
  · rw [drained.deliveries, heardOf_append, ← List.append_assoc]
    have told : (more.flatMap fun task => heard task.callback
        (task.outcome false (task.reply w.replies (base.created + ran.length)))) =
          heardOf base.outcomeOf more :=
      List.flatMap_congr fun task mem => by rw [outcomes task mem]
    rw [told]
    exact same.append_right _
  · obtain ⟨inner, joined, -⟩ := drained.joined
    rw [drained.queue, List.append_nil, joined, ← List.append_assoc]
    exact List.prefix_append _ _

end World.Ledger

/-- Closing is flushing, but for the connection. -/
theorem exists_close_eq (w : World) :
    ∃ trackers sessions traffic, w.close = { w.flush with trackers, sessions, traffic } := by
  unfold World.close
  simp only
  split
  · exact ⟨_, _, _, rfl⟩
  · split <;> exact ⟨_, _, _, rfl⟩

namespace World.Ledger

theorem close (ledger : base.Ledger w ran) (serves : w.Serves t) (http : t.isDirect = false) :
    Onward base (ran ++ w.queue) w.close := by
  obtain ⟨ran', flushed, kept⟩ := ledger.flush serves http
  obtain ⟨trackers, sessions, traffic, closed⟩ := exists_close_eq w
  rw [closed]
  exact ⟨ran', flushed.unmoved rfl rfl rfl rfl rfl, kept⟩

theorem handle (ledger : base.Ledger w ran) (serves : w.Serves t) (http : t.isDirect = false)
    (step : ClientStep) : Onward base (ran ++ w.queue) (w.handle step).1 := by
  have here : base.Ledger (w.during step) ran := ledger.unmoved rfl rfl rfl rfl rfl
  have serving := serves.during step
  rw [World.handle_eq serves]
  by_cases flushes : step.action = .act .flush
  · rw [flushes]
    exact here.flush serving http
  by_cases closes : step.action = .close
  · rw [closes]
    exact here.close serving http
  by_cases asks : ∃ call, step.action = .act (.request call)
  · obtain ⟨call, request⟩ := asks
    rw [request]
    exact here.request serving call
  · obtain ⟨desk, props, config, environment, same⟩ :=
      serving.exists_desked (not_exists.1 asks) flushes closes
    rw [same]
    exact (here.unmoved rfl rfl rfl rfl rfl : base.Ledger ((w.during step).desked desk _) ran).onward

end World.Ledger

/-! ## Runs -/

/-- A step that is answered with a number was a request, whose task waits then. -/
theorem exists_task_of_number (serves : w.Serves t) {step : ClientStep} {n : Nat}
    (answered : (w.handle step).2 = .ok (.of (.task (some n)))) :
    ∃ call, step.action = .act (.request call) ∧
      ∃ task ∈ (w.handle step).1.queue, task.MadeFor call n := by
  have here := serves.during step
  rw [World.handle_eq serves] at answered ⊢
  obtain ⟨call, asked, numbered⟩ := exists_call_of_number answered
  obtain ⟨props, made, schedules, makes⟩ := exists_makes here call
  obtain ⟨task, rfl, own⟩ := makes.eq_of_number here schedules numbered
  refine ⟨call, asked, task, ?_, own⟩
  have queue : (step.action.perform (w.during step) t).1.queue = w.queue ++ [task] := by
    rw [asked]
    exact schedules.queue
  rw [queue]
  exact List.mem_append_right _ (List.mem_singleton_self task)

/-- Whatever a client is asked, the ledger is carried on, and holds a task for each number that is
answered. -/
theorem World.Ledger.handled {start : Link} {first : World}
    (ledger : base.Ledger w ran) (linked : w.Linked first start) (http : start ≠ .direct)
    (steps : List ClientStep) :
    ∃ ran', base.Ledger (w.handled steps) ran' ∧
      ran ++ w.queue <+: ran' ++ (w.handled steps).queue ∧
      ∀ before step after n, steps = before ++ step :: after →
        ((w.handled before).handle step).2 = .ok (.of (.task (some n))) →
        ∃ call, step.action = .act (.request call) ∧
          ∃ task ∈ ran' ++ (w.handled steps).queue, task.MadeFor call n := by
  induction steps generalizing w ran with
  | nil => exact ⟨ran, ledger, List.prefix_rfl, fun before step after n split => by simp at split⟩
  | cons step rest ih =>
    obtain ⟨events, link, t, links⟩ := linked
    obtain ⟨ran₁, ledger₁, kept₁⟩ := ledger.handle links.serves (links.isDirect http) step
    obtain ⟨ran', ledger', kept', answers⟩ :=
      ih ledger₁ (World.Linked.handle ⟨events, link, t, links⟩ step)
    refine ⟨ran', ledger', kept₁.trans kept', fun before step' after n split answered => ?_⟩
    cases before with
    | nil =>
      obtain ⟨rfl, rfl⟩ := List.cons.inj split
      obtain ⟨call, asked, task, waits, own⟩ := exists_task_of_number links.serves answered
      exact ⟨call, asked, task, kept'.subset (List.mem_append_right _ waits), own⟩
    | cons first before =>
      obtain ⟨rfl, later⟩ := List.cons.inj split
      exact answers before step' after n later answered

/-- Outcomes over HTTP, whatever a client is asked: each task that was ever made is finished once,
and its callback told once, with an outcome that the reply to it decides. Callbacks are told of
nothing else but the refusals of calls, which make no task. -/
theorem outcomes_over_http_are_classified {token : Value} {config : Config}
    {environment : Option Environment} {connection : Connection} {shared : Bool}
    (alone : w.trackers = []) (idle : w.queue = []) (http : connection ≠ .direct)
    (opened : w.openTracker token config environment connection shared = (w', .ok ()))
    (steps : List ClientStep) :
    let flushed := (w'.handled steps).flush
    ∃ (tasks : List Task) (outcomeOf : Task → Outcome) (refusals : List (String × Outcome)),
      -- the tasks are all that have been made, and the requests of the client are among them
      tasks.map Task.number = List.range' w.created tasks.length ∧
      flushed.created = w.created + tasks.length ∧ flushed.queue = [] ∧
      (∀ before step after n, steps = before ++ step :: after →
        ((w'.handled before).handle step).2 = .ok (.of (.task (some n))) →
        ∃ call, step.action = .act (.request call) ∧ ∃ task ∈ tasks, task.MadeFor call n) ∧
      -- each has its outcome, and so has its callback
      flushed.finished = w.finished ++ tasks.map (fun task => (task.number, outcomeOf task)) ∧
      flushed.deliveries.Perm (w.deliveries ++ refusals ++ heardOf outcomeOf tasks) ∧
      (∀ entry ∈ refusals, TellsRefusal entry) ∧
      -- which the reply decides
      ∀ task ∈ tasks, (task.reply w.replies w.created).OfSession →
        (outcomeOf task).Classified task.endpoint (task.reply w.replies w.created) := by
  intro flushed
  obtain ⟨t₀, first⟩ := linked_openTracker alone idle opened
  have linked : w'.Linked w' (connection.firstLink w.sessions) := ⟨_, _, t₀, first⟩
  have indirect : connection.firstLink w.sessions ≠ .direct := by
    cases connection with
    | direct => exact absurd rfl http
    | own | session => nofun
  have start : w.Ledger w' [] := by
    obtain ⟨text, disk, -, -, -, rfl⟩ := World.exists_of_openTracker_eq_ok opened
    refine (ledger_self idle).unmoved ?_ ?_ ?_ ?_ ?_ <;> cases connection <;> rfl
  obtain ⟨ran, ledger, -, answers⟩ := start.handled linked indirect steps
  obtain ⟨events, link, t, links⟩ := linked.handled steps
  obtain ⟨tasks, settled, kept⟩ := ledger.flush links.serves (links.isDirect indirect)
  have emptied : flushed.queue = [] := flush_queue links.serves
  obtain ⟨refusals, refused, told⟩ := settled.deliveries
  rw [emptied, List.append_nil] at kept
  refine ⟨tasks, w.outcomeOf, refusals, settled.numbers, ?_, emptied,
    fun before step after n split answered => ?_, settled.finished, told, refused,
    fun task _ brought => task.classified brought⟩
  · have created := settled.waiting.created
    rwa [emptied] at created
  · obtain ⟨call, asked, task, mem, own⟩ := answers before step after n split answered
    exact ⟨call, asked, task, kept.subset mem, own⟩

/-- An event is answered with the text of a success, but with another status. -/
theorem outcomes_over_http_are_classified_unavailable :
    let start := World.fresh ⟨.memory [] [] 0, ⟨[]⟩, []⟩ [.text 503 "1"]
    let opened := start.openTracker (.str "T") .standard none .own true
    let asks : ClientStep := ⟨true, .act (.request (.track (.str "seen") .null .null))⟩
    ∃ problem, (0, .failed (.transport problem (some 503) "/track")) ∈
      (opened.1.handled [asks]).flush.finished := by
  intro start opened asks
  have given : opened = (opened.1, .ok ()) := rfl
  obtain ⟨tasks, outcomeOf, -, -, -, -, answers, finished, -, -, classified⟩ :=
    outcomes_over_http_are_classified rfl rfl (by decide) given [asks]
  have returned : (opened.1.handle asks).2 = .ok (.of (.task (some 0))) :=
    ClientAnswer.eq_of_number? (by decide +kernel)
  obtain ⟨call, asked, task, mem, own⟩ := answers [] asks [] 0 rfl returned
  have request : call.endpoint = .track := by
    cases asked
    rfl
  have reply : task.reply start.replies start.created = .text 503 "1" := by
    rw [Task.reply, own.number]
    rfl
  have decided := classified task mem (by rw [reply]; trivial)
  rw [reply, own.endpoint, request] at decided
  obtain ⟨problem, status, failed, known⟩ :=
    decided.failed fun accepted => by simpa using decided.accepted.1 accepted
  obtain rfl : status = some 503 := (known 503).2 ⟨by decide, "1", rfl⟩
  refine ⟨problem, ?_⟩
  rw [finished]
  exact List.mem_append_right _ (List.mem_map.2 ⟨task, mem, Prod.ext own.number failed⟩)

end EventTracker
