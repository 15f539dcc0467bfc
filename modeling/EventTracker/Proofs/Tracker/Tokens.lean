import EventTracker.Proofs.Tracker.Courses
import EventTracker.Proofs.Tracker.Handling
import EventTracker.Proofs.Wire.Tokens

/-!
# The token reaches the wire only

Two worlds that differ in the tokens of their trackers, and in the places of request
bodies where these stand, stay so whatever their clients are asked, and answer the same.
All else is the same in both: the log, the storage, the files, the bags, what callbacks
are told, and where bodies are posted to. Only an error that names surrogates in a
payload names their place in its text too, and a longer token moves that place.
-/

namespace EventTracker

/-! ## What is the same -/

/-- Trackers that are the same but for their tokens, which are not empty. -/
structure Tracker.SameButToken (t u : Tracker) : Prop where
  rest : u = { t with token := u.token }
  tokens : u.token = t.token ∨
    ∃ a b : String, t.token = .plain a ∧ u.token = .plain b ∧ a ≠ "" ∧ b ≠ ""

/-- Requests that are the same but for the token in their bodies. -/
inductive Task.SameButToken : Task → Task → Prop where
  | same (task : Task) : SameButToken task task
  | token {task : Task} {host : Text} {body : String} {sent sent' : Value}
    (goal : task.url = host ++ task.endpoint.path ++ "/") (found : payloadOf? task.body = some sent)
    (found' : payloadOf? body = some sent') (alike : task.endpoint.SameButToken sent sent') :
    SameButToken task { task with body }

/-- Posts that are the same but for the token in their bodies, where the endpoint has it. -/
inductive Post.SameButToken : Post → Post → Prop where
  | same (post : Post) : SameButToken post post
  | token {post : Post} {host : Text} {body : String} {endpoint : Endpoint} {sent sent' : Value}
    (goal : post.url = host ++ endpoint.path ++ "/") (found : payloadOf? post.body = some sent)
    (found' : payloadOf? body = some sent') (alike : endpoint.SameButToken sent sent') :
    SameButToken post { post with body }

/-- Outcomes that are the same but for the place of surrogates in a payload without a body. -/
inductive Outcome.SameButPlace : Outcome → Outcome → Prop where
  | same (outcome : Outcome) : SameButPlace outcome outcome
  | unencodable {cause cause' : Json.EncodeError} (alike : cause.SameButPlace cause') :
    SameButPlace (.failed (.validation (.unencodable cause)))
      (.failed (.validation (.unencodable cause')))

/-- The same callback is told of outcomes that are the same but for such places. -/
def ToldAlike (told told' : String × Outcome) : Prop :=
  told'.1 = told.1 ∧ told.2.SameButPlace told'.2

/-- Worlds that are the same but for the tokens of their trackers and in request bodies, and for
what these change in errors. -/
structure World.SameButTokens (w v : World) : Prop where
  trackers : List.Forall₂ Tracker.SameButToken w.trackers v.trackers
  queue : List.Forall₂ Task.SameButToken w.queue v.queue
  posts : List.Forall₂ Post.SameButToken w.posts v.posts
  deliveries : List.Forall₂ ToldAlike w.deliveries v.deliveries
  /-- The log, the storage, the clock, the sessions, how tasks ended and all else. -/
  rest : v = { w with
    trackers := v.trackers
    queue := v.queue
    posts := v.posts
    deliveries := v.deliveries }

/-- The same results in worlds that are the same but for tokens. -/
abbrev SameResult {α : Type} (result result' : World × α) : Prop :=
  AgreeUpTo World.SameButTokens result result'

/-- Attempts that come to the same but for places in errors, in such worlds. -/
def SameAttempt (attempt attempt' : World × Except Fault (Except TrackerError Nat)) : Prop :=
  attempt.1.SameButTokens attempt'.1 ∧
    AttemptsAgree Outcome.SameButPlace attempt.2 attempt'.2

namespace Tracker.SameButToken

variable {t u : Tracker}

theorem refl (t : Tracker) : t.SameButToken t := ⟨rfl, .inl rfl⟩

theorem debug_eq (same : t.SameButToken u) : u.debug = t.debug := by
  rw [same.rest]
  rfl

theorem distinctId_eq (same : t.SameButToken u) : u.distinctId = t.distinctId := by
  rw [same.rest]
  rfl

theorem connected (same : t.SameButToken u) (channel : Option Channel) (session : Option Nat) :
    Tracker.SameButToken { t with channel, session } { u with channel, session } :=
  ⟨by rw [same.rest], same.tokens⟩

theorem props (same : t.SameButToken u) (props : Mapping) :
    Tracker.SameButToken { t with props } { u with props } :=
  ⟨by rw [same.rest], same.tokens⟩

end Tracker.SameButToken

/-! ## Lists of related things -/

section Lists

variable {α β : Type} {R : α → β → Prop} {as : List α} {bs : List β}

theorem getElem?_of_forall₂ (related : List.Forall₂ R as bs) (place : Nat) :
    (as[place]? = none ∧ bs[place]? = none) ∨
      ∃ a b, as[place]? = some a ∧ bs[place]? = some b ∧ R a b := by
  induction related generalizing place with
  | nil => exact .inl ⟨rfl, rfl⟩
  | cons first rest ih =>
    cases place with
    | zero => exact .inr ⟨_, _, rfl, rfl, first⟩
    | succ place => exact ih place

theorem forall₂_set (related : List.Forall₂ R as bs) (place : Nat) {a : α} {b : β} (new : R a b) :
    List.Forall₂ R (as.set place a) (bs.set place b) := by
  induction related generalizing place with
  | nil => exact .nil
  | cons first rest ih =>
    cases place with
    | zero => exact .cons new rest
    | succ place => exact .cons first (ih place)

end Lists

namespace World.SameButTokens

variable {w v : World} {t u : Tracker}

theorem refl (w : World) : w.SameButTokens w where
  trackers := List.forall₂_same.2 fun t _ => .refl t
  queue := List.forall₂_same.2 fun task _ => .same task
  posts := List.forall₂_same.2 fun post _ => .same post
  deliveries := List.forall₂_same.2 fun told _ => ⟨rfl, .same told.2⟩
  rest := rfl

/-- The second world, as the first one with other trackers, requests, posts and errors told. -/
theorem exists_eq (alike : w.SameButTokens v) :
    ∃ trackers queue posts deliveries, List.Forall₂ Tracker.SameButToken w.trackers trackers ∧
      List.Forall₂ Task.SameButToken w.queue queue ∧
      List.Forall₂ Post.SameButToken w.posts posts ∧
      List.Forall₂ ToldAlike w.deliveries deliveries ∧
      v = { w with trackers, queue, posts, deliveries } :=
  ⟨_, _, _, _, alike.trackers, alike.queue, alike.posts, alike.deliveries, alike.rest⟩

theorem currentPlace_eq (alike : w.SameButTokens v) : v.currentPlace = w.currentPlace :=
  congrArg (· - 1) alike.trackers.length_eq.symm

theorem sessions_eq (alike : w.SameButTokens v) : v.sessions = w.sessions := by
  rw [alike.rest]

theorem traffic_eq (alike : w.SameButTokens v) : v.traffic = w.traffic := by
  rw [alike.rest]

theorem current?_cases (alike : w.SameButTokens v) :
    (w.current? = none ∧ v.current? = none) ∨
      ∃ t u, w.current? = some t ∧ v.current? = some u ∧ t.SameButToken u := by
  rw [current?, current?, List.getLast?_eq_getElem?, List.getLast?_eq_getElem?,
    ← alike.trackers.length_eq]
  exact getElem?_of_forall₂ alike.trackers _

/-- The store of a tracker knows nothing of its token. -/
theorem store_eq (alike : w.SameButTokens v) (same : t.SameButToken u) : v.store u = w.store t := by
  rw [alike.rest, same.rest]
  rfl

theorem record (alike : w.SameButTokens v) (records : List LogRecord) :
    (w.record records).SameButTokens (v.record records) :=
  ⟨alike.trackers, alike.queue, alike.posts, alike.deliveries, by rw [alike.rest]; rfl⟩

theorem told (alike : w.SameButTokens v) (label : String) {outcome outcome' : Outcome}
    (same : outcome.SameButPlace outcome') :
    ({ w with deliveries := w.deliveries ++ [(label, outcome)] } : World).SameButTokens
      { v with deliveries := v.deliveries ++ [(label, outcome')] } :=
  ⟨alike.trackers, alike.queue, alike.posts,
    List.rel_append alike.deliveries (.cons ⟨rfl, same⟩ .nil), by rw [alike.rest]⟩

theorem finished (alike : w.SameButTokens v) (more : List (Nat × Outcome)) :
    ({ w with finished := w.finished ++ more } : World).SameButTokens
      { v with finished := v.finished ++ more } :=
  ⟨alike.trackers, alike.queue, alike.posts, alike.deliveries, by rw [alike.rest]⟩

theorem desk (alike : w.SameButTokens v) (desk : Desk) :
    ({ w with toDesk := desk } : World).SameButTokens { v with toDesk := desk } :=
  ⟨alike.trackers, alike.queue, alike.posts, alike.deliveries, by rw [alike.rest]⟩

theorem withSessions (alike : w.SameButTokens v) (sessions : List Bool)
    (traffic : List SessionEvent) :
    ({ w with sessions, traffic } : World).SameButTokens { v with sessions, traffic } :=
  ⟨alike.trackers, alike.queue, alike.posts, alike.deliveries, by rw [alike.rest]⟩

theorem during (alike : w.SameButTokens v) (step : ClientStep) :
    (w.during step).SameButTokens (v.during step) :=
  ⟨alike.trackers, alike.queue, alike.posts, alike.deliveries, by rw [alike.rest]; rfl⟩

theorem setTracker (alike : w.SameButTokens v) (place : Nat) (new : t.SameButToken u) :
    (w.setTracker place t).SameButTokens (v.setTracker place u) :=
  ⟨forall₂_set alike.trackers place new, alike.queue, alike.posts, alike.deliveries, by
    rw [alike.rest]
    rfl⟩

theorem withStore (alike : w.SameButTokens v) (same : t.SameButToken u) (s : Store) :
    (w.withStore t s).SameButTokens (v.withStore u s) := by
  unfold World.withStore
  rw [alike.currentPlace_eq]
  exact (alike.desk s.toDesk).setTracker w.currentPlace (same.props s.props)

end World.SameButTokens

/-! ## Requests -/

variable {w v : World} {t u : Tracker}

theorem sameAttempt_submit (alike : w.SameButTokens v) (same : t.SameButToken u)
    {endpoint : Endpoint} {payload payload' : Value}
    (payloads : endpoint.SameButToken payload payload') (callback : Value) :
    SameAttempt (w.submit t endpoint payload callback) (v.submit u endpoint payload' callback) := by
  have place := alike.currentPlace_eq
  have cut := payloads.truncate maxTextLength
  have log := cut.redact_eq maxLoggedLength
  have bodies := cut.encodeBody_cases
  unfold World.submit truncated
  rw [payloads.depth_eq]
  by_cases shallow : payload.depth ≤ maxCutDepth
  case neg =>
    simp only [if_neg shallow]
    exact ⟨alike, .same _⟩
  case pos =>
    simp only [if_pos shallow]
    rcases bodies with ⟨body, body', sent, sent', made, made', found, found', payloads⟩ |
      ⟨cause, cause', failed, failed', causes⟩
    · have config : u.config = t.config := by rw [same.rest]
      have looping : v.looping = w.looping := by rw [alike.rest]
      simp only [made, made', log, same.debug_eq, place, config, looping]
      split
      case isTrue =>
        obtain ⟨trackers, queue, posts, deliveries, trackersAlike, tasks, posted, told, rfl⟩ :=
          alike.exists_eq
        refine ⟨⟨trackersAlike, List.rel_append tasks (.cons ?_ .nil), posted, told, rfl⟩, .same _⟩
        exact .token rfl found found' payloads
      case isFalse => exact ⟨(alike.record _).record _, .same _⟩
    · simp only [failed, failed', same.debug_eq]
      exact ⟨alike.record _, .failed (.unencodable causes)⟩

/-- The token has no say in what composing an event draws, and in the event it is all that
differs. -/
theorem Tracker.SameButToken.compose_matched (same : t.SameButToken u) (s : Store)
    (event properties : Value) :
    (s.compose u.token t.environment event properties).1 =
        (s.compose t.token t.environment event properties).1 ∧
      Matched Event.SameButToken (s.compose t.token t.environment event properties).2
        (s.compose u.token t.environment event properties).2 := by
  rcases same.tokens with equal | ⟨a, b, first, second, -⟩
  · rw [equal]
    exact ⟨rfl, .refl (fun e => ⟨rfl, .refl _ _⟩) _⟩
  · rw [first, second]
    exact composeFor_matched s s.distinctId a b t.environment event properties

/-- What the token of a tracker is changed to does not change what events it composes besides. -/
theorem sameAttempt_attemptTrack (alike : w.SameButTokens v) (same : t.SameButToken u)
    (event properties callback : Value) :
    SameAttempt (w.attemptTrack t event properties callback)
      (v.attemptTrack u event properties callback) := by
  have environment : u.environment = t.environment := by rw [same.rest]
  have composed := same.compose_matched (w.store t) event properties
  unfold World.attemptTrack
  rw [alike.store_eq same, environment]
  generalize (w.store t).compose t.token t.environment event properties = first at composed ⊢
  generalize (w.store t).compose u.token t.environment event properties = second at composed ⊢
  obtain ⟨s, result⟩ := first
  obtain ⟨s', result'⟩ := second
  obtain ⟨rfl, results⟩ : s' = s ∧ Matched Event.SameButToken result result' := composed
  have stored := alike.withStore same s'
  cases results with
  | ok events => exact sameAttempt_submit stored same events.wire callback
  | error fault =>
    rw [same.debug_eq]
    cases fault with
    | invalid report => exact ⟨stored.record _, .same _⟩
    | _ => exact ⟨stored, .same _⟩

theorem echoing_sameButTokens : World.Echoing World.SameButTokens Outcome.SameButPlace where
  refl := .same
  record alike records := alike.record records
  told alike label _ _ same := alike.told label same
  tracked {w v} alike event := by
    unfold World.trackUnheard
    rcases alike.current?_cases with ⟨none, none'⟩ | ⟨t, u, current, current', same⟩
    · rw [none, none']
      exact ⟨alike, rfl⟩
    · rw [current, current']
      obtain ⟨worlds, results⟩ := sameAttempt_attemptTrack alike same (.str event) .null .null
      exact ⟨worlds, results.map_unit⟩

/-! ## Calls -/

theorem Tracker.SameButToken.checkFields_matched (same : t.SameButToken u) (id : Text)
    {operation : Field} (named : operation.name ≠ "$token") (operand : Value) :
    Matched ProfileMutation.SameButToken
      (ProfileMutation.schema.checkFields [(.str ProfileMutation.tokenField.name, .str t.token),
        (.str ProfileMutation.distinctIdField.name, .str id), (.str operation.name, operand)])
      (ProfileMutation.schema.checkFields [(.str ProfileMutation.tokenField.name, .str u.token),
        (.str ProfileMutation.distinctIdField.name, .str id), (.str operation.name, operand)]) := by
  rcases same.tokens with equal | ⟨a, b, first, second, hasToken, hasToken'⟩
  · rw [equal]
    exact .refl (fun m => show m = { m with token := m.token } from rfl) _
  · rw [first, second]
    exact ProfileMutation.checkFields_matched hasToken hasToken' id named operand

theorem sameResult_mutate (alike : w.SameButTokens v) (same : t.SameButToken u) (method : String)
    (listener : Value) {operation : Field} (named : operation.name ≠ "$token") (operand : Value) :
    SameResult (w.mutate t method listener operation operand)
      (v.mutate u method listener operation operand) := by
  unfold World.mutate World.withDistinctId
  rw [alike.store_eq same, same.debug_eq]
  simp only
  split
  case isTrue => exact echoing_sameButTokens.refuse (alike.record _) listener .noDistinctId
  case isFalse =>
    have checked := same.checkFields_matched (w.store t).distinctId named operand
    generalize ProfileMutation.schema.checkFields [(.str ProfileMutation.tokenField.name,
      .str t.token), (.str ProfileMutation.distinctIdField.name, .str (w.store t).distinctId),
      (.str operation.name, operand)] = first at checked ⊢
    generalize ProfileMutation.schema.checkFields [(.str ProfileMutation.tokenField.name,
      .str u.token), (.str ProfileMutation.distinctIdField.name, .str (w.store t).distinctId),
      (.str operation.name, operand)] = second at checked ⊢
    cases checked with
    | error report => exact echoing_sameButTokens.refuse (alike.record _) listener _
    | ok mutations =>
      exact echoing_sameButTokens.settled (sameAttempt_submit alike same mutations.wire listener).1
        (sameAttempt_submit alike same mutations.wire listener).2 listener

/-- A course goes the same whatever the token is. -/
theorem sameResult_course (alike : w.SameButTokens v) (same : t.SameButToken u) (course : Course) :
    SameResult (course.perform w t) (course.perform v u) := by
  cases course with
  | fault records reason => exact ⟨alike.record records, rfl⟩
  | refuse records listener error =>
    exact echoing_sameButTokens.refuse (alike.record records) listener error
  | track event properties listener =>
    obtain ⟨worlds, agree⟩ := sameAttempt_attemptTrack alike same event properties listener
    exact echoing_sameButTokens.settled worlds agree listener
  | mutate method listener operation named operand =>
    exact sameResult_mutate alike same method listener named operand

/-- Calls go the same whatever the token is. -/
theorem sameResult_of_takesCourse {given : Value} {op : World → Tracker → World.Sent}
    (takes : ∀ debug user, TakesCourse debug user given op) (alike : w.SameButTokens v)
    (same : t.SameButToken u) : SameResult (op w t) (op v u) := by
  obtain ⟨course, -, goes⟩ := takes t.debug t.distinctId
  rw [goes w t rfl rfl, goes v u same.debug_eq same.distinctId_eq]
  exact sameResult_course alike same course

theorem sameResult_identify (alike : w.SameButTokens v) (same : t.SameButToken u)
    (id callback : Value) : SameResult (w.identify t id callback) (v.identify u id callback) := by
  unfold World.identify
  rw [alike.store_eq same]
  obtain ⟨s, result⟩ := (w.store t).identify id
  have stored := alike.withStore same s
  cases result with
  | error fault => exact ⟨stored, rfl⟩
  | ok previous =>
    exact sameResult_of_takesCourse (fun _ _ => .track _ _ _) stored (same.props s.props)

theorem sameResult_call (alike : w.SameButTokens v) (same : t.SameButToken u) (call : ClientCall) :
    SameResult (call.perform w t) (call.perform v u) := by
  cases call with
  | identify id callback => exact sameResult_identify alike same id callback
  | _ =>
    exact sameResult_of_takesCourse
      (fun debug user => takesCourse_perform debug user _ (by rintro _ _ ⟨⟩)) alike same

/-! ## Running tasks -/

namespace Task.SameButToken

variable {task task' : Task}

theorem rest (alike : task.SameButToken task') : task' = { task with body := task'.body } := by
  cases alike <;> rfl

theorem post (alike : task.SameButToken task') (channel : Channel) (timeout : Option Value) :
    Post.SameButToken ⟨channel, task.url, task.body, timeout⟩
      ⟨channel, task.url, task'.body, timeout⟩ := by
  cases alike with
  | same => exact .same _
  | token goal found found' payloads => exact .token goal found found' payloads

end Task.SameButToken

theorem sameResult_openChannel (alike : w.SameButTokens v) (same : t.SameButToken u) (place : Nat) :
    SameResult (w.openChannel place t) (v.openChannel place u) := by
  have channel : u.channel = t.channel := by rw [same.rest]
  have session : u.session = t.session := by rw [same.rest]
  unfold World.openChannel
  rw [channel, session]
  cases t.channel with
  | some channel => exact ⟨alike, rfl⟩
  | none =>
    cases t.session with
    | some session => exact ⟨alike.setTracker place (same.connected _ _), rfl⟩
    | none =>
      simp only [alike.sessions_eq, alike.traffic_eq]
      exact ⟨(alike.withSessions _ _).setTracker place (same.connected _ _), rfl⟩

theorem sameResult_post (alike : w.SameButTokens v) (same : t.SameButToken u) (channel : Channel)
    {task task' : Task} (tasks : task.SameButToken task') :
    SameResult (w.post t channel task.url task.body) (v.post u channel task.url task'.body) := by
  have config : u.config = t.config := by rw [same.rest]
  obtain ⟨trackers, queue, posts, deliveries, trackersAlike, waiting, posted, told, rfl⟩ :=
    alike.exists_eq
  unfold World.post
  simp only [nextReply_eq, config]
  cases channel with
  | direct =>
    exact ⟨⟨trackersAlike, waiting,
      List.rel_append posted (.cons (tasks.post _ none) .nil), told, rfl⟩, rfl⟩
  | http session =>
    have reached : World.isOpen { w with trackers, queue, posts, deliveries } (.http session) =
      w.isOpen (.http session) := rfl
    rw [reached]
    cases w.isOpen (.http session) with
    | true =>
      exact ⟨⟨trackersAlike, waiting,
        List.rel_append posted (.cons (tasks.post _ _) .nil), told, rfl⟩, rfl⟩
    | false => exact ⟨⟨trackersAlike, waiting, posted, told, rfl⟩, rfl⟩

theorem World.SameButTokens.runTask (alike : w.SameButTokens v) {task task' : Task}
    (tasks : task.SameButToken task') : (w.runTask task).SameButTokens (v.runTask task') := by
  have found : (w.trackers[task.owner]? = none ∧ v.trackers[task.owner]? = none) ∨
      ∃ t u, w.trackers[task.owner]? = some t ∧ v.trackers[task.owner]? = some u ∧
        t.SameButToken u := getElem?_of_forall₂ alike.trackers _
  rw [tasks.rest]
  unfold World.runTask
  rcases found with ⟨none, none'⟩ | ⟨t, u, some, some', same⟩
  · simp only [none, none']
    exact alike
  · simp only [some, some', same.debug_eq]
    have opened := sameResult_openChannel alike same task.owner
    generalize w.openChannel task.owner t = first at opened ⊢
    generalize v.openChannel task.owner u = second at opened ⊢
    obtain ⟨w₁, channel⟩ := first
    obtain ⟨v₁, channel'⟩ := second
    obtain ⟨connected, rfl⟩ : w₁.SameButTokens v₁ ∧ channel' = channel := opened
    have posted := sameResult_post connected same channel' tasks
    generalize w₁.post t channel' task.url task.body = first at posted ⊢
    generalize v₁.post u channel' task.url task'.body = second at posted ⊢
    obtain ⟨w₂, exchange⟩ := first
    obtain ⟨v₂, exchange'⟩ := second
    obtain ⟨posted, rfl⟩ : w₂.SameButTokens v₂ ∧ exchange' = exchange := posted
    exact (echoing_sameButTokens.deliver (posted.record _) task.callback (.same _)).finished _

namespace World.SameButTokens

/-- Either nothing waits, or the first tasks and the rests are the same but for tokens. -/
theorem queue_cases (alike : w.SameButTokens v) :
    (w.queue = [] ∧ v.queue = []) ∨
      ∃ task rest task' rest', w.queue = task :: rest ∧ v.queue = task' :: rest' ∧
        task.SameButToken task' ∧
        ({ w with queue := rest } : World).SameButTokens { v with queue := rest' } := by
  obtain ⟨trackers, queue, posts, deliveries, trackersAlike, waiting, posted, told, rfl⟩ :=
    alike.exists_eq
  generalize waits : w.queue = tasks at waiting
  cases waiting with
  | nil => exact .inl ⟨rfl, rfl⟩
  | cons first others =>
    exact .inr ⟨_, _, _, _, rfl, rfl, first, trackersAlike, others, posted, told, rfl⟩

theorem drain (alike : w.SameButTokens v) (fuel : Nat) :
    (w.drain fuel).SameButTokens (v.drain fuel) := by
  induction fuel generalizing w v with
  | zero => exact alike
  | succ fuel ih =>
    rw [World.drain, World.drain]
    rcases alike.queue_cases with
      ⟨none, none'⟩ | ⟨task, rest, task', rest', waits, waits', first, others⟩
    · rw [none, none']
      exact alike
    · rw [waits, waits']
      exact ih (others.runTask first)

theorem workload_eq (alike : w.SameButTokens v) : v.workload = w.workload := by
  have waiting := alike.queue
  rw [World.workload, World.workload]
  generalize w.queue = tasks, v.queue = tasks' at waiting
  induction waiting with
  | nil => rfl
  | cons first others ih =>
    rw [Task.totalWeight, Task.totalWeight, ih, first.rest]
    rfl

theorem pending_eq (alike : w.SameButTokens v) : v.pending = w.pending := by
  have owned {task task' : Task} (first : task.SameButToken task') :
      (task.owner == w.currentPlace) ↔ (task'.owner == w.currentPlace) := by
    rw [first.rest]
  rw [World.pending, World.pending, alike.currentPlace_eq]
  exact (List.rel_filter @owned alike.queue).length_eq.symm

theorem flush (alike : w.SameButTokens v) : w.flush.SameButTokens v.flush := by
  unfold World.flush
  rw [alike.pending_eq, alike.workload_eq]
  split
  · exact alike
  · exact alike.drain w.workload

theorem close (alike : w.SameButTokens v) : w.close.SameButTokens v.close := by
  have flushed := alike.flush
  unfold World.close
  simp only
  rcases flushed.current?_cases with ⟨none, none'⟩ | ⟨t, u, current, current', same⟩
  · rw [none, none']
    exact flushed
  · have external : u.external = t.external := by rw [same.rest]
    have session : u.session = t.session := by rw [same.rest]
    have disconnected := same.connected none none
    rw [external] at disconnected
    rw [current, current']
    simp only [external, session, flushed.currentPlace_eq, flushed.sessions_eq,
      flushed.traffic_eq]
    split
    case h_1 => exact (flushed.withSessions _ _).setTracker _ disconnected
    case h_2 => exact flushed

end World.SameButTokens

/-! ## What a client is asked -/

theorem AgreeUpTo.answer {α : Type} {result result' : World × Except Fault α}
    (same : SameResult result result') (f : α → Answer) :
    SameResult (Action.perform.answer f result) (Action.perform.answer f result') :=
  ⟨same.1, congrArg (Except.map f) same.2⟩

theorem sameResult_onStore {α : Type} (call : Store → Store × α) (alike : w.SameButTokens v)
    (same : t.SameButToken u) : SameResult (w.onStore t call) (v.onStore u call) := by
  unfold World.onStore
  rw [alike.store_eq same]
  exact ⟨alike.withStore same _, rfl⟩

theorem sameResult_reconfigure (alike : w.SameButTokens v) (same : t.SameButToken u)
    (patch : Value) (more : Table Value) :
    SameResult (w.reconfigure t patch more) (v.reconfigure u patch more) := by
  have config : u.config = t.config := by rw [same.rest]
  unfold World.reconfigure
  rw [config, alike.currentPlace_eq]
  cases (Config.Change.reconfigure patch more).call t.config with
  | error fault config => exact ⟨alike.setTracker _ ⟨by rw [same.rest], same.tokens⟩, rfl⟩
  | ok _ config => exact ⟨alike.setTracker _ ⟨by rw [same.rest], same.tokens⟩, rfl⟩

theorem sameResult_action (alike : w.SameButTokens v) (same : t.SameButToken u) (action : Action) :
    SameResult (action.perform w t) (action.perform v u) := by
  cases action with
  | request call => exact (sameResult_call alike same call).answer _
  | register patch => exact (sameResult_onStore (·.registerSuper patch) alike same).answer _
  | registerOnce patch => exact (sameResult_onStore (·.registerSuperOnce patch) alike same).answer _
  | unregister key => exact (sameResult_onStore (·.unregisterSuper key) alike same).answer _
  | reset => exact sameResult_onStore _ alike same
  | property key => exact ⟨alike, by rw [Action.perform, alike.store_eq same]; rfl⟩
  | distinctId => exact ⟨alike, by rw [Action.perform, alike.store_eq same]; rfl⟩
  | configure patch more => exact (sameResult_reconfigure alike same patch more).answer _
  | flush => exact ⟨alike.flush, rfl⟩

theorem sameResult_perform (alike : w.SameButTokens v) (same : t.SameButToken u)
    (action : ClientAction) : SameResult (action.perform w t) (action.perform v u) := by
  cases action with
  | act action =>
    obtain ⟨worlds, answers⟩ := sameResult_action alike same action
    exact ⟨worlds, congrArg (Except.map ClientAnswer.of) answers⟩
  | setting key => exact ⟨alike, by rw [ClientAction.perform, same.rest]; rfl⟩
  | superProperties => exact ⟨alike, by rw [ClientAction.perform, alike.store_eq same]; rfl⟩
  | surroundings => exact ⟨alike, by rw [ClientAction.perform, same.rest]; rfl⟩
  | surround environment =>
    refine ⟨?_, rfl⟩
    show World.SameButTokens _ (v.setTracker v.currentPlace { u with environment })
    rw [alike.currentPlace_eq]
    exact alike.setTracker _ ⟨by rw [same.rest], same.tokens⟩
  | close => exact ⟨alike.close, rfl⟩

theorem sameResult_handle (alike : w.SameButTokens v) (step : ClientStep) :
    SameResult (w.handle step) (v.handle step) := by
  have during := alike.during step
  unfold World.handle
  rcases during.current?_cases with ⟨none, none'⟩ | ⟨t, u, current, current', same⟩
  · rw [none, none']
    exact ⟨during, rfl⟩
  · rw [current, current']
    exact sameResult_perform during same step.action

theorem sameResult_handling (alike : w.SameButTokens v) (steps : List ClientStep) :
    List.Forall₂ SameResult (w.handling steps) (v.handling steps) := by
  induction steps generalizing w v with
  | nil => exact .nil
  | cons step rest ih =>
    have handled := sameResult_handle alike step
    exact .cons handled (ih handled.1)

/-! ## Opening -/

theorem storageName_of_truthy {config : Config} (named : config.persistenceName.truthy = true)
    (token : Text) : World.storageName config token = config.persistenceName :=
  if_pos named

theorem World.SameButTokens.joinedBy (w : World) {a b : String} (hasToken : a ≠ "")
    (hasToken' : b ≠ "") {config : Config} (named : config.persistenceName.truthy = true)
    (environment : Option Environment) (connection : Connection) (s : Store) :
    (w.joinedBy a config environment connection s).SameButTokens
      (w.joinedBy b config environment connection s) := by
  have opened : (w.newTracker a config environment connection s.props).SameButToken
      (w.newTracker b config environment connection s.props) := by
    have name : storageName config b = storageName config a := by
      rw [storageName_of_truthy named, storageName_of_truthy named]
    refine ⟨?_, .inr ⟨a, b, rfl, rfl, hasToken, hasToken'⟩⟩
    simp only [newTracker, name]
  have same := World.SameButTokens.refl (w.joinedBy a config environment connection s)
  exact ⟨List.rel_append (List.forall₂_same.2 fun t _ => .refl t) (.cons opened .nil), same.queue,
    same.posts, same.deliveries, rfl⟩

theorem sameResult_openTracker (w : World) {a b : String} (hasToken : a ≠ "") (hasToken' : b ≠ "")
    {config : Config} (named : config.persistenceName.truthy = true)
    (environment : Option Environment) (connection : Connection) (shared : Bool) :
    SameResult (w.openTracker (.str a) config environment connection shared)
      (w.openTracker (.str b) config environment connection shared) := by
  have nonempty {s : String} (hasText : s ≠ "") : (s : Text) ≠ "" :=
    fun empty => hasText (Text.plain.inj empty)
  rw [World.openTracker_eq (nonempty hasToken), World.openTracker_eq (nonempty hasToken'),
    storageName_of_truthy named, storageName_of_truthy named]
  cases w.usedBy config shared with
  | error fault => exact ⟨.refl _, rfl⟩
  | ok disk =>
    exact ⟨World.SameButTokens.joinedBy w hasToken hasToken' named environment connection _, rfl⟩

/-- Tokens reach the wire only. Clients that are opened in the same world with the same settings,
under a name that these give, and that differ in their tokens only, answer all that they are
asked in the same way, and leave worlds that differ only in the token that a tracker holds and
in the place of bodies where the endpoint has it, and in where the surrogates stand that a
callback is told of. -/
theorem tokens_reach_the_wire_only (w : World) {a b : String} (hasToken : a ≠ "")
    (hasToken' : b ≠ "") {config : Config} (named : config.persistenceName.truthy = true)
    (environment : Option Environment) (connection : Connection) (shared : Bool)
    (steps : List ClientStep) :
    let first := w.openTracker (.str a) config environment connection shared
    let second := w.openTracker (.str b) config environment connection shared
    SameResult first second ∧
      List.Forall₂ SameResult (first.1.handling steps) (second.1.handling steps) := by
  have opened := sameResult_openTracker w hasToken hasToken' named environment connection shared
  exact ⟨opened, sameResult_handling opened.1 steps⟩

/-- Two clients of one name and different tokens post alike. -/
theorem tokens_reach_the_wire_only_shared :
    let start := World.fresh ⟨.memory [] [] 0, ⟨[]⟩, []⟩ []
    let config := { Config.standard with persistenceName := .str "shared" }
    let first := start.openTracker (.str "A") config none .own true
    let second := start.openTracker (.str "B") config none .own true
    let steps : List ClientStep :=
      [⟨true, .act (.request (.track (.str "seen") .null .null))⟩, ⟨true, .close⟩]
    List.Forall₂ SameResult (first.1.handling steps) (second.1.handling steps) ∧
      (first.1.handled steps).posts.map (·.url) = ["https://api.mixpanel.com/track/"] ∧
      (first.1.handled steps).trackers.map (·.token) = ["A"] ∧
      (second.1.handled steps).trackers.map (·.token) = ["B"] := by
  intro start config first second steps
  obtain ⟨-, alike⟩ :=
    tokens_reach_the_wire_only start (a := "A") (b := "B") (by decide) (by decide)
      (show config.persistenceName.truthy = true from rfl) none .own true steps
  exact ⟨alike, by decide +kernel, by decide +kernel, by decide +kernel⟩

/-- A callback that is told of a surrogate is told its place in the payload, behind the token, and a
token that has surrogates itself keeps every payload from being encoded. -/
theorem tokens_move_surrogates :
    let start := World.fresh ⟨.memory [] [] 0, ⟨[]⟩, []⟩ []
    let config := { Config.standard with persistenceName := .str "shared" }
    let rough : Text := .ofPoints [.surrogate 0]
    let set (value : Text) : ClientAction :=
      .act (.request (.set (.str "x") (some (.str value)) (.callback ⟨"cb", .settle, 0⟩)))
    let after (token value : Text) : World :=
      ((start.openTracker (.str token) config none .own true).1.handle ⟨true, set value⟩).1
    let told (token value : Text) : List (String × Option Text) :=
      (after token value).deliveries.map fun (label, outcome) => match outcome with
        | .accepted => (label, none)
        | .failed error => (label, some error.message)
    told "T" rough ≠ told "TT" rough ∧
      (after "T" "v").created = 1 ∧ (after rough "v").created = 0 ∧ told "T" "v" ≠ told rough "v" := by
  decide +kernel

end EventTracker
