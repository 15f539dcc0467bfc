import EventTracker.Proofs.Tracker.Handling

/-!
# HTTP sessions

A client that is given nothing to post with opens a session when it posts and closes it
when it is closed. Tasks that are run and clients that are closed add to the traffic of
their world: sessions are opened and closed, and bodies are posted. `Traffic` tells what a
client may add, and what it posts with at the end of it.
-/

namespace EventTracker

namespace SessionEvent

/-- The sessions that are opened, in order. -/
def opened (events : List SessionEvent) : List Nat :=
  events.filterMap fun event => match event with
    | .opens session => some session
    | _ => none

/-- The sessions that are closed, in order. -/
def closed (events : List SessionEvent) : List Nat :=
  events.filterMap fun event => match event with
    | .closes session => some session
    | _ => none

/-- What bodies are posted through, in order. -/
def channels (events : List SessionEvent) : List Channel :=
  events.filterMap fun event => match event with
    | .posts channel => some channel
    | _ => none

/-- What an event makes of the states of all sessions. -/
def apply (sessions : List Bool) : SessionEvent → List Bool
  | .opens _ => sessions ++ [true]
  | .posts _ => sessions
  | .closes session => sessions.set session false

variable (events more : List SessionEvent)

@[simp] theorem opened_append : opened (events ++ more) = opened events ++ opened more :=
  List.filterMap_append

@[simp] theorem closed_append : closed (events ++ more) = closed events ++ closed more :=
  List.filterMap_append

@[simp] theorem channels_append : channels (events ++ more) = channels events ++ channels more :=
  List.filterMap_append

@[simp] theorem opened_opens (session : Nat) : opened [.opens session] = [session] := rfl

@[simp] theorem opened_posts (channel : Channel) : opened [.posts channel] = [] := rfl

@[simp] theorem opened_closes (session : Nat) : opened [.closes session] = [] := rfl

@[simp] theorem closed_opens (session : Nat) : closed [.opens session] = [] := rfl

@[simp] theorem closed_posts (channel : Channel) : closed [.posts channel] = [] := rfl

@[simp] theorem closed_closes (session : Nat) : closed [.closes session] = [session] := rfl

@[simp] theorem channels_opens (session : Nat) : channels [.opens session] = [] := rfl

@[simp] theorem channels_posts (channel : Channel) : channels [.posts channel] = [channel] := rfl

@[simp] theorem channels_closes (session : Nat) : channels [.closes session] = [] := rfl

theorem length_foldl_apply (sessions : List Bool) :
    (events.foldl apply sessions).length = sessions.length + (opened events).length := by
  induction events generalizing sessions with
  | nil => rfl
  | cons event rest ih =>
    rw [List.foldl_cons, ih]
    cases event with
    | opens session => simp [apply, opened, Nat.add_assoc, Nat.add_comm]
    | posts channel => rfl
    | closes session => rw [apply, List.length_set]; rfl

/-- Posts open and close nothing. -/
theorem foldl_apply_of_posts {channel : Channel} {events : List SessionEvent}
    (posted : ∀ event ∈ events, event = .posts channel) (sessions : List Bool) :
    events.foldl apply sessions = sessions := by
  induction events with
  | nil => rfl
  | cons event rest ih =>
    rw [List.forall_mem_cons] at posted
    rw [List.foldl_cons, posted.1]
    exact ih posted.2

end SessionEvent

open SessionEvent

/-! ## Traffic -/

/-- What a client posts with. -/
inductive Link where
  /-- Nothing as yet. -/
  | idle
  /-- A session that it has opened for itself. -/
  | own (session : Nat)
  /-- A session of the caller's. -/
  | lent (session : Nat)
  /-- A transport of the caller's. -/
  | direct

namespace Link

/-- The channel that posts go through. -/
def channel? : Link → Option Channel
  | .idle => none
  | .own session | .lent session => some (.http session)
  | .direct => some .direct

/-- A tracker whose fields say that it posts with the link. -/
def Holds (t : Tracker) : Link → Prop
  | .idle => t.external = false ∧ t.session = none ∧ t.channel = none
  | .own session => t.external = false ∧ t.session = some session ∧ t.channel = some (.http session)
  | .lent session =>
    t.external = true ∧ t.session = some session ∧
      (t.channel = none ∨ t.channel = some (.http session))
  | .direct => t.external = false ∧ t.session = none ∧ t.channel = some .direct

/-- The session that a client has opened for itself and not closed, if there is one. -/
def unclosed : Link → List Nat
  | .own session => [session]
  | _ => []

/-- The channel that a link of the caller's is. -/
def given? : Link → Option Channel
  | .lent session => some (.http session)
  | .direct => some .direct
  | _ => none

end Link

/-- The events that a client may leave where there were `first` sessions before, and its link at the
start and after them. -/
inductive Traffic (first : Nat) (start : Link) : Link → List SessionEvent → Prop where
  | starts : Traffic first start start []
  | opens {events : List SessionEvent} (before : Traffic first start .idle events) :
    Traffic first start (.own (first + (opened events).length))
      (events ++ [.opens (first + (opened events).length)])
  | posts {link : Link} {channel : Channel} {events : List SessionEvent}
    (through : link.channel? = some channel) (before : Traffic first start link events) :
    Traffic first start link (events ++ [.posts channel])
  | closes {session : Nat} {events : List SessionEvent}
    (before : Traffic first start (.own session) events) :
    Traffic first start .idle (events ++ [.closes session])

/-- Sessions that a client opens for itself are numbered on from `first`, each is closed before the
next one is opened, and posts go out on the one that is open. -/
structure SessionEvent.Orderly (first : Nat) (events : List SessionEvent) : Prop where
  numbers : opened events = List.range' first (opened events).length
  /-- At every moment at most one session is open. -/
  order : ∀ past, past <+: events →
    opened past = closed past ∨ ∃ session, opened past = closed past ++ [session]
  posts : ∀ past channel, past ++ [.posts channel] <+: events →
    ∃ session, channel = .http session ∧ opened past = closed past ++ [session]

namespace Traffic

variable {first : Nat} {start link : Link} {events past : List SessionEvent}

theorem before_posts {channel : Channel}
    (traffic : Traffic first start link (past ++ [.posts channel])) :
    link.channel? = some channel ∧ Traffic first start link past := by
  generalize all : past ++ [.posts channel] = events at traffic
  cases traffic with
  | starts => exact absurd all (by simp)
  | opens before | closes before => cases (List.append_inj' all rfl).2
  | posts through before =>
    obtain ⟨rfl, same⟩ := List.append_inj' all rfl
    cases same
    exact ⟨through, before⟩

/-- What a client has left at any moment is traffic, too. -/
theorem exists_of_prefix (traffic : Traffic first start link events) (before : past <+: events) :
    ∃ link', Traffic first start link' past := by
  induction traffic with
  | starts => exact List.prefix_nil.1 before ▸ ⟨start, .starts⟩
  | opens earlier ih =>
    rcases List.prefix_concat_iff.1 before with rfl | before
    · exact ⟨_, earlier.opens⟩
    · exact ih before
  | posts through earlier ih =>
    rcases List.prefix_concat_iff.1 before with rfl | before
    · exact ⟨_, earlier.posts through⟩
    · exact ih before
  | closes earlier ih =>
    rcases List.prefix_concat_iff.1 before with rfl | before
    · exact ⟨_, earlier.closes⟩
    · exact ih before

/-- What the caller gives is all that is ever posted with. -/
theorem of_given {channel : Channel} (given : start.given? = some channel)
    (traffic : Traffic first start link events) :
    link = start ∧ ∀ event ∈ events, event = .posts channel := by
  induction traffic with
  | starts => exact ⟨rfl, List.forall_mem_nil _⟩
  | opens before ih | closes before ih =>
    rw [← ih.1] at given
    cases given
  | @posts link channel' events through before ih =>
    obtain ⟨rfl, posted⟩ := ih
    have same : link.channel? = some channel := by cases link <;> first | exact given | cases given
    obtain rfl : channel' = channel := Option.some.inj (through.symm.trans same)
    exact ⟨rfl, List.forall_mem_append.2 ⟨posted, List.forall_mem_singleton.2 rfl⟩⟩

/-- A transport of the caller's comes from nowhere. -/
theorem ne_direct (indirect : start ≠ .direct) (traffic : Traffic first start link events) :
    link ≠ .direct := by
  induction traffic with
  | starts => exact indirect
  | posts through before ih => exact ih
  | opens before | closes before => nofun

theorem idle_or_own (traffic : Traffic first .idle link events) :
    link = .idle ∨ ∃ session, link = .own session := by
  induction traffic with
  | starts => exact .inl rfl
  | opens before ih => exact .inr ⟨_, rfl⟩
  | posts through before ih => exact ih
  | closes before ih => exact .inl rfl

/-- Of the sessions that a client has opened for itself, all are closed but the one that it posts
with. -/
theorem opened_eq (traffic : Traffic first .idle link events) :
    opened events = closed events ++ link.unclosed := by
  induction traffic with
  | starts => rfl
  | opens before ih => simp [ih, Link.unclosed]
  | posts through before ih => simp [ih]
  | closes before ih => simp [ih, Link.unclosed]

theorem opened_eq_range' (traffic : Traffic first .idle link events) :
    opened events = List.range' first (opened events).length := by
  induction traffic with
  | starts => rfl
  | opens before ih =>
    rw [opened_append, opened_opens, List.length_append, List.length_singleton,
      List.range'_1_concat, ← ih]
  | posts through before ih | closes before ih => simpa using ih

theorem orderly (traffic : Traffic first .idle link events) : Orderly first events where
  numbers := traffic.opened_eq_range'
  order past before := by
    obtain ⟨link', earlier⟩ := traffic.exists_of_prefix before
    have known := earlier.opened_eq
    rcases earlier.idle_or_own with rfl | ⟨session, rfl⟩
    · exact .inl (known.trans (List.append_nil _))
    · exact .inr ⟨session, known⟩
  posts past channel before := by
    obtain ⟨link', later⟩ := traffic.exists_of_prefix before
    obtain ⟨through, earlier⟩ := later.before_posts
    rcases earlier.idle_or_own with rfl | ⟨session, rfl⟩
    · cases through
    · exact ⟨session, (Option.some.inj through).symm, earlier.opened_eq⟩

/-- The sessions that a client has opened for itself follow those that were there; all are closed
but the one that it posts with. -/
theorem foldl_apply {base : List Bool} (traffic : Traffic base.length .idle link events) :
    events.foldl apply base = base ++ List.replicate (closed events).length false ++
      link.unclosed.map fun _ => true := by
  induction traffic with
  | starts => simp [closed, Link.unclosed]
  | opens before ih => simp [ih, apply, Link.unclosed]
  | posts through before ih => simp [ih, apply]
  | @closes session events before ih =>
    have last : session = base.length + (closed events).length := by
      have numbers := before.opened_eq_range'
      simp only [before.opened_eq, Link.unclosed, List.length_append, List.length_singleton,
        List.range'_1_concat] at numbers
      exact (List.cons.inj (List.append_inj' numbers rfl).2).1
    rw [List.foldl_append, closed_append, ih, last]
    simp [apply, Link.unclosed, List.replicate_succ']

end Traffic

end EventTracker
