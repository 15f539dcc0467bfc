import EventTracker.Tracker.Request

/-!
# The event loop

Tasks run one after another in the order of their creation, and tasks that callbacks
create meanwhile run after those. `World.flush` runs them all if the current tracker has
tasks that wait. A task weighs as much as the tasks that may come of it, so `World.drain`
ends with an empty queue.
-/

namespace EventTracker

/-- The weight of a task: itself, and one more if its callback tracks an event. -/
def Task.weight (task : Task) : Nat :=
  match task.callback with
  | .callback ⟨_, .track _, _⟩ => 2
  | _ => 1

/-- The weight of some tasks. -/
def Task.totalWeight : List Task → Nat
  | [] => 0
  | task :: rest => task.weight + totalWeight rest

namespace World

/-- Makes sure that a tracker can post: its channel, opened on a session of its own if need be. -/
def openChannel (w : World) (place : Nat) (t : Tracker) : World × Channel :=
  match t.channel with
  | some channel => (w, channel)
  | none =>
    match t.session with
    | some session =>
      (w.setTracker place { t with channel := some (.http session) }, .http session)
    | none =>
      let session := w.sessions.length
      let opened := { t with channel := some (.http session), session := some session }
      let sessions := w.sessions ++ [true]
      let traffic := w.traffic ++ [SessionEvent.opens session]
      (({ w with sessions, traffic }).setTracker place opened, .http session)

/-- The next reply; when the script has ended, requests are accepted. -/
def nextReply (w : World) : Reply × World :=
  match w.replies with
  | reply :: replies => (reply, { w with replies })
  | [] => (.text 200 "1", w)

/-- Whether bodies can be posted through a channel: its session is open. -/
def isOpen (w : World) : Channel → Bool
  | .direct => true
  | .http session => w.sessions[session]?.getD false

/-- Posts a body through a channel. On a closed session nothing is sent. -/
def post (w : World) (t : Tracker) (channel : Channel) (url : Text) (body : String) :
    World × Exchange :=
  let noted : World := { w with
    traffic := w.traffic ++ [SessionEvent.posts channel]
    log := w.log ++ match channel with
      | .direct => []
      | .http _ => [postRecord url] }
  if w.isOpen channel then
    let (reply, next) := noted.nextReply
    match channel with
    | .direct =>
      ({ next with posts := w.posts ++ [⟨channel, url, body, none⟩] }, reply.direct)
    | .http _ =>
      ({ next with posts := w.posts ++ [⟨channel, url, body, some t.config.requestTimeout⟩] },
        reply.overHttp url)
  else (noted, .onClosed)

/-- Runs a task to its end. -/
def runTask (w : World) (task : Task) : World :=
  match w.trackers[task.owner]? with
  | none => w
  | some t =>
    let (w, channel) := w.openChannel task.owner t
    let (w, exchange) := w.post t channel task.url task.body
    let (outcome, records) := exchange.outcome t.debug task.endpoint task.url
    let told := (w.record records).deliver task.callback outcome
    { told with finished := told.finished ++ [(task.number, outcome)] }

/-- Runs up to `fuel` tasks. -/
def drain : (fuel : Nat) → World → World
  | 0, w => w
  | fuel + 1, w =>
    match w.queue with
    | [] => w
    | task :: rest => drain fuel ({ w with queue := rest }.runTask task)

/-- The weight of all tasks that wait, which bounds the number of tasks to run. -/
def workload (w : World) : Nat := Task.totalWeight w.queue

/-- Waits until no task of the current tracker waits. -/
def flush (w : World) : World := if w.pending = 0 then w else w.drain w.workload

/-- Flushes, and closes the session that the current tracker opened for itself. -/
def close (w : World) : World :=
  let flushed := w.flush
  match flushed.current? with
  | none => flushed
  | some t =>
    match t.external, t.session with
    | false, some session =>
      let closed : World := { flushed with
        sessions := flushed.sessions.set session false
        traffic := flushed.traffic ++ [SessionEvent.closes session] }
      closed.setTracker flushed.currentPlace { t with session := none, channel := none }
    | _, _ => flushed

end World

end EventTracker
