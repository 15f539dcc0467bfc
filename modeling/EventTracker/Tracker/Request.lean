import EventTracker.Tracker.World

/-!
# Requests

A request is truncated, encoded and then scheduled with its URL and body; a payload that
is nested too deeply to be cut is a misuse. Events are composed and scheduled by
`World.attemptTrack`. When a request is settled, `World.deliver` hands the outcome to its
callback, which may track another event; no failure of a callback goes further than the
log.
-/

namespace EventTracker.World

/-- Schedules a request of the current tracker. -/
def submit (w : World) (t : Tracker) (endpoint : Endpoint) (payload callback : Value) :
    World × Except Fault (Except TrackerError Nat) :=
  let place : Value := .str endpoint.path
  match truncated maxTextLength payload with
  | .error kind => (w, .error (.misuse kind))
  | .ok payload =>
    match encodeBody payload with
    | .error cause =>
      (w.record [.failure .client t.debug "Cannot encode payload for %s" [.value place] true],
        .ok (.error (.validation (.unencodable cause))))
    | .ok body =>
      let noted := w.record
        [.note .client "Minipanel request %s %s" [place, redact maxLoggedLength payload]]
      if w.looping then
        let task : Task :=
          { number := w.created, owner := w.currentPlace, endpoint, body, callback
            url := t.config.apiHost ++ endpoint.path ++ "/" }
        ({ noted with queue := w.queue ++ [task], created := w.created + 1 }, .ok (.ok task.number))
      else
        (noted.record [.failure .client t.debug "No running event loop, dropping request to %s"
            [.value place] true],
          .ok (.error (.transport .noEventLoop none endpoint.path)))

/-- Composes an event of the current tracker and schedules its request. -/
def attemptTrack (w : World) (t : Tracker) (event properties callback : Value) :
    World × Except Fault (Except TrackerError Nat) :=
  match (w.store t).compose t.token t.environment event properties with
  | (s, .ok composed) =>
    (w.withStore t s).submit t .track composed.wire.toValue callback
  | (s, .error (.invalid report)) =>
    ((w.withStore t s).record
      [.failure .client t.debug "Invalid event %r" [.value event] true],
      .ok (.error (.validation (.invalidEvent report))))
  | (s, .error fault) => (w.withStore t s, .error fault)

/-- Tracks an event without properties whose outcome nobody is told. -/
def trackUnheard (w : World) (event : String) : World × Except Fault Unit :=
  match w.current? with
  | none => (w, .ok ())
  | some t =>
    let (w, result) := w.attemptTrack t (.str event) .null .null
    (w, result.map fun _ => ())

/-- Hands an outcome to a callback. What is neither null nor a callback fails when it is called. -/
def deliver (w : World) (callback : Value) (outcome : Outcome) : World :=
  let failed : LogRecord := ⟨.client, .debug, "Request callback failed", [], true⟩
  match callback with
  | .null => w
  | .callback c =>
    let told := { w with deliveries := w.deliveries ++ [(c.label, outcome)] }
    match c.reaction with
    | .settle => told
    | .fail => told.record [failed]
    | .track event =>
      match told.trackUnheard event with
      | (w, .ok ()) => w
      | (w, .error _) => w.record [failed]
  | _ => w.record [failed]

/-- Delivers the failure of a call that made no request; otherwise gives the number of its task. -/
def settle (w : World) (callback : Value) (result : Except TrackerError Nat) :
    World × Option Nat :=
  match result with
  | .ok number => (w, some number)
  | .error error => (w.deliver callback (.failed error), none)

end EventTracker.World
