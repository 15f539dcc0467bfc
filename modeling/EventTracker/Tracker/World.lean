import EventTracker.Store.SuperProperties
import EventTracker.Store.Composition
import EventTracker.Tracker.Transport

/-!
# Trackers and their world

A `Tracker` holds a configuration, a bag of properties and a connection. The `World` is
all that trackers share: the desk, the queue of requests that wait for the event loop,
the scripted replies, the HTTP sessions and what was done with them, and what has been
posted, delivered and finished. The last tracker is the current one; it alone acts on the storage.
-/

namespace EventTracker

/-- A tracker. Sessions are named by their place in the world's list. -/
structure Tracker where
  token : Text
  config : Config
  name : Value
  props : Mapping
  environment : Option Environment
  channel : Option Channel
  session : Option Nat
  /-- Whether the session was given by the caller. -/
  external : Bool

/-- Whether swallowed failures are reported as errors. -/
def Tracker.debug (t : Tracker) : Bool := t.config.debug.truthy

/-- A request that waits for the event loop. -/
structure Task where
  number : Nat
  /-- The place of the tracker that made the request. -/
  owner : Nat
  endpoint : Endpoint
  url : Text
  body : String
  callback : Value

/-- All that trackers share. -/
structure World extends Desk where
  trackers : List Tracker
  /-- Whether calls are made while an event loop runs. -/
  looping : Bool
  queue : List Task
  /-- How many tasks have been created. -/
  created : Nat
  replies : List Reply
  /-- The HTTP sessions, true for open ones. -/
  sessions : List Bool
  /-- What trackers have done with sessions. -/
  traffic : List SessionEvent := []
  posts : List Post
  deliveries : List (String × Outcome)
  finished : List (Nat × Outcome)

namespace World

/-- The place of the current tracker. -/
def currentPlace (w : World) : Nat := w.trackers.length - 1

/-- The current tracker. -/
def current? (w : World) : Option Tracker := w.trackers.getLast?

/-- The world with records added to its log. -/
def record (w : World) (records : List LogRecord) : World := { w with log := w.log ++ records }

/-- The world with another tracker at a place. -/
def setTracker (w : World) (place : Nat) (t : Tracker) : World :=
  { w with trackers := w.trackers.set place t }

/-- The store of a tracker. -/
def store (w : World) (t : Tracker) : Store :=
  { w.toDesk with name := t.name, props := t.props, debug := t.debug }

/-- The world after the current tracker's store has changed. -/
def withStore (w : World) (t : Tracker) (s : Store) : World :=
  { w with
    toDesk := s.toDesk
    trackers := w.trackers.set w.currentPlace { t with props := s.props } }

/-- The number of tasks of the current tracker that wait. -/
def pending (w : World) : Nat := (w.queue.filter fun task => task.owner == w.currentPlace).length

end World

end EventTracker
