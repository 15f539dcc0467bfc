import EventTracker.Tracker.EventLoop

/-!
# The tracker's calls

Opening a tracker, tracking events, identifying users, super-properties and
configuration. Calls that send requests give the number of the task that carries the
request, or nothing if there is none; then the callback has been told why.
-/

namespace EventTracker

/-- What a tracker is given to post with. -/
inductive Connection where
  /-- A transport of the caller's. -/
  | direct
  /-- An HTTP session of the caller's. -/
  | session
  /-- Nothing; the tracker opens a session when it needs one. -/
  | own
  deriving DecidableEq

namespace World

/-- The storage that a configuration asks for: a folder if a path is set, else memory. Paths with
surrogates are left out: here they are refused. -/
def configuredStorage (config : Config) : Except Fault Storage :=
  if config.storagePath.truthy then
    match config.storagePath with
    | .str (.plain path) => .ok (.folder (Path.ofText path))
    | _ => .error (.misuse .wrongType)
  else .ok (.memory [] [] 0)

/-- The name that a tracker's bag is stored under. -/
def storageName (config : Config) (token : Text) : Value :=
  if config.persistenceName.truthy then config.persistenceName
  else .str (.plain "mon_" ++ token)

/-- Opens a tracker, which becomes the current one. With `shared` it uses the storage at hand, else
the one that its configuration asks for. -/
def openTracker (w : World) (token : Value) (config : Config) (environment : Option Environment)
    (connection : Connection) (shared : Bool) : World × Except Fault Unit :=
  let opened : World := match connection with
    | .session => { w with sessions := w.sessions ++ [true] }
    | _ => w
  let session : Option Nat := match connection with
    | .session => some w.sessions.length
    | _ => none
  match token with
  | .str text =>
    if text = .plain "" then (opened, .error (.refused (.config .tokenRequired)))
    else
      match if shared then .ok w.storage else configuredStorage config with
      | .error fault => (opened, .error fault)
      | .ok storage =>
        let name := storageName config text
        let desk : Desk := { opened.toDesk with storage }
        let s := (Store.openNew desk name config.debug.truthy).ensureIdentity
        let t : Tracker :=
          { token := text, config, name, props := s.props, environment, session
            channel := match connection with
              | .direct => some .direct
              | _ => none
            external := session.isSome }
        ({ opened with toDesk := s.toDesk, trackers := w.trackers ++ [t] }, .ok ())
  | _ => (opened, .error (.refused (.config .tokenRequired)))

/-- Tracks an event. A callback in the place of the properties is taken as the callback. -/
def track (w : World) (t : Tracker) (event properties callback : Value) :
    World × Except Fault (Option Nat) :=
  let (properties, callback) :=
    if properties.callable then (Value.null, properties) else (properties, callback)
  match w.attemptTrack t event properties callback with
  | (w, .error fault) => (w, .error fault)
  | (w, .ok result) =>
    let (w, number) := w.settle callback result
    (w, .ok number)

/-- The event that links a user to the distinct id before. -/
def identifyProperties (previous : Text) (id : Value) : Value :=
  .map [(.str "$anon_distinct_id", .str previous), (.str "distinct_id", id)]

/-- Identifies a user and tracks that. -/
def identify (w : World) (t : Tracker) (id callback : Value) : World × Except Fault (Option Nat) :=
  match (w.store t).identify id with
  | (s, .error fault) => (w.withStore t s, .error fault)
  | (s, .ok previous) =>
    (w.withStore t s).track { t with props := s.props } (.str "$identify")
      (identifyProperties previous id) callback

/-- Makes a call on the current tracker's store. -/
def onStore {α : Type} (w : World) (t : Tracker) (call : Store → Store × α) : World × α :=
  let (s, result) := call (w.store t)
  (w.withStore t s, result)

/-- Changes the current tracker's configuration. -/
def reconfigure (w : World) (t : Tracker) (patch : Value) (more : Table Value) :
    World × Except Fault Unit :=
  match (Config.Change.reconfigure patch more).call t.config with
  | .ok _ config => (w.setTracker w.currentPlace { t with config }, .ok ())
  | .error fault config => (w.setTracker w.currentPlace { t with config }, .error fault)

end World

end EventTracker
