import EventTracker.Proofs.Store.Disks
import EventTracker.Tracker.Basic

/-!
# Opening a tracker

A tracker is opened on the storage that it uses: it loads what is stored there under its
name, makes sure of an identity, and becomes the current tracker.
-/

namespace EventTracker

/-- The disk with the storage that a tracker uses: the one at hand, or the one that its
configuration asks for. -/
def Disk.usedBy (d : Disk) (config : Config) (shared : Bool) : Except Fault Disk :=
  (if shared then .ok d.storage else World.configuredStorage config).map fun storage =>
    { d with storage }

theorem Disk.usedBy_shared (d : Disk) (config : Config) : d.usedBy config true = .ok d := rfl

theorem Disk.usedBy_or (d d' : Disk) (config : Config) (shared : Bool) :
    (∃ fault, d.usedBy config shared = .error fault ∧ d'.usedBy config shared = .error fault) ∨
      ∃ used used', d.usedBy config shared = .ok used ∧ d'.usedBy config shared = .ok used' := by
  unfold usedBy
  cases shared with
  | true => exact Or.inr ⟨_, _, rfl, rfl⟩
  | false =>
    cases World.configuredStorage config with
    | error fault => exact Or.inl ⟨fault, rfl, rfl⟩
    | ok storage => exact Or.inr ⟨_, _, rfl, rfl⟩

/-- What a tracker finds stored under its name. -/
def Disk.foundBy (d : Disk) (token : Text) (config : Config) (shared : Bool) :
    Except Fault Value :=
  (d.usedBy config shared).bind fun used => used.get (World.storageName config token)

namespace World

/-- The world with the session that a connection brings. -/
def connectedBy (w : World) : Connection → World
  | .session => { w with sessions := w.sessions ++ [true] }
  | _ => w

/-- A tracker that is opened in a world with a bag. -/
def newTracker (w : World) (token : Text) (config : Config) (environment : Option Environment)
    (connection : Connection) (props : Mapping) : Tracker where
  token
  config
  name := storageName config token
  props
  environment
  channel := match connection with
    | .direct => some .direct
    | _ => none
  session := match connection with
    | .session => some w.sessions.length
    | _ => none
  external := connection matches .session

/-- The world with a new tracker, on the desk of its store and with the store's bag. -/
def joinedBy (w : World) (token : Text) (config : Config) (environment : Option Environment)
    (connection : Connection) (s : Store) : World :=
  { w.connectedBy connection with
    toDesk := s.toDesk
    trackers := w.trackers ++ [w.newTracker token config environment connection s.props] }

/-- A world in which nothing has happened yet. -/
def fresh (d : Disk) (replies : List Reply) : World where
  toDisk := d
  ids := ⟨.succ, 0, []⟩
  clock := .ticking 0
  trackers := []
  looping := true
  queue := []
  created := 0
  replies
  sessions := []
  posts := []
  deliveries := []
  finished := []

variable {w : World} {token : Text} {config : Config} {environment : Option Environment}
  {connection : Connection} {shared : Bool}

/-- A token is a text that is not empty, or it is none. -/
theorem exists_token_or (token : Value) :
    (∃ text : Text, token = .str text ∧ text ≠ "") ∨
      ∀ text : Text, token = .str text → text = "" := by
  by_cases accepted : ∃ text : Text, token = .str text ∧ text ≠ ""
  · exact .inl accepted
  · exact .inr fun text given =>
      Classical.byContradiction fun nonempty => accepted ⟨text, given, nonempty⟩

theorem openTracker_refused {token : Value}
    (refused : ∀ text : Text, token = .str text → text = "") :
    w.openTracker token config environment connection shared =
      (w.connectedBy connection, .error (.refused (.config .tokenRequired))) := by
  unfold openTracker
  cases token with
  | str text =>
    simp only [if_pos (refused text rfl)]
    cases connection <;> rfl
  | _ => cases connection <;> rfl

theorem openTracker_eq (nonempty : token ≠ "") :
    w.openTracker (.str token) config environment connection shared =
      match w.usedBy config shared with
      | .error fault => (w.connectedBy connection, .error fault)
      | .ok disk =>
        (w.joinedBy token config environment connection
          (Store.openNew { w.toDesk with toDisk := disk } (storageName config token)
            config.debug.truthy).ensureIdentity, .ok ()) := by
  unfold openTracker Disk.usedBy
  simp only [if_neg nonempty]
  cases (if shared = true then Except.ok w.storage else configuredStorage config) with
  | error fault => cases connection <;> rfl
  | ok storage => cases connection <;> rfl

/-- A tracker that is opened joins the world with an identity in what it finds stored. -/
theorem openTracker_of_used (nonempty : token ≠ "") {disk : Disk}
    (used : w.usedBy config shared = .ok disk) :
    w.openTracker (.str token) config environment connection shared =
      (w.joinedBy token config environment connection
        (Store.openNew { w.toDesk with toDisk := disk } (storageName config token)
          config.debug.truthy).ensureIdentity, .ok ()) := by
  rw [openTracker_eq nonempty, used]

/-- Opening fails, and then at most a session has been brought, or a tracker joins the world. -/
theorem openTracker_cases (w : World) (token : Value) (config : Config)
    (environment : Option Environment) (connection : Connection) (shared : Bool) :
    (∃ fault, w.openTracker token config environment connection shared =
      (w.connectedBy connection, .error fault)) ∨
    ∃ (text : Text) (disk : Disk), token = .str text ∧ text ≠ "" ∧
      w.usedBy config shared = .ok disk ∧
      w.openTracker token config environment connection shared =
        (w.joinedBy text config environment connection
          (Store.openNew { w.toDesk with toDisk := disk } (storageName config text)
            config.debug.truthy).ensureIdentity, .ok ()) := by
  rcases exists_token_or token with ⟨text, rfl, nonempty⟩ | refused
  case inr => exact .inl ⟨_, openTracker_refused refused⟩
  case inl =>
    cases used : w.usedBy config shared with
    | error fault => exact .inl ⟨fault, by rw [openTracker_eq nonempty, used]⟩
    | ok disk => exact .inr ⟨text, disk, rfl, nonempty, rfl, openTracker_of_used nonempty used⟩

theorem exists_of_openTracker_eq_ok {w' : World} {token : Value}
    (opened : w.openTracker token config environment connection shared = (w', .ok ())) :
    ∃ (text : Text) (disk : Disk), token = .str text ∧ text ≠ "" ∧
      w.usedBy config shared = .ok disk ∧
      w' = w.joinedBy text config environment connection
        (Store.openNew { w.toDesk with toDisk := disk } (storageName config text)
          config.debug.truthy).ensureIdentity := by
  obtain ⟨fault, failed⟩ | ⟨text, disk, named, nonempty, used, joined⟩ :=
    w.openTracker_cases token config environment connection shared
  · cases opened.symm.trans failed
  · rw [joined] at opened
    exact ⟨text, disk, named, nonempty, used, (Prod.mk.inj opened).1.symm⟩

end World

theorem Store.exists_openNew_onDisk (desk : Desk) {d : Disk} {name : Value}
    (holds : d.get name = desk.get name) (debug : Bool) :
    ∃ d', Store.openNew { desk with toDisk := d } name debug =
      (Store.openNew desk name debug).onDisk d' :=
  Store.exists_load_onDisk { desk with name, props := [], debug } d holds

end EventTracker
