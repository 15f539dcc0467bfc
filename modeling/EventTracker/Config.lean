import EventTracker.Double.Reading
import EventTracker.Error
import EventTracker.Schema.Container
import EventTracker.Value.Key

/-!
# Configuration

A configuration holds five settings. Only two are looked into: the host is a text without
a slash at its end, and the timeout is null or a number that is not zero or less. Building
and updating either succeed as a whole or change nothing: `Config.Change.call` copies the
settings of a configuration that was checked into the one at hand.
-/

namespace EventTracker

/-- The names of the settings. -/
inductive Setting where
  | apiHost
  | debug
  | persistenceName
  | storagePath
  | requestTimeout
  deriving DecidableEq

namespace Setting

def name : Setting → String
  | .apiHost => "api_host"
  | .debug => "debug"
  | .persistenceName => "persistence_name"
  | .storagePath => "storage_path"
  | .requestTimeout => "request_timeout"

def all : List Setting := [.apiHost, .debug, .persistenceName, .storagePath, .requestTimeout]

def ofName? (name : Text) : Option Setting := all.find? fun s => .plain s.name == name

end Setting

/-- The settings of a tracker. -/
structure Config where
  apiHost : Text
  debug : Value
  persistenceName : Value
  storagePath : Value
  requestTimeout : Value

namespace Config

/-- The settings that hold where nothing else is said. -/
def standard : Config where
  apiHost := "https://api.mixpanel.com"
  debug := .bool false
  persistenceName := .null
  storagePath := .null
  requestTimeout := .null

/-- The value of a setting. -/
def get (c : Config) : Setting → Value
  | .apiHost => .str c.apiHost
  | .debug => c.debug
  | .persistenceName => c.persistenceName
  | .storagePath => c.storagePath
  | .requestTimeout => c.requestTimeout

/-- All settings under their names. -/
def settings (c : Config) : Table Value := Setting.all.map fun s => (s.name, c.get s)

/-- A host without the slashes at its end. -/
def trimHost (host : Text) : Text :=
  .ofPoints (host.points.reverse.dropWhile (· == .char '/')).reverse

/-- Whether a timeout is a number of zero or less; `none` for what is no number. -/
def isExpired? : Value → Option Bool
  | .bool b => some (!b)
  | .int n => some (n ≤ 0)
  | .float d => some d.nonpositive
  | _ => none

/-- Refuses a timeout that is neither null nor a number above zero. -/
def checkTimeout (timeout : Value) : Except Fault Unit :=
  match timeout with
  | .null => .ok ()
  | timeout =>
    match isExpired? timeout with
    | none => .error (.misuse .wrongType)
    | some false => .ok ()
    | some true =>
      match timeout.shown with
      | .ok shown => .error (.refused (.config (.timeoutNotPositive shown)))
      | .error kind => .error (.misuse kind)

/-- The names in a patch that are no settings'. -/
def unknownNames (patch : Table Value) : List Text :=
  (patch.map Prod.fst).filter fun name => (Setting.ofName? name).isNone

/-- A configuration with the settings of a patch in the place of its own. The host is looked into
before the timeout. -/
def patched (c : Config) (patch : Table Value) : Except Fault Config :=
  let setting (s : Setting) : Value := (patch.get? s.name).getD (c.get s)
  match setting .apiHost with
  | .str host => do
    checkTimeout (setting .requestTimeout)
    .ok {
      apiHost := trimHost host
      debug := setting .debug
      persistenceName := setting .persistenceName
      storagePath := setting .storagePath
      requestTimeout := setting .requestTimeout }
  | _ => .error (.misuse .wrongType)

/-- The configuration of some settings, the others being standard. -/
def build (settings : Table Value) : Except Fault Config :=
  if unknownNames settings = [] then standard.patched settings
  else .error (.misuse .wrongType)

/-- The name that stands for the configuration itself. -/
def ownName : String := "self"

/-- The name that stands for all configurations. -/
def kindName : String := "cls"

/-- Changes some settings. A patch may not name the configuration itself. -/
def update (c : Config) (patch : Table Value) : Except Fault Config :=
  if (patch.get? ownName).isSome then .error (.misuse .wrongType)
  else
    match unknownNames patch with
    | [] => c.patched patch
    | names =>
      .error (.refused (.config (.unknownKeys (names.mergeSort Text.le))))

/-- The value of the setting that a value names. -/
def lookup (c : Config) (key : Value) : Except Fault Value :=
  let unknown : Except Fault Value :=
    match key.shown with
    | .ok shown => .error (.refused (.config (.unknownKey shown)))
    | .error kind => .error (.misuse kind)
  match key with
  | .str name => (Setting.ofName? name).elim unknown fun s => .ok (c.get s)
  | key => if key.hashable then unknown else .error (.misuse .wrongType)

/-- Changes the settings in a mapping, if one is given, and in `more`, which takes precedence. -/
def reconfigure (c : Config) (patch : Value) (more : Table Value) : Except Fault Config :=
  let entries? : Option Mapping :=
    if !patch.truthy then some []
    else match patch with
      | .map entries => some entries
      | _ => none
  let named? (entries : Mapping) : Option (Table Value) :=
    entries.mapM fun (key, v) => match key with
      | .str name => some (name, v)
      | _ => none
  match entries?.bind named? with
  | some table => c.update (table.overlay more)
  | none => .error (.misuse .wrongType)

/-- A call that changes a configuration. -/
inductive Change where
  | update (patch : Table Value)
  /-- Changes by a mapping, and by name. -/
  | reconfigure (patch : Value) (more : Table Value)

/-- The configuration that a call comes to, or why it fails. -/
def Change.result (c : Config) : Change → Except Fault Config
  | .update patch => c.update patch
  | .reconfigure patch more => c.reconfigure patch more

/-- Copies a setting of another configuration. -/
def copy (source c : Config) : Setting → Config
  | .apiHost => { c with apiHost := source.apiHost }
  | .debug => { c with debug := source.debug }
  | .persistenceName => { c with persistenceName := source.persistenceName }
  | .storagePath => { c with storagePath := source.storagePath }
  | .requestTimeout => { c with requestTimeout := source.requestTimeout }

/-- What a call does to a configuration in place: the new configuration is made on the side, then
its settings are copied one after another. -/
def Change.call (change : Change) : EStateM Fault Config Unit := do
  let c ← EStateM.get
  match change.result c with
  | .ok updated => Setting.all.forM fun s => modify fun c => copy updated c s
  | .error fault => throw fault

/-- The flag that a word between blanks stands for, in any case. -/
def flagOfWord? (text : String) : Option Bool :=
  let word := String.ofList ((trim isBlank text.toList).map Char.toLower)
  if word ∈ ["1", "true", "yes", "y", "on"] then some true
  else if word ∈ ["0", "false", "no", "n", "off"] then some false
  else none

/-- The configuration of the system's environment variables, with settings that take precedence,
none of which may name configurations as such. A variable is not read where its setting is given,
but for those that hold texts. -/
def ofVariables (surroundings : Table String) (settings : Table Value) : Except Fault Config :=
  if (settings.get? kindName).isSome then .error (.misuse .wrongType)
  else
    let texts : Table Value := [("MINIPANEL_API_HOST", Setting.apiHost),
        ("MINIPANEL_PERSISTENCE_NAME", .persistenceName), ("MINIPANEL_STORAGE_PATH", .storagePath)]
      |>.filterMap fun (name, s) =>
        (surroundings.get? (.plain name)).map fun text => (.plain s.name, .str (.plain text))
    let debug := ((surroundings.get? "MINIPANEL_DEBUG").bind flagOfWord?).getD false
    let given (s : Setting) : Bool := (settings.get? s.name).isSome
    let start : Table Value :=
      texts ++ if given .debug then [] else [(.plain Setting.debug.name, .bool debug)]
    match surroundings.get? "MINIPANEL_REQUEST_TIMEOUT" with
    | none => build (start.overlay settings)
    | some text =>
      if given .requestTimeout then build (start.overlay settings)
      else
        match Double.read? text.toList with
        | some d =>
          let timed : Table Value := start ++ [(.plain Setting.requestTimeout.name, .float d)]
          build (timed.overlay settings)
        | none => .error (.refused (.config (.timeoutNotNumber (quotedText text))))

end Config

end EventTracker
