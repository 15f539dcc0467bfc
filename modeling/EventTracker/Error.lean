import EventTracker.Json.Printer
import EventTracker.Schema.Flaw
import EventTracker.Storage.FileTree
import EventTracker.Wire.Truncation

/-!
# Errors of the tracker

A `TrackerError` is one of seven kinds and says what caused it; `TrackerError.message` is
its text. A `Fault` is anything that a call may fail with: a tracker error, the report of
a check, or the misuse of a value.
-/

namespace EventTracker

/-- The kinds of tracker errors. -/
inductive ErrorKind where
  | config
  | identity
  | noDistinctId
  | validation
  | invalidAmount
  | storage
  | transport
  deriving DecidableEq

namespace ErrorKind

def name : ErrorKind → String
  | .config => "MinipanelConfigError"
  | .identity => "MinipanelIdentityError"
  | .noDistinctId => "MinipanelNoDistinctIdError"
  | .validation => "MinipanelValidationError"
  | .invalidAmount => "MinipanelInvalidAmountError"
  | .storage => "MinipanelStorageError"
  | .transport => "MinipanelTransportError"

end ErrorKind

/-- What is wrong with a configuration. Settings are given as they are shown. -/
inductive ConfigProblem where
  | tokenRequired
  | timeoutNotPositive (shown : String)
  | timeoutNotNumber (shown : String)
  | unknownKey (shown : String)
  | unknownKeys (keys : List Text)
  deriving DecidableEq

def ConfigProblem.message : ConfigProblem → Text
  | .tokenRequired => "Project token required"
  | .timeoutNotPositive shown => s!"request_timeout must be positive, got {shown}"
  | .timeoutNotNumber shown => s!"MINIPANEL_REQUEST_TIMEOUT is not a number: {shown}"
  | .unknownKey shown => s!"Unknown config key: {shown}"
  | .unknownKeys keys => .plain "Unknown config key(s): " ++ Text.intercalate ", " keys

/-- What is wrong with what a caller wants to send. -/
inductive ValidationProblem where
  | invalidEvent (report : Report)
  | invalidMutation (method : String) (report : Report)
  | unencodable (cause : Json.EncodeError)
  /-- A method got a mapping and a value besides. -/
  | needlessValue (method : String)
  /-- A method got the name of a property, shown here, and no value. -/
  | missingValue (method shown : String)
  deriving DecidableEq

def ValidationProblem.message : ValidationProblem → String
  | .invalidEvent report => s!"Invalid event: {report.text}"
  | .invalidMutation method report => s!"people.{method}(): {report.text}"
  | .unencodable cause => s!"Cannot encode payload: {cause.message}"
  | .needlessValue method => s!"people.{method}(mapping) takes no value argument"
  | .missingValue method shown => s!"people.{method}({shown}) requires a value"

/-- What is done with a storage. -/
inductive StorageAccess where
  | get
  | set
  | remove
  deriving DecidableEq

def StorageAccess.verb : StorageAccess → String
  | .get => "read"
  | .set => "write"
  | .remove => "remove"

/-- Why an access to a storage fails. -/
inductive StorageProblem where
  | file (access : StorageAccess) (path : Path) (cause : FileError)
  /-- The storage is set to fail. -/
  | switchedOff (access : StorageAccess)
  deriving DecidableEq

def StorageProblem.message : StorageProblem → String
  | .file access path cause => s!"Cannot {access.verb} {path.text}: {cause.text}"
  | .switchedOff access => s!"{access.verb} failed"

/-- The length to which response texts are cut in messages. -/
def maxQuotedResponse : Int := 200

/-- Why a request fails. -/
inductive TransportProblem where
  | httpStatus (status : Int) (url : Text) (response : String)
  | requestFailed (url : Text) (detail : String)
  | timedOut (url : Text)
  /-- The server's response does not say that the request was accepted. -/
  | notAccepted (response : String)
  | noEventLoop
  /-- What a transport of the caller's says. -/
  | stated (message : String)
  deriving DecidableEq

def TransportProblem.message : TransportProblem → Text
  | .httpStatus status url response =>
    .plain s!"HTTP {status} from " ++ url ++ .plain s!": {cutString maxQuotedResponse response}"
  | .requestFailed url detail => .plain "Request to " ++ url ++ .plain s!" failed: {detail}"
  | .timedOut url => .plain "Request to " ++ url ++ .plain " timed out"
  | .notAccepted response => s!"Minipanel server error: {cutString maxQuotedResponse response}"
  | .noEventLoop => "No running event loop"
  | .stated message => message

/-- An error of the tracker. -/
inductive TrackerError where
  | config (problem : ConfigProblem)
  /-- A user is identified by what is not a text or is empty, shown here. -/
  | identity (shown : String)
  | noDistinctId
  | validation (problem : ValidationProblem)
  | invalidAmount (amount : Value) (shown : String)
  | storage (problem : StorageProblem)
  | transport (problem : TransportProblem) (status : Option Int) (endpoint : String)

namespace TrackerError

def kind : TrackerError → ErrorKind
  | .config _ => .config
  | .identity _ => .identity
  | .noDistinctId => .noDistinctId
  | .validation _ => .validation
  | .invalidAmount _ _ => .invalidAmount
  | .storage _ => .storage
  | .transport _ _ _ => .transport

def message : TrackerError → Text
  | .config problem => problem.message
  | .identity shown => s!"identify() requires a non-empty string id, got {shown}"
  | .noDistinctId => "No distinct_id"
  | .validation problem => problem.message
  | .invalidAmount _ shown => s!"Invalid amount: {shown}"
  | .storage problem => problem.message
  | .transport problem _ _ => problem.message

end TrackerError

/-- What a call may fail with. -/
inductive Fault where
  | misuse (kind : Misuse)
  | refused (error : TrackerError)
  | invalid (report : Report)
  /-- A number exceeds the range of doubles, or an instant that of the calendar. -/
  | outOfRange
  /-- A stored file is not well-formed text. -/
  | badText

end EventTracker
