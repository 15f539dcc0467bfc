import EventTracker.Error

/-!
# Log records

A record names its source and level, a template with the arguments that fill it, and
whether an error was being handled. Swallowed failures are reported by `LogRecord.failure`:
as errors in debug mode, else as debug messages.
-/

namespace EventTracker

/-- The parts of the tracker that write to the log. -/
inductive LogSource where
  | client
  | people
  | persistence
  | storage
  | identity
  | superProperties
  | transport
  deriving DecidableEq

def LogSource.name : LogSource → String
  | .client => "client"
  | .people => "people"
  | .persistence => "persistence"
  | .storage => "storage"
  | .identity => "identity"
  | .superProperties => "superprops"
  | .transport => "_transport"

inductive LogLevel where
  | debug
  | warning
  | error
  deriving DecidableEq

def LogLevel.name : LogLevel → String
  | .debug => "DEBUG"
  | .warning => "WARNING"
  | .error => "ERROR"

/-- What fills a place of a template. -/
inductive LogArgument where
  | value (v : Value)
  | error (e : TrackerError)

/-- A record of the log. -/
structure LogRecord where
  source : LogSource
  level : LogLevel
  template : String
  arguments : List LogArgument
  /-- Whether an error was being handled. -/
  handling : Bool

namespace LogRecord

/-- A debug message. -/
def note (source : LogSource) (template : String) (arguments : List Value) : LogRecord :=
  ⟨source, .debug, template, arguments.map .value, false⟩

/-- A warning. -/
def warning (source : LogSource) (template : String) (arguments : List Value) : LogRecord :=
  ⟨source, .warning, template, arguments.map .value, false⟩

/-- A swallowed failure: an error in debug mode, else a debug message. -/
def failure (source : LogSource) (debug : Bool) (template : String) (arguments : List LogArgument)
    (handling : Bool) : LogRecord :=
  ⟨source, if debug then .error else .debug, template, arguments, handling⟩

end LogRecord

end EventTracker
