import EventTracker.Config
import EventTracker.Log
import EventTracker.Wire.Body

/-!
# Transports and outcomes

How a server or the network replies to a posted body, what a transport makes of the
reply, and the outcome that the caller is told. A request is accepted only if the text of
the reply says so; every other course of events is a transport error that names the
endpoint of the request.
-/

namespace EventTracker

/-- The two places that requests go to. -/
inductive Endpoint where
  | track
  | engage
  deriving DecidableEq

def Endpoint.path : Endpoint → String
  | .track => "/track"
  | .engage => "/engage"

/-- What a caller is told of a request. -/
inductive Outcome where
  | accepted
  | failed (error : TrackerError)

/-- The errors that a transport may raise besides transport errors. -/
inductive RaisedKind where
  /-- An error of the HTTP client. -/
  | connection
  | timeout
  /-- Any other error, by the name of its type. -/
  | other (name : String)
  deriving DecidableEq

/-- What happens to a posted body. An error that is raised counts by its kind and its text. -/
inductive Reply where
  /-- The server answers with a status and a text. -/
  | text (status : Int) (response : String)
  /-- The server answers with a status, and an error is raised while the text is read. -/
  | unread (status : Int) (kind : RaisedKind) (message : String)
  /-- A transport error is raised. -/
  | refused (message : String) (status : Option Int) (endpoint : String)
  | raised (kind : RaisedKind) (message : String)

/-- What a transport makes of a reply. -/
inductive Exchange where
  | text (response : String)
  | refused (problem : TransportProblem) (status : Option Int) (endpoint : String)
  | raised (kind : RaisedKind) (message : String)

/-- The reply as the caller's own transport passes it on. -/
def Reply.direct : Reply → Exchange
  | .text _ response => .text response
  | .refused message status endpoint => .refused (.stated message) status endpoint
  | .unread _ kind message | .raised kind message => .raised kind message

/-- An error as the HTTP transport passes it on: errors of the HTTP client and timeouts become
transport errors. -/
def RaisedKind.overHttp (url : Text) (message : String) : RaisedKind → Exchange
  | .connection => .refused (.requestFailed url message) none ""
  | .timeout => .refused (.timedOut url) none ""
  | kind => .raised kind message

/-- The reply as the HTTP transport passes it on: a status other than 200 becomes a transport error.
The status counts once the text was read. -/
def Reply.overHttp (url : Text) : Reply → Exchange
  | .text status response =>
    if status = 200 then .text response
    else .refused (.httpStatus status url response) (some status) ""
  | .refused message status endpoint => .refused (.stated message) status endpoint
  | .unread _ kind message | .raised kind message => kind.overHttp url message

/-- What a tracker posts with. -/
inductive Channel where
  /-- The caller's own transport. -/
  | direct
  /-- The HTTP transport on a session. -/
  | http (session : Nat)
  deriving DecidableEq

/-- A posted body. Over HTTP the headers and the time allowed belong to it. -/
structure Post where
  channel : Channel
  url : Text
  body : String
  timeout : Option Value

/-- What trackers do with HTTP sessions. -/
inductive SessionEvent where
  /-- A tracker opens a session for itself. -/
  | opens (session : Nat)
  /-- A tracker posts, whether the session is open or not. -/
  | posts (channel : Channel)
  | closes (session : Nat)
  deriving DecidableEq

/-- What comes of a post on a session that is closed. -/
def Exchange.onClosed : Exchange := .raised (.other "RuntimeError") "Session is closed"

/-- The record of a post over HTTP in the log. -/
def postRecord (url : Text) : LogRecord := .note .transport "POST %s" [.str url]

/-- The outcome of a request to an endpoint, and the record of its failure. -/
def Exchange.outcome (exchange : Exchange) (debug : Bool) (endpoint : Endpoint) (url : Text) :
    Outcome × List LogRecord :=
  let requestError : LogRecord :=
    .failure .client debug "Minipanel request error for %s" [.value (.str endpoint.path)] true
  match exchange with
  | .text response =>
    if isAccepted response then (.accepted, [])
    else
      let error : TrackerError := .transport (.notAccepted response) none endpoint.path
      (.failed error, [.failure .client debug "%s" [.error error] false])
  | .refused problem status at_ =>
    let place := if at_ = "" then endpoint.path else at_
    (.failed (.transport problem status place), [requestError])
  | .raised _ message =>
    (.failed (.transport (.requestFailed url message) none endpoint.path), [requestError])

end EventTracker
