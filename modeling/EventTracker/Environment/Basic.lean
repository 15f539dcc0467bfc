import EventTracker.Environment.UserAgent
import EventTracker.Schema.Record

/-!
# The host environment

What is known of the host that events come from, and the event properties that follow
from it. A missing source only leaves out the properties made of it. The texts of an
environment are taken without surrogates only.
-/

namespace EventTracker

/-- What is known of the host. -/
structure Environment where
  userAgent : Option String
  vendor : String
  opera : Bool
  currentUrl : Option String
  referrer : Option String
  screenWidth : Option Nat
  screenHeight : Option Nat
  deriving DecidableEq

namespace Environment

/-- The fields of an environment and how they are checked; every one may be missing. -/
def schema : Schema Environment Environment where
  record := "Environment"
  fields := [⟨"user_agent", none⟩, ⟨"vendor", none⟩, ⟨"opera", none⟩, ⟨"current_url", none⟩,
    ⟨"referrer", none⟩, ⟨"screen_width", none⟩, ⟨"screen_height", none⟩]
  check input :=
    let text (name : String) : Checked (Option String) :=
      Field.withDefault ⟨name, none⟩ input none (checkOptional checkPlainText)
    let size (name : String) : Checked (Option Nat) :=
      Field.withDefault ⟨name, none⟩ input none (checkOptional checkCount)
    (((((((Checked.apply (.ok Environment.mk) (text "user_agent")).apply
      (Field.withDefault ⟨"vendor", none⟩ input "" checkPlainText)).apply
      (Field.withDefault ⟨"opera", none⟩ input false checkFlag)).apply
      (text "current_url")).apply
      (text "referrer")).apply
      (size "screen_width")).apply
      (size "screen_height"))
  finish := .ok

/-- The name and version that events carry of this library. -/
def libraryProperties : Table Value :=
  [("mp_lib", .str "minipanel"), ("$lib_version", .str "1.0.0")]

/-- The properties that a user agent gives. -/
def agentProperties (e : Environment) (userAgent : String) : Table Value :=
  let browser := Browser.detect userAgent e.vendor e.opera
  let version := browser.bind fun b => b.version? userAgent
  [("$os", .str (operatingSystem userAgent)),
   ("$browser", .str ((browser.map Browser.name).getD "")),
   ("$browser_version", (version.map Value.float).getD .null),
   ("$device", .str (deviceName userAgent))]

/-- The properties that an environment gives. -/
def properties (e : Environment) : Table Value :=
  (e.userAgent.map e.agentProperties).getD [] ++
    (e.currentUrl.map fun (url : String) => [(.plain "$current_url", .str url)]).getD [] ++
    (e.referrer.map fun (r : String) =>
      [(.plain "$referrer", .str r), (.plain "$referring_domain", .str (referringDomain r))]).getD
        [] ++
    (e.screenHeight.map fun n => [(.plain "$screen_height", .int n)]).getD [] ++
    (e.screenWidth.map fun n => [(.plain "$screen_width", .int n)]).getD []

/-- The properties that every event has, whatever is known of the host. -/
def defaultProperties (e : Option Environment) : Table Value :=
  (e.map properties).getD [] ++ libraryProperties

end Environment

end EventTracker
