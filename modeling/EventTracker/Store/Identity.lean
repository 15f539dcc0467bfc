import EventTracker.Store.Basic

/-!
# Identity

Who events belong to is kept in the store under three keys. An anonymous device has a
distinct id made of a mark and its device id; an identified user has the id that the
caller gave. Entering the anonymous state always draws a new device id.
-/

namespace EventTracker

/-- The key of the id that events are sent under. -/
def distinctIdKey : String := "distinct_id"

/-- The key of the device id. -/
def deviceIdKey : String := "$device_id"

/-- The key of the identified user. -/
def userIdKey : String := "$user_id"

/-- The mark of the distinct ids of anonymous devices. -/
def deviceMark : String := "$device:"

namespace Store

/-- Overwrites properties by entries that are sure to merge. -/
def registerEntries (s : Store) (entries : List (String × Value)) : Store :=
  ({ s with props := s.props.overlay (entries.map fun (k, v) => (.str k, v)) } : Store).save

/-- Starts over under a new device id. -/
def enterAnonymous (s : Store) : Store :=
  let (id, ids) := s.ids.device
  let drawn : Store := { s with ids }
  (drawn.registerEntries [(distinctIdKey, .str (deviceMark ++ id)), (deviceIdKey, .str id)]).record
    (.note .identity "New anonymous device id %s" [.str id])

/-- The distinct id, or an empty text if none is there. -/
def distinctId (s : Store) : Text :=
  match s.props.text? distinctIdKey with
  | some (.str id) => id
  | _ => ""

/-- Makes sure of a distinct id. -/
def ensureIdentity (s : Store) : Store :=
  if s.distinctId = .plain "" then s.enterAnonymous else s

/-- Whether the distinct id is not that of an anonymous device. -/
def isIdentified (s : Store) : Bool := !s.distinctId.startsWith deviceMark

/-- Identifies a user and gives the distinct id before. An id that is not a text or is empty is
refused. -/
def identify (s : Store) (id : Value) : Store × Except Fault Text :=
  match id with
  | .str text =>
    if text = .plain "" then (s, refusal)
    else
      (s.registerEntries [(distinctIdKey, .str text), (userIdKey, .str text)], .ok s.distinctId)
  | _ => (s, refusal)
where
  refusal : Except Fault Text :=
    match id.shown with
    | .ok shown => .error (.refused (.identity shown))
    | .error kind => .error (.misuse kind)

/-- Forgets everything and starts over. -/
def reset (s : Store) : Store := s.clear.enterAnonymous

end Store

end EventTracker
