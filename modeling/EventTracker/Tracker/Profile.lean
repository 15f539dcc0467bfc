import EventTracker.Profile.Mutation
import EventTracker.Tracker.Basic

/-!
# Profile calls

Calls that change the current user's profile. `set`, `setOnce` and `increment` take
either the name of a property and its value, or a mapping; with a mapping, the callback
may stand in the place of the value. Nothing is sent without a distinct id, and what is
wrong with a call is told to its callback.
-/

namespace EventTracker

/-- The number that an amount of money stands for, if there is one: integers and finite doubles
stand for themselves, and what is written like a finite double between blanks for this, be it a
text or a foreign object. All else is written with letters, dashes, quotes or brackets; what is
nested too deeply to be written is a misuse. -/
def amountOf (amount : Value) : Except Misuse (Option Number) :=
  let finite (d : Double) : Option Number := if d.isFinite then some (.float d) else none
  let read (s : String) : Option Number := (Double.read? (trim isBlank s.toList)).bind finite
  match amount with
  | .int n => .ok (some (.int n))
  | .float d => .ok (finite d)
  | .str (.plain s) => .ok (read s)
  | .foreign f => .ok (read f.text)
  | other =>
    match other.shown with
    | .error .tooDeep => .error .tooDeep
    | _ => .ok none

/-- The fault of an instant without a stamp. -/
def stampFault : DateTime.StampError → Fault
  | .outOfRange => .outOfRange
  | .firstDay => .misuse .badValue

namespace World

/-- What a call on a profile comes to: the number of a task, or nothing. -/
abbrev Sent := World × Except Fault (Option Nat)

/-- Tells the callback of a failure; no request is made. -/
def refuse (w : World) (callback : Value) (error : TrackerError) : Sent :=
  (w.deliver callback (.failed error), .ok none)

/-- Goes on with the distinct id, if there is one. -/
def withDistinctId (w : World) (t : Tracker) (method : String) (callback : Value)
    (go : Text → Sent) : Sent :=
  let id := (w.store t).distinctId
  if id = "" then
    (w.record [.failure .people t.debug "people.%s() called before identify"
      [.value (.str method)] false]).refuse callback .noDistinctId
  else go id

/-- Checks a mutation of one operation and schedules its request. -/
def mutate (w : World) (t : Tracker) (method : String) (callback : Value) (operation : Field)
    (operand : Value) : Sent :=
  w.withDistinctId t method callback fun id =>
    match ProfileMutation.schema.checkFields
        [(.str ProfileMutation.tokenField.name, .str t.token),
         (.str ProfileMutation.distinctIdField.name, .str id), (.str operation.name, operand)] with
    | .error report =>
      (w.record [.failure .people t.debug "Invalid people.%s() payload"
        [.value (.str method)] true]).refuse callback (.validation (.invalidMutation method report))
    | .ok mutation =>
      match w.submit t .engage mutation.wire.toValue callback with
      | (w, .error fault) => (w, .error fault)
      | (w, .ok result) =>
        let (w, number) := w.settle callback result
        (w, .ok number)

/-- A mapping of one property; what cannot be a key is a misuse. -/
def singleProperty (prop value : Value) : Except Fault Value :=
  if prop.hashable then .ok (.map [(prop, value)]) else .error (.misuse .wrongType)

/-- Goes on with the properties and the callback that the arguments of `set` or `setOnce` mean;
`value` is nothing where it is not given. -/
def withProperties (w : World) (method : String) (prop : Value) (value : Option Value)
    (callback : Value) (go : (properties callback : Value) → Sent) : Sent :=
  match prop with
  | .map entries =>
    match value with
    | none => go (.map entries) callback
    | some v =>
      if v.callable then go (.map entries) v
      else w.refuse callback (.validation (.needlessValue method))
  | prop =>
    match value with
    | none =>
      match prop.shown with
      | .ok shown => w.refuse callback (.validation (.missingValue method shown))
      | .error kind => (w, .error (.misuse kind))
    | some v =>
      match singleProperty prop v with
      | .ok properties => go properties callback
      | .error fault => (w, .error fault)

/-- Sets properties of the profile. -/
def setProfile (w : World) (t : Tracker) (prop : Value) (value : Option Value) (callback : Value) :
    Sent :=
  w.withProperties "set" prop value callback fun properties callback =>
    w.mutate t "set" callback ProfileMutation.setField properties

/-- Sets the properties of the profile that have no value yet. -/
def setProfileOnce (w : World) (t : Tracker) (prop : Value) (value : Option Value)
    (callback : Value) : Sent :=
  w.withProperties "set_once" prop value callback fun properties callback =>
    w.mutate t "set_once" callback ProfileMutation.setOnceField properties

/-- Removes properties of the profile: one by its name, or all that a sequence names. -/
def unsetProfile (w : World) (t : Tracker) (prop callback : Value) : Sent :=
  let names? : Option (List Value) := match prop with
    | .str name => some [.str name]
    | other => other.items?
  match names? with
  | some names => w.mutate t "unset" callback ProfileMutation.unsetField (.list names)
  | none => (w, .error (.misuse .wrongType))

/-- Adds to numeric properties of the profile; without an amount, one. -/
def incrementProfile (w : World) (t : Tracker) (prop amount callback : Value) : Sent :=
  let callback' := if amount.callable then amount else callback
  match prop with
  | .map entries =>
    match amount with
    | .null | .callback _ =>
      w.mutate t "increment" callback' ProfileMutation.addField (.map entries)
    | _ => w.refuse callback (.validation (.needlessValue "increment"))
  | prop =>
    let by_ : Value := match amount with
      | .null | .callback _ => .int 1
      | v => v
    match singleProperty prop by_ with
    | .ok amounts => w.mutate t "increment" callback' ProfileMutation.addField amounts
    | .error fault => (w, .error fault)

/-- The entries of a transaction: the caller's, the amount, and a point in time as its stamp. -/
def transaction (properties : Value) (amount : Number) : Except Fault Mapping := do
  let entries ← (if properties.truthy then Mapping.ofValue properties else .ok []).mapError .misuse
  let charged := entries.insert (.str "$amount") amount.value
  match charged.text? "$time" with
  | some (.datetime t) =>
    let stamp ← t.utcStamp.mapError stampFault
    .ok (charged.insert (.str "$time") (.str (String.ofList stamp)))
  | _ => .ok charged

/-- Appends a charge to the transactions of the profile. -/
def trackCharge (w : World) (t : Tracker) (amount properties callback : Value) : Sent :=
  let (properties, callback) :=
    if properties.callable then (Value.null, properties) else (properties, callback)
  w.withDistinctId t "track_charge" callback fun _ =>
    match amountOf amount with
    | .error kind => (w, .error (.misuse kind))
    | .ok none =>
      let noted := w.record [.failure .people t.debug
        "Invalid amount passed to people.track_charge: %r" [.value amount] false]
      match amount.shown with
      | .ok shown => noted.refuse callback (.invalidAmount amount shown)
      | .error kind => (noted, .error (.misuse kind))
    | .ok (some number) =>
      match transaction properties number with
      | .error fault => (w, .error fault)
      | .ok entries =>
        w.mutate t "track_charge" callback ProfileMutation.appendField
          (.map [(.str "$transactions", .map entries)])

end World

end EventTracker
