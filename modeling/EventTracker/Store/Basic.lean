import EventTracker.Json.Encoding
import EventTracker.Json.Parser
import EventTracker.Store.Surroundings

/-!
# The property store

A `Store` is a bag of properties that is kept under one name in a storage, as ASCII JSON.
The bag in memory is what counts: accesses to the storage that fail are logged and have
no other effect. A call fails only if its argument cannot be merged or cannot be a key.
-/

namespace EventTracker

/-- A named bag of properties. -/
structure Store extends Desk where
  name : Value
  props : Mapping
  debug : Bool

namespace Store

/-- The store with a record added to its log. -/
def record (s : Store) (r : LogRecord) : Store := { s with log := s.log ++ [r] }

/-- The store with another disk. -/
def onDisk (s : Store) (d : Disk) : Store :=
  { s with storage := d.storage, files := d.files, log := d.log }

/-- The store with a swallowed failure in its log. -/
def recordFailure (s : Store) (template : String) : Store :=
  s.record (.failure .persistence s.debug template [.value s.name] true)

/-- The value of a stored text, which may be given as bytes. -/
def readStored (stored : Value) : Option Value :=
  match stored with
  | .str t => (Json.parsePoints t.points).toOption
  | .bytes bs =>
    (Json.textOfBytes? (bs.map UInt8.toNat)).bind fun ps => (Json.parsePoints ps).toOption
  | _ => none

/-- Takes the bag from the storage, if an object is stored there; nothing changes if not. -/
def load (s : Store) : Store :=
  match s.get s.name with
  | .error _ => s.recordFailure "Error loading persistence %s"
  | .ok stored =>
    if !stored.truthy then s
    else
      match readStored stored with
      | none => s.recordFailure "Error loading persistence %s"
      | some (.map entries) => { s with props := entries }
      | some other =>
        s.record (.failure .persistence s.debug
          "Ignoring persisted %s: expected an object, got %s"
          [.value s.name, .value (.str other.typeName)] false)

/-- A new store under a name: the bag that is stored there, or an empty one. -/
def openNew (desk : Desk) (name : Value) (debug : Bool) : Store :=
  load { desk with name, props := [], debug }

/-- The text that a bag is stored as, if it can be written. -/
def storedText? (props : Mapping) : Option String :=
  (Json.encode true (.map props)).toOption

/-- Writes the bag to the storage. -/
def save (s : Store) : Store :=
  match storedText? s.props with
  | none => s.recordFailure "Error saving persistence %s"
  | some text =>
    match s.set s.name (.str text) with
    | (disk, none) => s.onDisk disk
    | (disk, some _) => (s.onDisk disk).recordFailure "Error saving persistence %s"

/-- The value of a property. -/
def property (s : Store) (key : Value) : Except Fault Value :=
  (s.props.lookup key).mapError .misuse |>.map (·.getD .null)

/-- Overwrites properties. What was merged before a failure stays, unsaved. -/
def register (s : Store) (patch : Value) : Store × Except Fault Unit :=
  match s.props.absorb patch with
  | (props, none) => (({ s with props } : Store).save, .ok ())
  | (props, some kind) => ({ s with props }, .error (.misuse kind))

/-- Adds the properties that are not there yet; without any, nothing is written. -/
def registerOnce (s : Store) (patch : Value) : Store × Except Fault Unit :=
  match patch with
  | .map entries =>
    match entries.filter fun entry => !s.props.contains entry.1 with
    | [] => (s, .ok ())
    | fresh => (({ s with props := s.props.overlay fresh } : Store).save, .ok ())
  | _ => (s, .error (.misuse .wrongType))

/-- Removes a property. -/
def unregister (s : Store) (key : Value) : Store × Except Fault Unit :=
  match s.props.discard key with
  | .ok props => (({ s with props } : Store).save, .ok ())
  | .error kind => (s, .error (.misuse kind))

/-- Empties the bag and removes what is stored. -/
def clear (s : Store) : Store :=
  let emptied : Store := { s with props := [] }
  match emptied.remove emptied.name with
  | (disk, none) => emptied.onDisk disk
  | (disk, some _) => (emptied.onDisk disk).recordFailure "Error clearing persistence %s"

end Store

end EventTracker
