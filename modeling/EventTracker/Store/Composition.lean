import EventTracker.Environment.Basic
import EventTracker.Event.Basic
import EventTracker.Store.Identity

/-!
# Composition of events

An event's properties are merged in four layers, of which later ones win: what the host
environment gives, the store's bag, what the caller gives, and last the token, the
distinct id, the time and the insert id.
-/

namespace EventTracker.Store

/-- The layer that no other layer overrides. -/
def lastLayer (token distinctId : Text) (time : Double) (insertId : String) : Mapping :=
  [(.str "token", .str token), (.str "distinct_id", .str distinctId),
   (.str "time", .float time), (.str "$insert_id", .str insertId)]

/-- The layers below the caller's: those of the environment and of the bag. -/
def baseLayers (s : Store) (environment : Option Environment) : Mapping :=
  let given : Mapping := (Environment.defaultProperties environment).map fun (k, v) => (.str k, v)
  given.overlay s.props

/-- Composes an event for a distinct id. The clock is read before an id is drawn, and both happen
even if the event then turns out to be invalid. Caller's properties that count as false are left
out. -/
def composeFor (s : Store) (distinctId token : Text) (environment : Option Environment)
    (event properties : Value) : Store × Except Fault Event :=
  let base := s.baseLayers environment
  match if properties.truthy then base.absorb properties else (base, none) with
  | (_, some kind) => (s, .error (.misuse kind))
  | (merged, none) =>
    match s.clock.read with
    | (.error fault, clock) => ({ s with clock }, .error fault)
    | (.ok time, clock) =>
      let (insertId, ids) := s.ids.insert
      let merged := merged.overlay (lastLayer token distinctId time insertId)
      ({ s with clock, ids }, (Event.ofValues event merged).mapError .invalid)

/-- Composes an event for the store's own distinct id. -/
def compose (s : Store) (token : Text) (environment : Option Environment)
    (event properties : Value) : Store × Except Fault Event :=
  s.composeFor s.distinctId token environment event properties

end EventTracker.Store
