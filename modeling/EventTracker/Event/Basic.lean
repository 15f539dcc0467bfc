import EventTracker.Schema.Record

/-!
# Events

An event has a name and properties. Its wire form is what a request to the tracking
endpoint carries.
-/

namespace EventTracker

/-- A tracked event. -/
structure Event where
  name : Text
  properties : Table Value

namespace Event

/-- The fields of an event and how they are checked. -/
def schema : Schema Event Event where
  record := "EventPayload"
  fields := [⟨"event", none⟩, ⟨"properties", none⟩]
  check input :=
    (Checked.apply (.ok Event.mk) (Field.required ⟨"event", none⟩ input checkText)).apply
      (Field.withDefault ⟨"properties", none⟩ input [] checkProperties)
  finish := .ok

/-- The event with a name and properties given as values. -/
def ofValues (name : Value) (properties : Mapping) : Except Report Event :=
  schema.checkFields [(.str "event", name), (.str "properties", .map properties)]

/-- The wire form. -/
def wire (e : Event) : Table Value := [("event", .str e.name), ("properties", e.properties.toValue)]

end Event

end EventTracker
