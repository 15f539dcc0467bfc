import EventTracker.Proofs.Store.Texts
import EventTracker.Proofs.Tracker.Serving
import EventTracker.Proofs.Wire.Truncation

/-!
# Requests are snapshots

A request is made of the tracker as it stands at the call: its URL of the configuration,
its body of the distinct id and of the bag. Texts in a body are cut, and the other values
are in their normal form.
-/

namespace EventTracker

/-! ## What a request tells -/

/-- The first 255 code points of a text. -/
def firstCharacters (t : Text) : Text := .ofPoints (t.points.take 255)

/-- What a text is sent as, if it can be sent. -/
theorem normal_truncate_str {t : Text} (proper : (truncate maxTextLength (.str t)).isProper = true) :
    (truncate maxTextLength (.str t)).normal = .str (firstCharacters t) := by
  have same : cutText maxTextLength t = firstCharacters t := by
    apply Text.points_injective
    rw [firstCharacters, Text.points_ofPoints]
    exact points_cutText 255 t
  rw [truncate, Value.isProper] at proper
  rw [truncate, Value.normal, Text.joined_of_isProper proper, same]

/-- What the payload of a request tells of the user, the bag and the caller's properties. -/
def Endpoint.Tells (user : Text) (bag : Mapping) (given : Value) (payload : Mapping) :
    Endpoint → Prop
  | .engage => payload.text? "$distinct_id" = some (.str (firstCharacters user))
  | .track =>
    ∃ properties : Mapping, payload.text? "properties" = some (.map properties) ∧
      properties.text? "distinct_id" = some (.str (firstCharacters user)) ∧
      ∀ name value, bag.text? name = some value → isReserved (.str name) = false →
        given.entry? name = none → name ∉ Store.lastNames →
          properties.text? name = some (truncate maxTextLength value).normal

/-- A request as it is made of a tracker, for a user and with the caller's properties. -/
structure Task.IsSnapshot (t : Tracker) (user : Text) (given : Value) (task : Task) : Prop where
  url : task.url = t.config.apiHost ++ task.endpoint.path ++ "/"
  body : ∃ payload, payloadOf? task.body = some (.map payload) ∧
    task.endpoint.Tells user t.props given payload

theorem Event.distinct_wire (e : Event) :
    Entries.Distinct (fun a b => decide (a = b)) e.wire := by
  simp [Event.wire, Entries.Distinct]

theorem ProfileMutation.distinct_wire (m : ProfileMutation) :
    Entries.Distinct (fun a b => decide (a = b)) m.wire := by
  cases op : m.operation <;>
    simp [ProfileMutation.wire, Entries.Distinct, op, ProfileOperation.wireName]

/-- The properties of an event as they are found in a body. -/
theorem Event.text?_properties_sent {e : Event}
    (distinct : Entries.Distinct (fun a b => decide (a = b)) e.properties)
    (proper : (truncate maxTextLength e.wire.toValue).isProper = true) :
    e.wire.sent.text? "properties" = some (.map e.properties.sent) := by
  have found : e.wire.get? (.plain "properties") = some e.properties.toValue := rfl
  rw [Table.text?_sent, found, Option.map_some,
    Table.normal_truncate distinct (Table.proper_of_get? proper found)]

/-- The body of a request for an event holds the event in its wire form, with texts cut. -/
theorem Event.payloadOf?_of_encodeBody {e : Event} {body : String}
    (encoded : encodeBody (truncate maxTextLength e.wire.toValue) = .ok body) :
    payloadOf? body = some (.map e.wire.sent) := by
  rw [EventTracker.payloadOf?_of_encodeBody encoded,
    Table.normal_truncate e.distinct_wire (isProper_of_encodeBody encoded)]

variable {t : Tracker} {given : Value}

/-- What a tracker can send is a table, and where it can be encoded, it tells of the tracker. -/
theorem Sendable.tells {endpoint : Endpoint} {payload : Value} (bag : t.props.TextKeyed)
    (texts : given.TextKeyed) (sendable : Sendable t given endpoint payload)
    (proper : (truncate maxTextLength payload).isProper = true) :
    ∃ table : Table Value, payload = table.toValue ∧
      Entries.Distinct (fun a b => decide (a = b)) table ∧
      endpoint.Tells t.distinctId t.props given table.sent := by
  cases sendable with
  | @event s s' name e same composed =>
    obtain ⟨distinct, own, held⟩ := Store.holds_of_compose (same ▸ bag) texts composed
    refine ⟨e.wire, rfl, e.distinct_wire, e.properties.sent,
      Event.text?_properties_sent distinct proper, ?_, ?_⟩
    · have inner : (truncate maxTextLength e.properties.toValue).isProper = true :=
        Table.proper_of_get? proper (show e.wire.get? (.plain "properties") = some _ from rfl)
      rw [Table.text?_sent, own, Option.map_some,
        normal_truncate_str (Table.proper_of_get? inner own), Store.distinctId_of_props same]
    · intro name value inBag _ missing other
      rw [Table.text?_sent, held name value (same ▸ inBag) missing other]
      rfl
  | @mutation s m same user =>
    refine ⟨m.wire, rfl, m.distinct_wire, ?_⟩
    have own : m.wire.get? (.plain "$distinct_id") = some (.str (.plain m.distinctId)) := rfl
    rw [Endpoint.Tells, Table.text?_sent, own, Option.map_some,
      normal_truncate_str (Table.proper_of_get? proper own), ← user, Store.distinctId_of_props same]

/-- What a request tells without properties of the caller's, it tells with any. -/
theorem Endpoint.Tells.of_null {user : Text} {bag payload : Mapping} {endpoint : Endpoint}
    (tells : endpoint.Tells user bag .null payload) (given : Value) :
    endpoint.Tells user bag given payload := by
  cases endpoint with
  | engage => exact tells
  | track =>
    obtain ⟨properties, found, own, held⟩ := tells
    exact ⟨properties, found, own, fun name value inBag super _ => held name value inBag super rfl⟩

namespace Task

variable {task : Task}

theorem IsSnapshot.of_null {user : Text} (snapshot : task.IsSnapshot t user .null)
    (given : Value) : task.IsSnapshot t user given := by
  obtain ⟨url, payload, sent, tells⟩ := snapshot
  exact ⟨url, payload, sent, tells.of_null given⟩

theorem Carries.isSnapshot {place : Nat} {endpoint : Endpoint} {callback : Value}
    (carries : task.Carries t place endpoint given callback) (bag : t.props.TextKeyed)
    (texts : given.TextKeyed) : task.IsSnapshot t t.distinctId given := by
  obtain ⟨-, goal, -, url, payload, sendable, sent⟩ := carries
  have proper := isProper_of_encodeBody sent
  obtain ⟨table, rfl, distinct, tells⟩ := sendable.tells bag texts proper
  refine ⟨by rw [url, goal], table.sent, ?_, by rwa [goal]⟩
  rw [payloadOf?_of_encodeBody sent, Table.normal_truncate distinct proper]

/-- A request is a snapshot, and so is one that a listener brings about. -/
theorem MadeBy.isSnapshot {place : Nat} {endpoint : Endpoint} {listener : Value}
    (made : task.MadeBy t place endpoint given listener) (bag : t.props.TextKeyed)
    (texts : given.TextKeyed) : task.IsSnapshot t t.distinctId given := by
  rcases made with own | ⟨-, echo⟩
  · exact own.isSnapshot bag texts
  · exact (echo.isSnapshot bag trivial).of_null given

/-- Bags that hold the same super-properties make the same snapshots. -/
theorem IsSnapshot.of_props {user : Text} {props : Mapping}
    (snapshot : task.IsSnapshot { t with props } user given)
    (same : ∀ name, isReserved (.str name) = false → props.text? name = t.props.text? name) :
    task.IsSnapshot t user given := by
  obtain ⟨url, payload, sent, tells⟩ := snapshot
  refine ⟨url, payload, sent, ?_⟩
  cases goal : task.endpoint with
  | engage => rwa [goal] at tells
  | track =>
    rw [goal] at tells
    obtain ⟨properties, found, own, held⟩ := tells
    refine ⟨properties, found, own, fun name value inBag super => ?_⟩
    exact held name value ((same name super).trans inBag) super

end Task

end EventTracker
