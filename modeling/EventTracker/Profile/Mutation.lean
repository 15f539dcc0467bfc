import EventTracker.Schema.Record

/-!
# Profile mutations

A mutation applies one operation to the profile of a user. Its wire form holds the
project token, the user and the operation, in this order. Inputs may name a field as it
is named on the wire or without the dollar sign.
-/

namespace EventTracker

/-- What is done to a profile. -/
inductive ProfileOperation where
  /-- Sets properties. -/
  | set (properties : Table Value)
  /-- Sets the properties that have no value yet. -/
  | setOnce (properties : Table Value)
  /-- Removes properties. -/
  | unset (names : List Text)
  /-- Adds to numeric properties. -/
  | add (amounts : Table Number)
  /-- Appends to list properties. -/
  | append (properties : Table Value)

namespace ProfileOperation

/-- The name of an operation on the wire. -/
def wireName : ProfileOperation → String
  | .set _ => "$set"
  | .setOnce _ => "$set_once"
  | .unset _ => "$unset"
  | .add _ => "$add"
  | .append _ => "$append"

/-- The operand of an operation as a value. -/
def operand : ProfileOperation → Value
  | .set properties | .setOnce properties | .append properties => properties.toValue
  | .unset names => .list (names.map .str)
  | .add amounts => Table.toValue (amounts.map fun (name, n) => (name, n.value))

end ProfileOperation

/-- A change to the profile of a user. -/
structure ProfileMutation where
  token : String
  distinctId : String
  operation : ProfileOperation

namespace ProfileMutation

/-- The fields of a mutation as an input gives them: token, user, and any of the five operations. -/
structure Draft where
  token : String
  distinctId : String
  set : Option (Table Value)
  setOnce : Option (Table Value)
  unset : Option (List Text)
  add : Option (Table Number)
  append : Option (Table Value)

/-- The operations that a draft has. -/
def Draft.operations (d : Draft) : List ProfileOperation :=
  (d.set.map .set).toList ++ (d.setOnce.map .setOnce).toList ++ (d.unset.map .unset).toList ++
    (d.add.map .add).toList ++ (d.append.map .append).toList

def tokenField : Field := ⟨"token", some "$token"⟩
def distinctIdField : Field := ⟨"distinct_id", some "$distinct_id"⟩
def setField : Field := ⟨"set_", some "$set"⟩
def setOnceField : Field := ⟨"set_once", some "$set_once"⟩
def unsetField : Field := ⟨"unset", some "$unset"⟩
def addField : Field := ⟨"add", some "$add"⟩
def appendField : Field := ⟨"append", some "$append"⟩

/-- The fields of a mutation and how they are checked; there must be exactly one operation. -/
def schema : Schema Draft ProfileMutation where
  record := "ProfileMutation"
  fields := [tokenField, distinctIdField, setField, setOnceField, unsetField, addField, appendField]
  check input :=
    let optional {α : Type} (f : Field) (check : Value → Checked α) : Checked (Option α) :=
      f.withDefault input none (checkOptional check)
    (((((((Checked.apply (.ok Draft.mk) (tokenField.required input checkNonemptyText)).apply
      (distinctIdField.required input checkNonemptyText)).apply
      (optional setField checkProperties)).apply
      (optional setOnceField checkProperties)).apply
      (optional unsetField checkTexts)).apply
      (optional addField (checkTable checkNumber))).apply
      (optional appendField checkProperties))
  finish draft :=
    match draft.operations with
    | [operation] => .ok ⟨draft.token, draft.distinctId, operation⟩
    | operations => .error (.operationCount operations.length)

/-- The wire form. -/
def wire (m : ProfileMutation) : Table Value :=
  [("$token", .str m.token), ("$distinct_id", .str m.distinctId),
   (m.operation.wireName, m.operation.operand)]

end ProfileMutation

end EventTracker
