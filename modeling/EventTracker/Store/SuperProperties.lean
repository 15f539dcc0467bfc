import EventTracker.Store.Identity

/-!
# Super-properties

The properties of the store other than the three of the identity. What a caller gives for
those three is left out, with a warning.
-/

namespace EventTracker

/-- The keys of the identity, in alphabetical order. -/
def reservedKeys : List String := [deviceIdKey, userIdKey, distinctIdKey]

/-- Whether a key belongs to the identity. -/
def isReserved (key : Value) : Bool :=
  match key with
  | .str t => reservedKeys.any fun key => t == .plain key
  | _ => false

namespace Store

/-- The entries of a mapping without those of the identity, after a warning that names them. What
cannot be iterated, holds what cannot be a key, or is no mapping is a misuse. -/
def withoutReserved (s : Store) (patch : Value) : Store × Except Fault Mapping :=
  match patch.items? with
  | none => (s, .error (.misuse .wrongType))
  | some keys =>
    if keys.all Value.hashable then
      let rejected := reservedKeys.filter fun key => keys.any (Value.sameKey (.str (.plain key)))
      let warned := if rejected.isEmpty then s
        else s.record (.warning .superProperties "Ignoring reserved super-property key(s): %s"
          [.str (", ".intercalate rejected)])
      match patch with
      | .map entries => (warned, .ok (entries.filter fun entry => !isReserved entry.1))
      | _ => (warned, .error (.misuse .wrongType))
    else (s, .error (.misuse .wrongType))

/-- Overwrites super-properties. -/
def registerSuper (s : Store) (patch : Value) : Store × Except Fault Unit :=
  match s.withoutReserved patch with
  | (s, .ok entries) => s.register (.map entries)
  | (s, .error fault) => (s, .error fault)

/-- Adds the super-properties that are not there yet. -/
def registerSuperOnce (s : Store) (patch : Value) : Store × Except Fault Unit :=
  match s.withoutReserved patch with
  | (s, .ok entries) => s.registerOnce (.map entries)
  | (s, .error fault) => (s, .error fault)

/-- Removes a super-property. -/
def unregisterSuper (s : Store) (key : Value) : Store × Except Fault Unit :=
  if isReserved key then
    (s.record (.warning .superProperties "Ignoring unregister of reserved key %s" [key]), .ok ())
  else if key.hashable then s.unregister key
  else (s, .error (.misuse .wrongType))

/-- All super-properties. -/
def superProperties (s : Store) : Mapping := s.props.filter fun entry => !isReserved entry.1

end Store

end EventTracker
