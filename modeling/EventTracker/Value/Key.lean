import EventTracker.Value.Basic

/-!
# Values as keys

A value can be a key unless it is or holds a list or a mapping. Two keys are the same if
they are equal as numbers, texts, instants and so on: 1, 1.0 and true are one key. Each
key is reduced to a `fingerprint`, and keys are the same when their fingerprints are
equal. NaN is the same key as itself only, and so are callbacks and foreign objects.
-/

namespace EventTracker

/-- A part of a fingerprint. -/
inductive KeyPart where
  | null
  | whole (n : Int)
  | fraction (d : Double)
  | text (t : Text)
  | bytes (bs : List UInt8)
  | date (d : Date)
  /-- A wall-clock reading without an offset. -/
  | reading (wall : Nat)
  | instant (n : Int)
  /-- A NaN, by its payload. -/
  | nan (payload : Nat)
  /-- A callback, by its mark. -/
  | callback (mark : Nat)
  /-- A foreign object, by its mark. -/
  | foreign (mark : Nat)
  /-- A tuple; the parts of its items follow. -/
  | tuple (size : Nat)
  deriving DecidableEq

namespace Value

mutual

/-- Whether a value can be a key. -/
def hashable : Value → Bool
  | .list _ | .map _ => false
  | .tuple items => allHashable items
  | _ => true

def allHashable : List Value → Bool
  | [] => true
  | v :: rest => hashable v && allHashable rest

end

mutual

/-- What decides whether two keys are the same; `none` for what cannot be a key. -/
def fingerprint : Value → Option (List KeyPart)
  | .null => some [.null]
  | .bool b => some [.whole (if b then 1 else 0)]
  | .int n => some [.whole n]
  | .float (.nan payload) => some [.nan payload]
  | .float d => some [((d.whole?).map KeyPart.whole).getD (.fraction d)]
  | .str t => some [.text t]
  | .bytes bs => some [.bytes bs]
  | .date d => some [.date d]
  | .datetime t => some [if t.offset.isNone then .reading t.wall else .instant t.instant]
  | .tuple items => (fingerprints items).map (.tuple items.length :: ·)
  | .callback c => some [.callback c.mark]
  | .foreign f => some [.foreign f.mark]
  | .list _ | .map _ => none

def fingerprints : List Value → Option (List KeyPart)
  | [] => some []
  | v :: rest =>
    match fingerprint v, fingerprints rest with
    | some parts, some more => some (parts ++ more)
    | _, _ => none

end

/-- Whether two values are the same key. -/
def sameKey (a b : Value) : Bool :=
  match a.fingerprint, b.fingerprint with
  | some x, some y => decide (x = y)
  | _, _ => false

theorem sameKey_iff {a b : Value} :
    a.sameKey b = true ↔ ∃ x, a.fingerprint = some x ∧ b.fingerprint = some x := by
  unfold sameKey
  cases a.fingerprint <;> cases b.fingerprint <;> simp [eq_comm]

theorem sameKey_symm (a b : Value) : a.sameKey b = b.sameKey a := by
  apply Bool.eq_iff_iff.2
  simp only [sameKey_iff, and_comm]

theorem sameKey_trans {a b c : Value} (h : a.sameKey b = true) (k : b.sameKey c = true) :
    a.sameKey c = true := by
  obtain ⟨x, ha, hb⟩ := sameKey_iff.1 h
  obtain ⟨y, hb', hc⟩ := sameKey_iff.1 k
  rw [hb] at hb'
  cases hb'
  exact sameKey_iff.2 ⟨x, ha, hc⟩

@[simp] theorem sameKey_str (a b : Text) : sameKey (.str a) (.str b) = decide (a = b) := by
  simp [sameKey, fingerprint]

end Value

end EventTracker
