import EventTracker.Proofs.Json.Parsing
import EventTracker.Proofs.Json.RoundTrip
import EventTracker.Proofs.Store.Basic

/-!
# Saving a bag and loading it again

A bag of which each entry can be written is written as a whole, and what is stored for it
is loaded as its normal form. Whatever bag is loaded, from whatever content, could have
been written and is under distinct texts; loaded from what was written, it is its own
normal form. Loading leaves the storage alone.
-/

namespace EventTracker

/-- What a bag is after it was saved and loaded. -/
def normalBag (props : Mapping) : Mapping := Entries.latest Value.sameKey (Value.normalEntries props)

/-- An entry that can be written. -/
def Acceptable (entry : Value × Value) : Prop := ∃ text, Json.encode true (.map [entry]) = .ok text

theorem acceptable_iff {entry : Value × Value} :
    Acceptable entry ↔
      entry.1.spellable = true ∧ entry.2.writable = true ∧ entry.2.depth + 1 ≤ maxDepth := by
  rw [Acceptable, Json.exists_encode_iff, Value.writable, Value.depth, Value.entriesWritable_iff]
  simp [Value.entriesDepth, and_assoc]

theorem toOption_eq_some_iff {ε α : Type} {x : Except ε α} {a : α} :
    x.toOption = some a ↔ x = .ok a := by
  cases x <;> simp [Except.toOption]

namespace Store

/-- A bag is written as a whole if each of its entries can be. -/
theorem exists_storedText?_eq {props : Mapping} (all : ∀ entry ∈ props, Acceptable entry) :
    ∃ text, storedText? props = some text ∧ Json.encode true (.map props) = .ok text := by
  have encoded : ∃ text, Json.encode true (.map props) = .ok text := by
    rw [Json.exists_encode_iff, Value.writable, Value.depth, Value.entriesWritable_iff]
    constructor
    · intro entry mem
      obtain ⟨spellable, writable, -⟩ := acceptable_iff.1 (all entry mem)
      exact ⟨spellable, writable⟩
    · have shallow : Value.entriesDepth props ≤ maxDepth - 1 :=
        Value.entriesDepth_le_iff.2 fun entry mem =>
          Nat.le_sub_one_of_lt (acceptable_iff.1 (all entry mem)).2.2
      have room : 0 < maxDepth := by decide
      omega
  obtain ⟨text, encoded⟩ := encoded
  exact ⟨text, by rw [storedText?, encoded]; rfl, encoded⟩

/-- The bag that is taken from stored content, if an object is stored. -/
def storedBag? (stored : Value) : Option Mapping :=
  if stored.truthy then
    match readStored stored with
    | some (.map entries) => some entries
    | _ => none
  else none

/-- Nothing that counts as false is JSON, so an object is taken wherever one can be read. -/
theorem storedBag?_eq_some_iff {stored : Value} {entries : Mapping} :
    storedBag? stored = some entries ↔ readStored stored = some (.map entries) := by
  have truthy_of_read {v : Value} (read : readStored stored = some v) : stored.truthy = true := by
    cases stored with
    | str s =>
      refine bne_iff_ne.2 ?_
      rintro rfl
      cases read
    | bytes bs =>
      cases bs with
      | nil => cases read
      | cons b rest => rfl
    | _ => cases read
  rw [storedBag?]
  constructor
  · intro found
    split at found
    · split at found
      case h_1 read =>
        cases found
        exact read
      case h_2 => cases found
    · cases found
  · intro read
    rw [if_pos (truthy_of_read read), read]

/-- The content that a bag is saved as gives its normal form. -/
theorem storedBag?_of_encode {props : Mapping} {text : String}
    (encoded : Json.encode true (.map props) = .ok text) :
    storedBag? (.str text) = some (normalBag props) := by
  rw [storedBag?_eq_some_iff, readStored]
  exact toOption_eq_some_iff.2 (Json.parse_encode encoded)

/-- What is stored, as the code points that are read. -/
theorem exists_parsePoints_of_readStored {stored v : Value} (read : readStored stored = some v) :
    ∃ ps, Json.parsePoints ps = .ok v := by
  cases stored with
  | str t => exact ⟨_, toOption_eq_some_iff.1 read⟩
  | bytes bs =>
    obtain ⟨ps, -, read⟩ := Option.bind_eq_some_iff.1 read
    exact ⟨ps, toOption_eq_some_iff.1 read⟩
  | _ => cases read

/-- Whatever is loaded could have been written. -/
theorem acceptable_of_storedBag? {stored : Value} {props : Mapping}
    (loaded : storedBag? stored = some props) : ∀ entry ∈ props, Acceptable entry := by
  obtain ⟨ps, parsed⟩ := exists_parsePoints_of_readStored (storedBag?_eq_some_iff.1 loaded)
  have settled := Json.parsePoints_settled parsed
  have writable := settled.writable
  have shallow := settled.shallow
  rw [Value.writable, Value.entriesWritable_iff] at writable
  rw [Value.depth] at shallow
  intro entry mem
  obtain ⟨spellable, writable⟩ := writable entry mem
  have deepest := Value.entriesDepth_le_iff.1 (Nat.le_refl (Value.entriesDepth props)) entry mem
  refine acceptable_iff.2 ⟨spellable, writable, ?_⟩
  omega

/-- Whatever is loaded is under texts, no two of which are the same, and its values without surrogates
are their own normal forms. -/
theorem isKeyed_of_storedBag? {stored : Value} {props : Mapping}
    (loaded : storedBag? stored = some props) : (Value.map props).IsKeyed := by
  obtain ⟨ps, parsed⟩ := exists_parsePoints_of_readStored (storedBag?_eq_some_iff.1 loaded)
  exact (Json.parsePoints_settled parsed).keyed

/-- A bag that was written and loaded goes through that unchanged. -/
theorem normalBag_normalBag {props : Mapping} (all : ∀ entry ∈ props, Acceptable entry) :
    normalBag (normalBag props) = normalBag props := by
  obtain ⟨text, -, encoded⟩ := exists_storedText?_eq all
  have settled := Json.parsePoints_settled (Json.parse_encode encoded)
  exact Value.map.inj (settled.normal (.inl (CodePoint.proper_ofChars _)))

/-! ## Loading -/

section Load

variable (s : Store)

/-- Loading changes the bag and the log at most. -/
theorem exists_load_eq : ∃ props log, s.load = { s with props, log } := by
  unfold load
  split
  · exact ⟨_, _, rfl⟩
  · split
    · exact ⟨_, _, rfl⟩
    · split <;> exact ⟨_, _, rfl⟩

@[simp] theorem load_storage : s.load.storage = s.storage := by
  obtain ⟨props, log, same⟩ := s.exists_load_eq
  rw [same]

@[simp] theorem load_files : s.load.files = s.files := by
  obtain ⟨props, log, same⟩ := s.exists_load_eq
  rw [same]

@[simp] theorem load_name : s.load.name = s.name := by
  obtain ⟨props, log, same⟩ := s.exists_load_eq
  rw [same]

@[simp] theorem load_ids : s.load.ids = s.ids := by
  obtain ⟨props, log, same⟩ := s.exists_load_eq
  rw [same]

theorem load_props {stored : Value} (got : s.get s.name = .ok stored) :
    s.load.props = (storedBag? stored).getD s.props := by
  rw [load, got, storedBag?]
  simp only
  cases truthy : stored.truthy with
  | false => rfl
  | true =>
    simp only [Bool.not_true, Bool.false_eq_true, if_false, if_true]
    cases read : readStored stored with
    | none => rfl
    | some v => cases v <;> rfl

/-- A bag that is stored is taken as it is, and nothing else changes. -/
theorem load_eq_of_storedBag? {stored : Value} {entries : Mapping}
    (got : s.get s.name = .ok stored) (found : storedBag? stored = some entries) :
    s.load = { s with props := entries } := by
  unfold storedBag? at found
  split at found
  case isFalse => cases found
  case isTrue truthy =>
    split at found
    case h_2 => cases found
    case h_1 read =>
      cases found
      simp only [load, got, truthy, read, Bool.not_true, Bool.false_eq_true, if_false]

end Load

end Store

end EventTracker
