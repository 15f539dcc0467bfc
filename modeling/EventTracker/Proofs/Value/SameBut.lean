import EventTracker.Proofs.Json.Printing
import EventTracker.Proofs.Value.Key
import EventTracker.Value.Depth
import Mathlib.Data.List.Forall2

/-!
# Entries that are the same but for texts under a key

Two lists of entries are the same but for texts under a key if they agree entry by entry,
except that under this key each may hold a text of its own. Merging such entries gives
such entries. They are as deep as each other, both have a JSON text or neither has, and
are read back as such entries.
-/

namespace EventTracker

/-- Two results that fail with the same error, or succeed with related values. -/
inductive Matched {ε α β : Type} (R : α → β → Prop) : Except ε α → Except ε β → Prop where
  | ok {a : α} {b : β} (related : R a b) : Matched R (.ok a) (.ok b)
  | error (e : ε) : Matched R (.error e) (.error e)

namespace Matched

variable {ε ε' α β γ δ : Type} {R : α → β → Prop} {S : γ → δ → Prop} {x : Except ε α}
  {y : Except ε β}

theorem map {f : α → γ} {g : β → δ} (matched : Matched R x y)
    (related : ∀ a b, R a b → S (f a) (g b)) : Matched S (x.map f) (y.map g) := by
  cases matched with
  | ok one => exact .ok (related _ _ one)
  | error e => exact .error e

/-- Whether a result fails is no matter of what is made of it. -/
theorem map_true (f : α → γ) (g : β → δ) (matched : Matched (fun _ _ => True) x y) :
    Matched (fun _ _ => True) (x.map f) (y.map g) :=
  matched.map fun _ _ _ => trivial

theorem mapError (matched : Matched R x y) (f : ε → ε') :
    Matched R (x.mapError f) (y.mapError f) := by
  cases matched with
  | ok one => exact .ok one
  | error e => exact .error (f e)

theorem bind {f : α → Except ε γ} {g : β → Except ε δ} (matched : Matched R x y)
    (related : ∀ a b, R a b → Matched S (f a) (g b)) : Matched S (x.bind f) (y.bind g) := by
  cases matched with
  | ok one => exact related _ _ one
  | error e => exact .error e

/-- A result matches itself. -/
theorem refl {R : α → α → Prop} (reflexive : ∀ a, R a a) (x : Except ε α) : Matched R x x := by
  cases x with
  | ok a => exact .ok (reflexive a)
  | error e => exact .error e

end Matched

/-- Entries that are the same but for the texts under a key. -/
inductive Entries.SameBut {κ : Type} (key : κ) : Entries κ Value → Entries κ Value → Prop where
  | nil : SameBut key [] []
  | same (entry : κ × Value) {rest rest' : Entries κ Value} (others : SameBut key rest rest') :
    SameBut key (entry :: rest) (entry :: rest')
  | text (s s' : String) {rest rest' : Entries κ Value} (others : SameBut key rest rest') :
    SameBut key ((key, .str s) :: rest) ((key, .str s') :: rest')

namespace Entries.SameBut

variable {κ κ' : Type} {key : κ} {m m' p p' : Entries κ Value} {same : κ → κ → Bool}

theorem refl (key : κ) (m : Entries κ Value) : SameBut key m m := by
  induction m with
  | nil => exact .nil
  | cons entry rest ih => exact .same entry ih

/-- Entries that differ in what one of them holds under the key. -/
theorem of_text (key : κ) (s s' : String) (rest : Entries κ Value) :
    SameBut key ((key, .str s) :: rest) ((key, .str s') :: rest) := .text s s' (refl key rest)

theorem keys_eq (alike : SameBut key m m') : m'.map Prod.fst = m.map Prod.fst := by
  induction alike with
  | nil => rfl
  | same entry others ih | text s s' others ih => rw [List.map_cons, List.map_cons, ih]

/-- Entries with other keys, and values made of theirs. -/
theorem map {f : κ → κ'} {g : Value → Value} (texts : ∀ s : String, ∃ s' : String, g (.str s) = .str s')
    (alike : SameBut key m m') :
    SameBut (f key) (m.map fun entry => (f entry.1, g entry.2))
      (m'.map fun entry => (f entry.1, g entry.2)) := by
  induction alike with
  | nil => exact .nil
  | same entry others ih => exact .same _ ih
  | text s s' others ih =>
    obtain ⟨r, cut⟩ := texts s
    obtain ⟨r', cut'⟩ := texts s'
    rw [List.map_cons, List.map_cons, cut, cut']
    exact .text r r' ih

theorem find?_eq (alike : SameBut key m m') {other : κ} (apart : same key other = false) :
    find? same other m' = find? same other m := by
  induction alike with
  | nil => rfl
  | same entry others ih => rw [find?_cons, find?_cons, ih]
  | text s s' others ih => rw [find?_cons, find?_cons, apart, ih]; rfl

theorem put (alike : SameBut key m m') (other : κ) (value : Value) :
    SameBut key (put same other value m) (Entries.put same other value m') := by
  induction alike with
  | nil => exact refl key _
  | same entry others ih =>
    unfold Entries.put
    split
    · exact .same _ others
    · exact .same entry ih
  | text s s' others ih =>
    unfold Entries.put
    split
    · exact .same _ others
    · exact .text s s' ih

/-- Putting two texts under the key itself. -/
theorem put_text (alike : SameBut key m m') (only : ∀ other, same other key = true → other = key)
    (s s' : String) : SameBut key (Entries.put same key (.str s) m)
      (Entries.put same key (.str s') m') := by
  induction alike with
  | nil => exact .text s s' .nil
  | same entry others ih =>
    unfold Entries.put
    split
    case isTrue here =>
      rw [only _ here]
      exact .text s s' others
    case isFalse => exact .same entry ih
  | text r r' others ih =>
    unfold Entries.put
    split
    · exact .text s s' others
    · exact .text r r' ih

theorem overlay (alike : SameBut key m m') (only : ∀ other, same other key = true → other = key)
    (patches : SameBut key p p') : SameBut key (overlay same m p) (Entries.overlay same m' p') := by
  induction patches generalizing m m' with
  | nil => exact alike
  | same entry others ih => exact ih (alike.put entry.1 entry.2)
  | text s s' others ih => exact ih (alike.put_text only s s')

theorem ofList (alike : SameBut key m m') (only : ∀ other, same other key = true → other = key) :
    SameBut key (ofList same m) (Entries.ofList same m') := nil.overlay only alike

end Entries.SameBut

/-! ## As values -/

open Entries (SameBut)

theorem eq_of_sameKey_str {name : String} (other : Value)
    (same : other.sameKey (.str name) = true) : other = .str name :=
  Value.sameKey_str_iff.1 same

variable {key : Value} {name : String} {m m' : Mapping}

theorem entriesDepth_eq_of_sameBut (alike : SameBut key m m') :
    Value.entriesDepth m' = Value.entriesDepth m := by
  induction alike with
  | nil => rfl
  | same entry others ih => rw [Value.entriesDepth, Value.entriesDepth, ih]
  | text s s' others ih => rw [Value.entriesDepth, Value.entriesDepth, ih]; rfl

theorem normalEntries_sameBut (alike : SameBut (.str name) m m') :
    SameBut (.str name) (Value.normalEntries m) (Value.normalEntries m') := by
  rw [Value.normalEntries_eq_map, Value.normalEntries_eq_map]
  exact alike.map (f := fun key => Value.str key.keySpelling.joined) (g := Value.normal)
    fun s => ⟨s, rfl⟩

theorem latest_sameBut (alike : SameBut (.str name) m m') :
    SameBut (.str name) (Entries.latest Value.sameKey m) (Entries.latest Value.sameKey m') := by
  rw [← Entries.ofList_eq_latest keyEquality_sameKey,
    ← Entries.ofList_eq_latest keyEquality_sameKey]
  exact alike.ofList eq_of_sameKey_str

/-- Entries under the same keys are both written, or neither are, if that is so of their values. -/
theorem printEntries_matched {ascii : Bool} {room : Nat}
    (each : List.Forall₂ (fun entry entry' : Value × Value => entry'.1 = entry.1 ∧
      Matched (fun _ _ => True) (Json.print ascii room entry.2) (Json.print ascii room entry'.2))
      m m') :
    Matched (fun _ _ => True) (Json.printEntries ascii room m)
      (Json.printEntries ascii room m') := by
  induction each with
  | nil => exact .ok trivial
  | @cons entry entry' rest rest' one others ih =>
    obtain ⟨key, value⟩ := entry
    obtain ⟨key', value'⟩ := entry'
    obtain ⟨rfl, written⟩ := one
    refine Matched.bind (Matched.refl (fun _ => rfl) _) fun _ _ _ => ?_
    refine written.bind fun _ _ _ => ?_
    exact ih.bind fun _ _ _ => .ok trivial

/-- Such mappings are both written, or neither. -/
theorem print_map_matched (ascii : Bool) (room : Nat) (alike : SameBut key m m') :
    Matched (fun _ _ => True) (Json.print ascii room (.map m))
      (Json.print ascii room (.map m')) := by
  cases room with
  | zero => exact .error Json.EncodeError.tooDeep
  | succ room =>
    refine (printEntries_matched ?_).map_true _ _
    induction alike with
    | nil => exact .nil
    | same entry others ih => exact .cons ⟨rfl, .refl (fun _ => trivial) _⟩ ih
    | text s s' others ih => exact .cons ⟨rfl, .ok trivial⟩ ih

end EventTracker
