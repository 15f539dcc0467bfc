import EventTracker.Proofs.Json.Printing
import EventTracker.Proofs.Text.CodePoint

/-!
# Surrogates in JSON texts

`Value.isProper` tells the values in whose JSON no surrogate stands: neither in a text nor
in a key that is one. These are the values whose JSON has a UTF-8 encoding where it is not
written in ASCII (`gap?_eq_none_iff`). A proper text has no pairs to be joined.
-/

namespace EventTracker

open CodePoint

/-- Whether no surrogate stands in a text. -/
def Text.isProper : Text → Bool
  | .plain _ => true
  | .rough _ => false

namespace Text

theorem isProper_iff {t : Text} : t.isProper = true ↔ Proper t.points := by
  cases t with
  | plain s => exact iff_of_true rfl (proper_ofChars _)
  | rough r =>
    obtain ⟨p, mem, surrogate⟩ := List.any_eq_true.1 r.rough
    refine iff_of_false Bool.false_ne_true fun proper => ?_
    rw [proper p mem] at surrogate
    cases surrogate

theorem isProper_iff_exists {t : Text} : t.isProper = true ↔ ∃ s, t = .plain s := by
  cases t with
  | plain s => exact iff_of_true rfl ⟨s, rfl⟩
  | rough r => exact iff_of_false Bool.false_ne_true fun ⟨_, same⟩ => Text.noConfusion same

theorem joined_of_isProper {t : Text} (proper : t.isProper = true) : t.joined = t := by
  obtain ⟨s, rfl⟩ := isProper_iff_exists.1 proper
  rfl

end Text

namespace Value

mutual

/-- Whether no surrogate stands in what a value is written as in JSON. -/
def isProper : Value → Bool
  | .str t => t.isProper
  | .list items | .tuple items => itemsProper items
  | .map entries => entriesProper entries
  | _ => true

def itemsProper : List Value → Bool
  | [] => true
  | v :: rest => isProper v && itemsProper rest

def entriesProper : List (Value × Value) → Bool
  | [] => true
  | (k, v) :: rest => k.keySpelling.isProper && isProper v && entriesProper rest

end

theorem itemsProper_iff {items : List Value} :
    itemsProper items = true ↔ ∀ v ∈ items, v.isProper = true := by
  induction items with
  | nil => simp [itemsProper]
  | cons v rest ih => simp [itemsProper, ih]

theorem entriesProper_iff {entries : List (Value × Value)} :
    entriesProper entries = true ↔
      ∀ entry ∈ entries, entry.1.keySpelling.isProper = true ∧ entry.2.isProper = true := by
  induction entries with
  | nil => simp [entriesProper]
  | cons entry rest ih => simp [entriesProper, ih]

end Value

namespace Json

theorem pointsGap?_eq_none_iff {ps : List CodePoint} :
    textGap?.pointsGap? ps = none ↔ Proper ps := by
  induction ps with
  | nil => exact iff_of_true rfl (List.forall_mem_nil _)
  | cons p rest ih =>
    rw [Proper, List.forall_mem_cons]
    cases p with
    | char c => rw [textGap?.pointsGap?, Option.map_eq_none_iff, ih]; simp [isSurrogate, Proper]
    | surrogate n => simp [textGap?.pointsGap?, isSurrogate]

theorem textGap?_eq_none_iff {t : Text} : textGap? t = none ↔ t.isProper = true := by
  rw [textGap?, Option.map_eq_none_iff, pointsGap?_eq_none_iff, Text.isProper_iff]

/-- A key that cannot be spelled has no surrogates. -/
theorem isProper_keyText (k : Value) :
    ((keyText k).toOption.getD "").isProper = k.keySpelling.isProper := by
  cases k with
  | int n => cases small : limitedIntegerText? n <;> simp [keyText, intText, small] <;> rfl
  | bool b => cases b <;> rfl
  | _ => rfl

theorem itemsGap?_eq_none_iff {items : List Value} :
    itemsGap? items = none ↔ ∀ v ∈ items, gap? v = none := by
  induction items with
  | nil => simp [itemsGap?]
  | cons v rest ih => simp [itemsGap?, ih]

theorem entriesGap?_eq_none_iff {entries : List (Value × Value)} :
    entriesGap? entries = none ↔
      ∀ entry ∈ entries, entry.1.keySpelling.isProper = true ∧ gap? entry.2 = none := by
  induction entries with
  | nil => simp [entriesGap?]
  | cons entry rest ih =>
    simp [entriesGap?, ih, textGap?_eq_none_iff, isProper_keyText, and_assoc]

/-- A value's text has UTF-8 exactly if no surrogate stands in it. -/
theorem gap?_eq_none_iff (v : Value) : gap? v = none ↔ v.isProper = true := by
  induction v using Value.containerInduction with
  | str t => exact textGap?_eq_none_iff
  | list items ih =>
    rw [gap?, Option.map_eq_none_iff, itemsGap?_eq_none_iff, Value.isProper, Value.itemsProper_iff]
    exact forall₂_congr ih
  | tuple items ih =>
    rw [gap?, Option.map_eq_none_iff, itemsGap?_eq_none_iff, Value.isProper, Value.itemsProper_iff]
    exact forall₂_congr ih
  | map entries ih =>
    rw [gap?, Option.map_eq_none_iff, entriesGap?_eq_none_iff, Value.isProper,
      Value.entriesProper_iff]
    exact forall₂_congr fun entry mem => and_congr_right fun _ => ih entry mem
  | _ => exact iff_of_true rfl rfl

end Json

end EventTracker
