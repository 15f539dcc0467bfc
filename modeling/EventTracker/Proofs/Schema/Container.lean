import EventTracker.Proofs.Value.Entries
import EventTracker.Proofs.Value.Key
import EventTracker.Schema.Record
import Mathlib.Data.List.Forall2

/-!
# What passes the check of a mapping

A mapping passes `checkProperties` if each of its keys is read as a text, and the table
then holds for each name the value of the last key that is read as it. A text is read as
itself, and bytes as the text that they encode: so a text in a mapping keeps its value,
unless bytes that encode it stand behind it (`Mapping.Shadowed`).
-/

namespace EventTracker

namespace Checked

variable {α β : Type}

theorem within_eq_ok_iff {step : Step} {c : Checked α} {a : α} :
    c.within step = .ok a ↔ c = .ok a := by
  cases c <;> simp [within]

theorem map_eq_ok_iff {f : α → β} {c : Checked α} {b : β} :
    c.map f = .ok b ↔ ∃ a, c = .ok a ∧ f a = b := by
  cases c <;> simp [Except.map]

end Checked

theorem checkAll_eq_ok_iff {α β : Type} {check : α → Checked β} {inputs : List α}
    {outputs : List β} :
    checkAll check inputs = .ok outputs ↔
      List.Forall₂ (fun input output => check input = .ok output) inputs outputs := by
  induction inputs generalizing outputs with
  | nil => cases outputs <;> simp [checkAll]
  | cons input rest ih =>
    rw [checkAll, Checked.apply_eq_ok_iff, List.forall₂_cons_left_iff]
    simp only [Checked.map_eq_ok_iff, ih]
    constructor
    · rintro ⟨g, others, ⟨first, here, rfl⟩, later, rfl⟩
      exact ⟨first, others, here, later, rfl⟩
    · rintro ⟨first, others, here, later, rfl⟩
      exact ⟨List.cons first, others, ⟨first, here, rfl⟩, later, rfl⟩

/-- An entry passes if its key is read as a text and its value passes. -/
theorem checkEntry_eq_ok_iff {α : Type} {check : Value → Checked α} {entry : Value × Value}
    {named : Text × α} :
    checkEntry check entry = .ok named ↔
      checkText entry.1 = .ok named.1 ∧ check entry.2 = .ok named.2 := by
  obtain ⟨name, a⟩ := named
  rw [checkEntry, Checked.apply_eq_ok_iff]
  simp only [Checked.map_eq_ok_iff, Checked.within_eq_ok_iff]
  constructor
  · rintro ⟨g, x, ⟨text, read, rfl⟩, passed, same⟩
    cases same
    exact ⟨read, passed⟩
  · rintro ⟨read, passed⟩
    exact ⟨_, a, ⟨name, read, rfl⟩, passed, rfl⟩

theorem checkText_eq_ok_iff {key : Value} {name : Text} :
    checkText key = .ok name ↔
      key = .str name ∨ ∃ bytes, key = .bytes bytes ∧ (textOfUtf8? bytes).map .plain = some name := by
  cases key with
  | str s => simp [checkText]
  | bytes bs =>
    cases text : textOfUtf8? bs <;>
      simp [checkText, checkPlainText, textOf?, text, Checked.flaw, Except.map]
  | _ => simp [checkText, checkPlainText, textOf?, Checked.flaw, Except.map]

theorem checkPlainText_eq_ok_iff {v : Value} {s : String} :
    checkPlainText v = .ok s ↔
      v = .str (.plain s) ∨ ∃ bytes, v = .bytes bytes ∧ textOfUtf8? bytes = some s := by
  cases v with
  | str t => cases t <;> simp [checkPlainText, textOf?, Checked.flaw]
  | bytes bs => cases text : textOfUtf8? bs <;> simp [checkPlainText, textOf?, text, Checked.flaw]
  | _ => simp [checkPlainText, textOf?, Checked.flaw]

/-! ## Names and their values -/

/-- How a mapping is read under names: entry by entry, each key as the text that it is read as. -/
def Mapping.ReadUnder (m : Mapping) (named : List (Text × Value)) : Prop :=
  List.Forall₂ (fun entry name => checkText entry.1 = .ok name.1 ∧ entry.2 = name.2) m named

/-- A key in bytes that is read as a text stands behind that text. -/
def Mapping.Shadowed (m : Mapping) (name : Text) : Prop :=
  ∃ bytes, (textOfUtf8? bytes).map .plain = some name ∧ [.str name, .bytes bytes].Sublist (m.map Prod.fst)

theorem checkProperties_eq_ok_iff {m : Mapping} {table : Table Value} :
    checkProperties (.map m) = .ok table ↔
      ∃ named, m.ReadUnder named ∧ Table.ofList named = table := by
  rw [checkProperties, checkTable, Checked.map_eq_ok_iff]
  simp only [checkAll_eq_ok_iff, checkEntry_eq_ok_iff, Mapping.ReadUnder, Except.ok.injEq]

theorem Schema.hasTextKeys_iff {m : Mapping} :
    hasTextKeys m = true ↔ ∀ entry ∈ m, ∃ s, entry.1 = .str s := by
  rw [hasTextKeys, List.all_eq_true]
  refine forall_congr' fun entry => imp_congr_right fun _ => ?_
  obtain ⟨key, value⟩ := entry
  cases key <;> simp

theorem Schema.hasTextKeys_map {α : Type} {f : α → Value × Value}
    (texts : ∀ a, ∃ s, (f a).1 = .str s) (items : List α) : hasTextKeys (items.map f) = true :=
  hasTextKeys_iff.2 (List.forall_mem_map.2 fun a _ => texts a)

/-- Of the entries with a name the last counts. -/
theorem Table.get?_ofList (named : List (Text × Value)) (name : Text) :
    (Table.ofList named).get? name =
      Entries.find? (fun a b => decide (a = b)) name named.reverse := by
  rw [Table.get?, Table.ofList, Entries.ofList, Entries.find?_overlay keyEquality_decide,
    Entries.find?_nil, Option.or_none]

namespace Mapping

variable {m front back : Mapping} {key value : Value} {name : Text}
  {named : List (Text × Value)}

/-- A name has the value of the last key that is read as it. -/
theorem ReadUnder.get?_of_last (read : ReadUnder (front ++ (key, value) :: back) named)
    (here : checkText key = .ok name) (last : ∀ entry ∈ back, checkText entry.1 ≠ .ok name) :
    (Table.ofList named).get? name = some value := by
  rw [Table.get?_ofList]
  induction front generalizing named with
  | nil =>
    obtain ⟨⟨text, value⟩, rest, ⟨reads, rfl⟩, others, rfl⟩ := List.forall₂_cons_left_iff.1 read
    obtain rfl : name = text := Except.ok.inj (here.symm.trans reads)
    have none_later : Entries.has (fun a b => decide (a = b)) name rest.reverse = false := by
      refine Entries.has_eq_false_iff.2 fun pair mem => decide_eq_false ?_
      rintro rfl
      obtain ⟨place, within, rfl⟩ := List.getElem_of_mem (List.mem_reverse.1 mem)
      have within' : place < back.length := others.length_eq ▸ within
      exact last _ (List.getElem_mem within') (others.get within' within).1
    rw [List.reverse_cons, Entries.find?_append, Entries.find?_of_absent none_later,
      Entries.find?_cons, decide_eq_true rfl]
    rfl
  | cons entry front ih =>
    obtain ⟨first, rest, -, others, rfl⟩ := List.forall₂_cons_left_iff.1 read
    rw [List.reverse_cons, Entries.find?_append, ih others]
    rfl

/-- What stands under a text is read under it, unless the text is shadowed. -/
theorem ReadUnder.get?_of_text (read : m.ReadUnder named)
    (distinct : Entries.Distinct Value.sameKey m) (found : m.text? name = some value)
    (clear : ¬ m.Shadowed name) : (Table.ofList named).get? name = some value := by
  obtain ⟨front, key, back, rfl, same⟩ := Entries.exists_eq_append_of_find? found
  obtain rfl := Value.sameKey_str_iff.1 same
  refine read.get?_of_last (checkText_eq_ok_iff.2 (Or.inl rfl)) fun entry mem reads => ?_
  rcases checkText_eq_ok_iff.1 reads with text | ⟨bytes, key, text⟩
  · have apart := (List.pairwise_cons.1 (List.pairwise_append.1 distinct).2.1).1 entry mem
    rw [text, Value.sameKey_str, decide_eq_true rfl] at apart
    cases apart
  · refine clear ⟨bytes, text, ?_⟩
    rw [List.map_append, List.map_cons]
    refine List.Sublist.trans ?_ (List.sublist_append_right _ _)
    exact (List.singleton_sublist.2 (List.mem_map.2 ⟨entry, mem, key⟩)).cons_cons _

theorem not_shadowed_of_texts (name : Text) (texts : ∀ entry ∈ m, ∃ s, entry.1 = .str s) :
    ¬ m.Shadowed name := by
  rintro ⟨bytes, -, sub⟩
  obtain ⟨entry, mem, key⟩ := List.mem_map.1 (sub.subset (List.mem_cons_of_mem _ List.mem_cons_self))
  obtain ⟨s, text⟩ := texts entry mem
  rw [text] at key
  cases key

/-- Entries under texts that are put on top shadow nothing. -/
theorem Shadowed.of_overlay {patch : Mapping} (texts : ∀ entry ∈ patch, ∃ s, entry.1 = .str s)
    (shadowed : (m.overlay patch).Shadowed name) : m.Shadowed name := by
  obtain ⟨bytes, text, sub⟩ := shadowed
  refine ⟨bytes, text, ?_⟩
  obtain ⟨added, keys, given⟩ := @Entries.exists_map_fst_overlay_eq _ _ Value.sameKey m patch
  rw [overlay, keys] at sub
  -- the bytes come last, and are not among the texts that are added
  obtain ⟨first, second, split, left, right⟩ := List.sublist_append_iff.1 sub
  rcases List.eq_nil_or_concat second with rfl | ⟨init, last, rfl⟩
  · rw [split, List.append_nil]
    exact left
  · have ends : Value.bytes bytes = last := by
      have := congrArg List.getLast? split
      simpa [← List.append_assoc] using this
    obtain ⟨entry, mem, key⟩ := List.mem_map.1 (given last (right.subset (by simp)))
    obtain ⟨s, text⟩ := texts entry mem
    rw [← ends, text] at key
    cases key

end Mapping

end EventTracker
