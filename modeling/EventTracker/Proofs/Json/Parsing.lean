import EventTracker.Json.Parser
import EventTracker.Proofs.Json.Surrogates
import EventTracker.Proofs.Json.Text

/-!
# What is read from JSON text

Every value that the reader gives is one that could have been written: it is writable and
nested no deeper than the reader has room for, and its mappings are under distinct texts
(`parsePoints_settled`). Without surrogates, in it or in the text, it is its own normal form.
-/

namespace EventTracker

/-- A mapping that is under texts, no two of which are the same, and whose values without surrogates
are their own normal forms, or anything else. -/
def Value.IsKeyed : Value → Prop
  | .map entries => (∀ entry ∈ entries, ∃ t, entry.1 = .str t) ∧ Entries.Distinct sameKey entries ∧
    ∀ entry ∈ entries, entry.2.isProper = true → entry.2.normal = entry.2
  | _ => True

/-- A value that JSON can carry, nested at most `room` levels deep, that goes through it unchanged if
it comes of a text without surrogates, or has none itself. -/
structure Value.Settled (room : Nat) (proper : Prop) (v : Value) : Prop where
  writable : v.writable = true
  shallow : v.depth ≤ room
  normal : proper ∨ v.isProper = true → v.normal = v
  keyed : v.IsKeyed

namespace Value

variable {room : Nat} {proper : Prop}

theorem Settled.imp {more : Prop} {v : Value} (settled : v.Settled room proper)
    (stronger : more → proper) : v.Settled room more :=
  ⟨settled.writable, settled.shallow, fun holds => settled.normal (holds.imp_left stronger),
    settled.keyed⟩

/-- What is read for a key: a text, in which nothing is left to join if it comes of a text without
surrogates. -/
def SettledKey (proper : Prop) (k : Value) : Prop := ∃ t, k = .str t ∧ (proper → t.joined = t)

theorem settled_str {t : Text} (joined : proper → t.joined = t) (room : Nat) :
    (Value.str t).Settled room proper :=
  ⟨rfl, Nat.zero_le _,
    fun holds => congrArg Value.str (holds.elim joined Text.joined_of_isProper), trivial⟩

theorem settled_list {items : List Value} (all : ∀ v ∈ items, v.Settled room proper) :
    (Value.list items).Settled (room + 1) proper where
  writable := by
    rw [Value.writable, itemsWritable_iff]
    intro v mem
    exact (all v mem).writable
  shallow := by
    rw [depth, Nat.add_le_add_iff_right, itemsDepth_le_iff]
    intro v mem
    exact (all v mem).shallow
  normal holds := by
    rw [isProper, itemsProper_iff] at holds
    have same : items.map normal = items.map id := List.map_congr_left fun v mem =>
      (all v mem).normal (holds.imp_right fun proper => proper v mem)
    rw [Value.normal, normalItems_eq_map, same, List.map_id]
  keyed := trivial

/-- Entries under texts, whose keys and values are their own normal forms, are left as they are. -/
theorem normalEntries_eq_self {entries : List (Value × Value)}
    (all : ∀ entry ∈ entries, (∃ t : Text, entry.1 = .str t ∧ t.joined = t) ∧
      entry.2.normal = entry.2) : normalEntries entries = entries := by
  have same : (entries.map fun entry => (.str (keySpelling entry.1).joined, normal entry.2)) =
      entries.map id := by
    refine List.map_congr_left fun entry mem => ?_
    obtain ⟨k, v⟩ := entry
    obtain ⟨⟨t, text, joined⟩, normal⟩ := all _ mem
    simp only at text normal
    rw [text, normal, keySpelling, joined]
    rfl
  rw [normalEntries_eq_map, same, List.map_id]

theorem settled_map {entries : List (Value × Value)}
    (all : ∀ entry ∈ entries, SettledKey proper entry.1 ∧ entry.2.Settled room proper) :
    (Value.map (Mapping.ofList entries)).Settled (room + 1) proper := by
  have kept : ∀ entry ∈ Mapping.ofList entries,
      SettledKey proper entry.1 ∧ entry.2.Settled room proper :=
    Entries.forall_overlay (P := SettledKey proper) (Q := Settled room proper)
      (List.forall_mem_nil _) all
  constructor
  · rw [Value.writable, entriesWritable_iff]
    intro entry mem
    obtain ⟨⟨t, text, -⟩, settled⟩ := kept entry mem
    exact ⟨by rw [text]; rfl, settled.writable⟩
  · rw [depth, Nat.add_le_add_iff_right, entriesDepth_le_iff]
    intro entry mem
    exact (kept entry mem).2.shallow
  · intro holds
    rw [isProper, entriesProper_iff] at holds
    have same : normalEntries (Mapping.ofList entries) = Mapping.ofList entries := by
      apply normalEntries_eq_self
      intro entry mem
      obtain ⟨⟨t, text, joined⟩, settled⟩ := kept entry mem
      have here := holds.imp_right fun proper => proper entry mem
      rw [text] at here
      exact ⟨⟨t, text, here.elim joined fun proper => Text.joined_of_isProper proper.1⟩,
        settled.normal (here.imp_right And.right)⟩
    rw [Value.normal, same, ← Entries.ofList_eq_latest keyEquality_sameKey]
    exact congrArg Value.map (Entries.ofList_of_distinct (Entries.distinct_ofList entries))
  · refine ⟨fun entry mem => ?_, Entries.distinct_ofList entries, fun entry mem proper =>
      (kept entry mem).2.normal (.inr proper)⟩
    obtain ⟨⟨t, text, -⟩, -⟩ := kept entry mem
    exact ⟨t, text⟩

end Value

namespace Json

open CodePoint

/-! ## Numbers and words -/

theorem allDigits_takeWhile (cs : List Char) : AllDigits (cs.takeWhile Char.isDigit) :=
  fun c mem => (List.all_eq_true.1 List.all_takeWhile) c mem

theorem allDigits_splitWhole (cs : List Char) : AllDigits (splitWhole cs).1 := by
  unfold splitWhole
  split
  · exact allDigits_replicate_zero 1
  · exact allDigits_takeWhile cs

theorem exceedsDigitLimit_of_digits {cs : List Char} (all : AllDigits cs)
    (short : ¬digitLimit < cs.length) {n : Int} (size : n.natAbs = Nat.ofDigitChars 10 cs 0) :
    exceedsDigitLimit n = false := by
  have bound := ofDigitChars_lt all
  unfold exceedsDigitLimit
  -- the power itself is never to be computed
  generalize digitLimit = limit at short
  refine decide_eq_false (Nat.not_le.2 ?_)
  rw [size]
  exact Nat.lt_of_lt_of_le bound (Nat.pow_le_pow_right (by decide) (Nat.not_lt.1 short))

variable {proper : Prop}

theorem settled_int {n : Int} (small : exceedsDigitLimit n = false) (room : Nat) :
    (Value.int n).Settled room proper where
  writable := by rw [Value.writable, small]; rfl
  shallow := Nat.zero_le _
  normal _ := rfl
  keyed := trivial

theorem settled_ofRank (negative : Bool) (rank room : Nat) :
    (Value.float (.ofRank negative rank)).Settled room proper :=
  ⟨rfl, Nat.zero_le _, fun _ => rfl, trivial⟩

theorem splitWhole_suffix (cs : List Char) : (splitWhole cs).2 <:+ cs := by
  unfold splitWhole
  split
  · exact List.suffix_cons _ _
  · exact List.dropWhile_suffix _

theorem splitFraction_suffix (cs : List Char) : (splitFraction cs).2 <:+ cs := by
  unfold splitFraction
  split
  · simp only
    split
    · exact List.suffix_refl _
    · exact (List.dropWhile_suffix _).trans (List.suffix_cons _ _)
  · exact List.suffix_refl _

theorem splitSign_suffix (cs : List Char) : (splitSign cs).2 <:+ cs := by
  unfold splitSign
  split <;> first | exact List.suffix_cons _ _ | exact List.suffix_refl _

theorem splitExponent_suffix (cs : List Char) : (splitExponent cs).2 <:+ cs := by
  unfold splitExponent
  split
  case h_2 => exact List.suffix_refl _
  case h_1 mark rest =>
    split
    case isFalse => exact List.suffix_refl _
    case isTrue =>
      simp only
      split
      · exact List.suffix_refl _
      · exact ((List.dropWhile_suffix _).trans (splitSign_suffix rest)).trans (List.suffix_cons _ _)

theorem parseMagnitude_settled {negative : Bool} {cs rest : List Char} {v : Value}
    (parsed : parseMagnitude negative cs = .ok (v, rest)) (room : Nat) :
    v.Settled room proper ∧ rest <:+ cs := by
  unfold parseMagnitude at parsed
  have digits := allDigits_splitWhole cs
  have whole_suffix := splitWhole_suffix cs
  generalize splitWhole cs = whole at parsed digits whole_suffix
  obtain ⟨whole, afterWhole⟩ := whole
  have suffix := ((splitExponent_suffix _).trans (splitFraction_suffix afterWhole)).trans whole_suffix
  simp only at parsed digits
  split at parsed
  · cases parsed
  · split at parsed
    · split at parsed
      case isTrue => cases parsed
      case isFalse short =>
        cases parsed
        exact ⟨settled_int (exceedsDigitLimit_of_digits digits short (by split <;> omega)) room, suffix⟩
    · cases parsed
      exact ⟨settled_ofRank negative _ room, suffix⟩

theorem words_settled (room : Nat) : ∀ word ∈ words, word.2.Settled room proper := by
  intro word mem
  simp only [words, List.mem_cons, List.not_mem_nil, or_false] at mem
  rcases mem with rfl | rfl | rfl | rfl | rfl | rfl <;>
    exact ⟨rfl, Nat.zero_le _, fun _ => rfl, trivial⟩

theorem suffix_of_dropWord? {word cs rest : List Char} (dropped : dropWord? word cs = some rest) :
    rest <:+ cs := by
  induction word generalizing cs with
  | nil =>
    cases dropped
    exact List.suffix_refl _
  | cons w word ih =>
    cases cs with
    | nil => cases dropped
    | cons c cs =>
      rw [dropWord?] at dropped
      split at dropped
      · exact (ih dropped).trans (List.suffix_cons _ _)
      · cases dropped

theorem parseWord_settled {cs rest : List Char} {v : Value}
    (parsed : parseWord cs = .ok (v, rest)) (room : Nat) :
    v.Settled room proper ∧ rest <:+ cs := by
  unfold parseWord at parsed
  split at parsed
  case h_1 word found =>
    obtain ⟨word, mem, here⟩ := List.exists_of_findSome?_eq_some found
    obtain ⟨after, dropped, rfl⟩ := Option.map_eq_some_iff.1 here
    cases parsed
    exact ⟨words_settled room word mem, suffix_of_dropWord? dropped⟩
  case h_2 =>
    split at parsed
    · obtain ⟨settled, suffix⟩ := parseMagnitude_settled parsed room
      exact ⟨settled, suffix.trans (List.suffix_cons _ _)⟩
    · exact parseMagnitude_settled parsed room

theorem parseScalar_settled {ps rest : List CodePoint} {v : Value}
    (parsed : parseScalar ps = .ok (v, rest)) (room : Nat) :
    v.Settled room proper ∧ rest ⊆ ps := by
  obtain ⟨⟨value, after⟩, read, same⟩ := map_eq_ok_iff.1 parsed
  cases same
  obtain ⟨settled, suffix⟩ := parseWord_settled read room
  refine ⟨settled, ?_⟩
  rw [List.append_subset]
  have split := ofChars_splitChars ps
  constructor
  · intro p mem
    rw [← split]
    exact List.mem_append_left _ (List.map_subset _ suffix.subset mem)
  · intro p mem
    rw [← split]
    exact List.mem_append_right _ mem

/-! ## Values -/

theorem skipSpace_subset (ps : List CodePoint) : skipSpace ps ⊆ ps :=
  (List.dropWhile_suffix _).subset

/-- What is left after blanks and one more code point comes of the text. -/
theorem subset_of_skipSpace {ps rest : List CodePoint} {p : CodePoint}
    (skipped : skipSpace ps = p :: rest) : rest ⊆ ps := fun _ mem =>
  skipSpace_subset ps (skipped ▸ List.mem_cons_of_mem _ mem)

/-- What the three readers give with some fuel. -/
structure GivesSettled (fuel : Nat) : Prop where
  value : ∀ {room : Nat} {ps rest : List CodePoint} {v : Value},
    parseValue fuel room ps = .ok (v, rest) → v.Settled room (Proper ps) ∧ rest ⊆ ps
  items : ∀ {room : Nat} {ps rest : List CodePoint} {vs : List Value},
    parseItems fuel room ps = .ok (vs, rest) → (∀ v ∈ vs, v.Settled room (Proper ps)) ∧ rest ⊆ ps
  members : ∀ {room : Nat} {ps rest : List CodePoint} {entries : List (Value × Value)},
    parseMembers fuel room ps = .ok (entries, rest) →
      (∀ entry ∈ entries, Value.SettledKey (Proper ps) entry.1 ∧
        entry.2.Settled room (Proper ps)) ∧ rest ⊆ ps

theorem proper_of_subset {ps rest : List CodePoint} (subset : rest ⊆ ps) (proper : Proper ps) :
    Proper rest := fun p mem => proper p (subset mem)

namespace GivesSettled

variable {fuel : Nat}

theorem parseValue_succ (gives : GivesSettled fuel) {room : Nat} {ps rest : List CodePoint}
    {v : Value} (parsed : parseValue (fuel + 1) room ps = .ok (v, rest)) :
    v.Settled room (Proper ps) ∧ rest ⊆ ps := by
  rw [parseValue.eq_def] at parsed
  simp only at parsed
  split at parsed
  case h_1 =>
    split at parsed
    case h_1 read =>
      cases parsed
      obtain ⟨left, joined⟩ := of_readText? read
      have inside := List.subset_cons_of_subset (CodePoint.char '"') left
      exact ⟨Value.settled_str (fun proper => joined (proper_of_subset (List.subset_cons_self _ _)
        proper)) _, inside⟩
    case h_2 => cases parsed
  case h_2 => cases parsed
  case h_3 => cases parsed
  case h_4 opened =>
    have within : skipSpace opened ⊆ CodePoint.char '[' :: opened :=
      List.subset_cons_of_subset _ (skipSpace_subset _)
    split at parsed
    case h_1 closed =>
      cases parsed
      exact ⟨Value.settled_list (List.forall_mem_nil _),
        List.subset_cons_of_subset _ (subset_of_skipSpace closed)⟩
    case h_2 =>
      obtain ⟨⟨values, after⟩, inner, eq⟩ := map_eq_ok_iff.1 parsed
      cases eq
      obtain ⟨settled, left⟩ := gives.items inner
      exact ⟨Value.settled_list fun v mem => (settled v mem).imp (proper_of_subset within),
        List.Subset.trans left within⟩
  case h_5 opened =>
    have within : skipSpace opened ⊆ CodePoint.char '\x7b' :: opened :=
      List.subset_cons_of_subset _ (skipSpace_subset _)
    split at parsed
    case h_1 closed =>
      cases parsed
      exact ⟨Value.settled_map (List.forall_mem_nil _),
        List.subset_cons_of_subset _ (subset_of_skipSpace closed)⟩
    case h_2 =>
      obtain ⟨⟨entries, after⟩, inner, eq⟩ := map_eq_ok_iff.1 parsed
      cases eq
      obtain ⟨settled, left⟩ := gives.members inner
      refine ⟨Value.settled_map fun entry mem => ?_, List.Subset.trans left within⟩
      obtain ⟨⟨t, text, joined⟩, value⟩ := settled entry mem
      exact ⟨⟨t, text, joined ∘ proper_of_subset within⟩, value.imp (proper_of_subset within)⟩
  case h_6 => exact parseScalar_settled parsed _

theorem parseItems_succ (gives : GivesSettled fuel) {room : Nat} {ps rest : List CodePoint}
    {vs : List Value} (parsed : parseItems (fuel + 1) room ps = .ok (vs, rest)) :
    (∀ v ∈ vs, v.Settled room (Proper ps)) ∧ rest ⊆ ps := by
  rw [parseItems] at parsed
  cases first : parseValue fuel room ps with
  | error cause => rw [first] at parsed; cases parsed
  | ok read =>
    obtain ⟨value, rest⟩ := read
    obtain ⟨settled, left⟩ := gives.value first
    rw [first] at parsed
    simp only [bind, Except.bind] at parsed
    split at parsed
    case h_1 closed =>
      cases parsed
      exact ⟨List.forall_mem_singleton.2 settled, List.Subset.trans (subset_of_skipSpace closed) left⟩
    case h_2 more comma =>
      have within := List.Subset.trans (subset_of_skipSpace comma) left
      split at parsed
      · cases parsed
      case h_2 others later =>
        cases parsed
        obtain ⟨settled', left'⟩ := gives.items later
        have within' := List.Subset.trans (skipSpace_subset more) within
        exact ⟨List.forall_mem_cons.2 ⟨settled, fun v mem =>
          (settled' v mem).imp (proper_of_subset within')⟩, List.Subset.trans left' within'⟩
    case h_3 => cases parsed

theorem parseMembers_succ (gives : GivesSettled fuel) {room : Nat} {ps rest : List CodePoint}
    {entries : List (Value × Value)}
    (parsed : parseMembers (fuel + 1) room ps = .ok (entries, rest)) :
    (∀ entry ∈ entries, Value.SettledKey (Proper ps) entry.1 ∧
      entry.2.Settled room (Proper ps)) ∧ rest ⊆ ps := by
  rw [parseMembers.eq_def] at parsed
  simp only at parsed
  split at parsed
  case h_2 => cases parsed
  case h_1 opened =>
    split at parsed
    · cases parsed
    case h_2 key afterKey read =>
      obtain ⟨left, joined⟩ := of_readText? read
      have inner : opened ⊆ CodePoint.char '"' :: opened := List.subset_cons_self _ _
      have settledKey : Value.SettledKey (Proper (CodePoint.char '"' :: opened)) (.str key) :=
        ⟨key, rfl, joined ∘ proper_of_subset inner⟩
      split at parsed
      case h_2 => cases parsed
      case h_1 afterColon colon =>
        have within := List.Subset.trans (skipSpace_subset afterColon)
          (List.Subset.trans (subset_of_skipSpace colon) (List.Subset.trans left inner))
        cases first : parseValue fuel room (skipSpace afterColon) with
        | error cause => rw [first] at parsed; cases parsed
        | ok read =>
          obtain ⟨value, rest⟩ := read
          obtain ⟨settled, left⟩ := gives.value first
          have settled := settled.imp (proper_of_subset within)
          have within := List.Subset.trans left within
          rw [first] at parsed
          simp only [bind, Except.bind] at parsed
          split at parsed
          case h_1 closed =>
            cases parsed
            exact ⟨List.forall_mem_singleton.2 ⟨settledKey, settled⟩,
              List.Subset.trans (subset_of_skipSpace closed) within⟩
          case h_2 more comma =>
            have within := List.Subset.trans (skipSpace_subset more)
              (List.Subset.trans (subset_of_skipSpace comma) within)
            split at parsed
            · cases parsed
            case h_2 others later =>
              cases parsed
              obtain ⟨settled', left'⟩ := gives.members later
              refine ⟨List.forall_mem_cons.2 ⟨⟨settledKey, settled⟩, fun entry mem => ?_⟩,
                List.Subset.trans left' within⟩
              obtain ⟨⟨t, text, joined⟩, value⟩ := settled' entry mem
              exact ⟨⟨t, text, joined ∘ proper_of_subset within⟩,
                value.imp (proper_of_subset within)⟩
          case h_3 => cases parsed

end GivesSettled

theorem givesSettled (fuel : Nat) : GivesSettled fuel := by
  induction fuel with
  | zero => constructor <;> intros <;> simp_all [parseValue, parseItems, parseMembers]
  | succ fuel ih => exact ⟨ih.parseValue_succ, ih.parseItems_succ, ih.parseMembers_succ⟩

/-- What is read could have been written. Without surrogates, in it or in the text, it would be read as
the same again. -/
theorem parsePoints_settled {ps : List CodePoint} {v : Value} (parsed : parsePoints ps = .ok v) :
    v.Settled maxDepth (Proper ps) := by
  unfold parsePoints parseWithin at parsed
  cases read : parseValue (2 * ps.length + 2) maxDepth (skipSpace ps) with
  | error cause => rw [read] at parsed; cases parsed
  | ok given =>
    obtain ⟨value, rest⟩ := given
    rw [read] at parsed
    simp only [bind, Except.bind] at parsed
    split at parsed
    · cases parsed
      exact ((givesSettled _).value read).1.imp (proper_of_subset (skipSpace_subset ps))
    · cases parsed

end Json

end EventTracker
