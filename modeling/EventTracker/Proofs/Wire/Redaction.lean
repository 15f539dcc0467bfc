import EventTracker.Proofs.Wire.Truncation

/-!
# What the log shows of a payload

Payloads that differ only in what stands under token keys, however deep, are copied for the
log alike. Elsewhere the copy of a cut payload shows what stands in it: cutting has turned
tuples into lists, into which `redact` goes, and has left no text that is long enough to be
cut again. Copying a copy changes nothing.
-/

namespace EventTracker

mutual

/-- Values that are the same but for what stands under token keys, at any depth. -/
inductive Value.SameUnmasked : Value → Value → Prop where
  | refl (v : Value) : Value.SameUnmasked v v
  | list {items items' : List Value} (all : List.Forall₂ Value.SameUnmasked items items') :
    Value.SameUnmasked (.list items) (.list items')
  | tuple {items items' : List Value} (all : List.Forall₂ Value.SameUnmasked items items') :
    Value.SameUnmasked (.tuple items) (.tuple items')
  | map {entries entries' : Mapping} (all : Mapping.SameUnmasked entries entries') :
    Value.SameUnmasked (.map entries) (.map entries')

/-- Entries that are the same but for what stands under token keys. -/
inductive Mapping.SameUnmasked : Mapping → Mapping → Prop where
  | nil : Mapping.SameUnmasked [] []
  | masked {key : Value} (token : isTokenKey key = true) (v v' : Value) {rest rest' : Mapping}
    (others : Mapping.SameUnmasked rest rest') :
    Mapping.SameUnmasked ((key, v) :: rest) ((key, v') :: rest')
  | unmasked (key : Value) {v v' : Value} (same : Value.SameUnmasked v v') {rest rest' : Mapping}
    (others : Mapping.SameUnmasked rest rest') :
    Mapping.SameUnmasked ((key, v) :: rest) ((key, v') :: rest')

end

/-- What a value is, but for what it contains: a container has a size, and a mapping its keys. -/
inductive Outline where
  | list (size : Nat)
  | tuple (size : Nat)
  | map (keys : List Value)
  | scalar (v : Value)

namespace Value

def outline : Value → Outline
  | .list items => .list items.length
  | .tuple items => .tuple items.length
  | .map entries => .map (entries.map Prod.fst)
  | v => .scalar v

/-- What stands at a position, given by places in containers, if it is not below a token key. -/
def unmasked? : List Nat → Value → Option Value
  | [], v => some v
  | i :: path, .list items | i :: path, .tuple items => items[i]?.bind (unmasked? path)
  | i :: path, .map entries =>
    entries[i]?.bind fun (key, v) => if isTokenKey key then none else unmasked? path v
  | _ :: _, _ => none

end Value

/-! ## Masking -/

theorem redactItems_eq_map (length : Int) (items : List Value) :
    redactItems length items = items.map (redact length) := by
  induction items with
  | nil => rfl
  | cons v rest ih => rw [redactItems, ih, List.map_cons]

theorem redactEntries_eq_map (length : Int) (entries : Mapping) :
    redactEntries length entries = entries.map fun entry =>
      (entry.1, if isTokenKey entry.1 then .str "<redacted>" else redact length entry.2) := by
  induction entries with
  | nil => rfl
  | cons entry rest ih => rw [redactEntries, ih, List.map_cons]

variable {v w : Value}

/-- Values that are the same but for what stands under token keys are copied alike. -/
theorem Value.SameUnmasked.redact_truncate (same : v.SameUnmasked w) (length limit : Int) :
    redact length (truncate limit w) = redact length (truncate limit v) := by
  have items {items items' : List Value}
      (ih : ∀ v ∈ items, ∀ {w : Value}, v.SameUnmasked w →
        redact length (truncate limit w) = redact length (truncate limit v))
      (all : List.Forall₂ Value.SameUnmasked items items') :
      redactItems length (truncateItems limit items') =
        redactItems length (truncateItems limit items) := by
    induction all with
    | nil => rfl
    | cons first others rest =>
      obtain ⟨here, later⟩ := List.forall_mem_cons.1 ih
      rw [truncateItems, redactItems, truncateItems, redactItems, here first, rest later]
  induction v using Value.containerInduction generalizing w with
  | list _ ih =>
    cases same with
    | refl => rfl
    | list all => rw [truncate, redact, truncate, redact, items ih all]
  | tuple _ ih =>
    cases same with
    | refl => rfl
    | tuple all => rw [truncate, redact, truncate, redact, items ih all]
  | map entries ih =>
    cases same with
    | refl => rfl
    | @map _ entries' all =>
      rw [truncate, redact, truncate, redact]
      congr 1
      induction entries generalizing entries' with
      | nil =>
        cases all
        rfl
      | cons entry rest ih' =>
        obtain ⟨here, later⟩ := List.forall_mem_cons.1 ih
        cases all with
        | masked token v v' others =>
          rw [truncateEntries, truncateEntries, redactEntries, redactEntries, if_pos token,
            if_pos token, ih' later others]
        | unmasked key same others =>
          rw [truncateEntries, truncateEntries, redactEntries, redactEntries, here same,
            ih' later others]
  | _ =>
    cases same
    rfl

/-! ## What is shown -/

/-- In the copy of a cut value, which holds no tuples, there is at each position the copy of what
is there. -/
theorem unmasked?_redact_truncate (length limit : Int) (path : List Nat) (v : Value) :
    ((redact length (truncate limit v)).unmasked? path) =
        (v.unmasked? path).map (fun shown => redact length (truncate limit shown)) ∧
      (truncate limit v).unmasked? path = (v.unmasked? path).map (truncate limit) := by
  induction path generalizing v with
  | nil => exact ⟨rfl, rfl⟩
  | cons i path ih =>
    cases v with
    | list items | tuple items =>
      simp only [truncate, redact, truncateItems_eq_map, redactItems_eq_map, Value.unmasked?,
        List.getElem?_map]
      cases items[i]? with
      | none => exact ⟨rfl, rfl⟩
      | some item => exact ih item
    | map entries =>
      simp only [truncate, redact, truncateEntries_eq_map, redactEntries_eq_map, Value.unmasked?,
        List.getElem?_map]
      cases entries[i]? with
      | none => exact ⟨rfl, rfl⟩
      | some entry =>
        simp only [Option.map_some, Option.bind_some]
        cases isTokenKey entry.1 with
        | true => exact ⟨rfl, rfl⟩
        | false => exact ih entry.2
    | str s =>
      rw [truncate, redact]
      split <;> exact ⟨rfl, rfl⟩
    | _ => exact ⟨rfl, rfl⟩

/-- A text that was cut is short enough to be shown as it is. -/
theorem outline_redact_truncate {length limit : Nat} (fits : limit ≤ length) (v : Value) :
    (redact length (truncate limit v)).outline = (truncate limit v).outline := by
  cases v with
  | str s =>
    have short : (cutText limit s).length ≤ limit := by
      rw [Text.length_eq, points_cutText]
      exact List.length_take_le _ _
    rw [truncate, redact, if_neg (by omega)]
  | list items | tuple items =>
    rw [truncate, redact, Value.outline, Value.outline, redactItems_eq_map, List.length_map]
  | map entries =>
    rw [truncate, redact, Value.outline, Value.outline, redactEntries_eq_map, List.map_map]
    rfl
  | _ => rfl

/-! ## Copies of copies -/

/-- What is cut and marked is cut to the same front again. -/
theorem cutText_marked {length : Nat} {t : Text} (long : length < t.length) (mark : Text) :
    cutText length (cutText length t ++ mark) = cutText length t := by
  rw [Text.length_eq] at long
  have full : (t.points.take length).length = length := by
    rw [List.length_take]
    omega
  apply Text.points_injective
  rw [points_cutText, Text.points_append, points_cutText, List.take_left' full]

theorem redact_redact (length : Nat) (v : Value) :
    redact length (redact length v) = redact length v := by
  induction v using Value.containerInduction with
  | str s =>
    rw [redact]
    split
    case isTrue long =>
      have long : length < s.length := by omega
      rw [redact, if_pos, cutText_marked long]
      have front : (cutText length s).points.length = length := by
        rw [Text.length_eq] at long
        rw [points_cutText, List.length_take]
        omega
      rw [Text.length_eq, Text.points_append, List.length_append, front]
      have marked : (Text.plain "<truncated>").points.length = 11 := rfl
      omega
    case isFalse short => rw [redact, if_neg short]
  | list items ih =>
    simp only [redact, redactItems_eq_map, List.map_map]
    exact congrArg Value.list (List.map_congr_left ih)
  | map entries ih =>
    simp only [redact, redactEntries_eq_map, List.map_map]
    refine congrArg Value.map (List.map_congr_left fun entry mem => ?_)
    rw [Function.comp_apply]
    cases isTokenKey entry.1 with
    | true => rfl
    | false => exact congrArg (entry.1, ·) (ih entry mem)
  | tuple items ih => rfl
  | _ => rfl

/-! ## Depth -/

/-- A value that can be cut can be copied for the log when it is cut. -/
theorem redactedDepth_truncate_le (limit : Int) (v : Value) :
    redactedDepth (truncate limit v) ≤ v.depth := by
  have items {items : List Value} (each : ∀ v ∈ items, redactedDepth (truncate limit v) ≤ v.depth) :
      redactedItemsDepth (truncateItems limit items) ≤ Value.itemsDepth items := by
    induction items with
    | nil => exact Nat.le_refl _
    | cons v rest ih =>
      obtain ⟨here, others⟩ := List.forall_mem_cons.1 each
      have later := ih others
      rw [truncateItems, redactedItemsDepth, Value.itemsDepth]
      omega
  induction v using Value.containerInduction with
  | list _ ih | tuple _ ih =>
    rw [truncate, redactedDepth, Value.depth]
    exact Nat.succ_le_succ (items ih)
  | map entries ih =>
    rw [truncate, redactedDepth, Value.depth]
    apply Nat.succ_le_succ
    induction entries with
    | nil => exact Nat.le_refl _
    | cons entry rest ih' =>
      obtain ⟨here, others⟩ := List.forall_mem_cons.1 ih
      have later := ih' others
      rw [truncateEntries, redactedEntriesDepth, Value.entriesDepth]
      split <;> omega
  | _ => exact Nat.le_refl _

theorem redactedDepth_redact (length : Int) (v : Value) :
    redactedDepth (redact length v) = redactedDepth v := by
  induction v using Value.containerInduction with
  | str s =>
    rw [redact]
    split <;> rfl
  | list items ih =>
    rw [redact, redactedDepth, redactedDepth]
    congr 1
    induction items with
    | nil => rfl
    | cons v rest ih' =>
      obtain ⟨here, others⟩ := List.forall_mem_cons.1 ih
      rw [redactItems, redactedItemsDepth, redactedItemsDepth, here, ih' others]
  | map entries ih =>
    rw [redact, redactedDepth, redactedDepth]
    congr 1
    induction entries with
    | nil => rfl
    | cons entry rest ih' =>
      obtain ⟨here, others⟩ := List.forall_mem_cons.1 ih
      rw [redactEntries, redactedEntriesDepth, redactedEntriesDepth, ih' others]
      cases isTokenKey entry.1 with
      | true => rfl
      | false => rw [if_neg Bool.false_ne_true, if_neg Bool.false_ne_true,
          if_neg Bool.false_ne_true, here]
  | tuple items ih => rfl
  | _ => rfl

/-- The copy of a copy is that copy, and it is there whenever the copy is. -/
theorem redacted_redacted (length : Nat) (v : Value) :
    (redacted length v).bind (redacted length) = redacted length v := by
  unfold redacted
  split
  case isTrue shallow =>
    show (if redactedDepth (redact length v) ≤ maxCutDepth then _ else _) = _
    rw [redactedDepth_redact, if_pos shallow, redact_redact]
  case isFalse => rfl

/-- What the log shows of a cut payload does not depend on what stands under token keys, and
elsewhere it is what stands in the payload, position by position. Every payload that can be cut can
be shown, and what is shown stays the same when it is copied again. -/
theorem redaction_hides_tokens_only {v w : Value} (same : v.SameUnmasked w) :
    redact maxLoggedLength (truncate maxTextLength v) =
        redact maxLoggedLength (truncate maxTextLength w) ∧
      (∀ path, ((redact maxLoggedLength (truncate maxTextLength v)).unmasked? path).map
          Value.outline =
        ((truncate maxTextLength v).unmasked? path).map Value.outline) ∧
      (∀ cut, truncated maxTextLength v = .ok cut → cut = truncate maxTextLength v ∧
        redacted maxLoggedLength cut = .ok (redact maxLoggedLength cut)) ∧
      ∀ (x : Value) (length : Int), 0 ≤ length →
        redact length (redact length x) = redact length x ∧
          (redacted length x).bind (redacted length) = redacted length x := by
  refine ⟨?_, ?_, ?_, ?_⟩
  · exact (same.redact_truncate _ _).symm
  · intro path
    obtain ⟨shown, cut⟩ := unmasked?_redact_truncate maxLoggedLength maxTextLength path v
    rw [shown, cut, Option.map_map, Option.map_map]
    congr 1
    funext here
    have longer : 255 ≤ 512 := by decide
    exact outline_redact_truncate longer here
  · intro cut made
    unfold truncated at made
    split at made
    case isFalse => cases made
    case isTrue shallow =>
      cases made
      have reached := redactedDepth_truncate_le maxTextLength v
      refine ⟨rfl, ?_⟩
      rw [redacted, if_pos (by omega)]
  · intro x length nonnegative
    obtain ⟨length, rfl⟩ := Int.eq_ofNat_of_zero_le nonnegative
    exact ⟨redact_redact length x, redacted_redacted length x⟩

/-- Two payloads with tokens of their own in a list of a tuple. -/
theorem redaction_hides_tokens_only_nested :
    redact maxLoggedLength (truncate maxTextLength
        (.tuple [.list [.map [(.str "$token", .str "a"), (.str "x", .int 1)]]])) =
      redact maxLoggedLength (truncate maxTextLength
        (.tuple [.list [.map [(.str "$token", .list [.null]), (.str "x", .int 1)]]])) := by
  refine (redaction_hides_tokens_only ?_).1
  refine .tuple (.cons (.list (.cons (.map ?_) .nil)) .nil)
  exact .masked rfl _ _ (.unmasked _ (.refl _) .nil)

end EventTracker
