import EventTracker.Store.SuperProperties

/-!
# What the operations of the store leave alone

Logging, saving and warnings touch neither the bag nor the source of ids, whatever the
storage does. So what an operation makes of the bag is decided before it is saved.
-/

namespace EventTracker.Store

variable (s : Store)

@[simp] theorem record_props (r : LogRecord) : (s.record r).props = s.props := rfl

@[simp] theorem record_ids (r : LogRecord) : (s.record r).ids = s.ids := rfl

@[simp] theorem save_props : s.save.props = s.props := by
  unfold save
  split
  · rfl
  · split <;> rfl

@[simp] theorem save_ids : s.save.ids = s.ids := by
  unfold save
  split
  · rfl
  · split <;> rfl

@[simp] theorem save_name : s.save.name = s.name := by
  unfold save
  split
  · rfl
  · split <;> rfl

@[simp] theorem clear_props : s.clear.props = [] := by
  unfold clear
  simp only
  split <;> rfl

@[simp] theorem clear_ids : s.clear.ids = s.ids := by
  unfold clear
  simp only
  split <;> rfl

@[simp] theorem clear_name : s.clear.name = s.name := by
  unfold clear
  simp only
  split <;> rfl

@[simp] theorem registerEntries_props (entries : List (String × Value)) :
    (s.registerEntries entries).props =
      s.props.overlay (entries.map fun (k, v) => (.str k, v)) := by
  rw [registerEntries, save_props]

@[simp] theorem registerEntries_ids (entries : List (String × Value)) :
    (s.registerEntries entries).ids = s.ids := by
  rw [registerEntries, save_ids]

/-! ## What becomes of the bag -/

/-- Adding properties once leaves the store as it is, or saves the bag with the new ones. -/
theorem registerOnce_cases (entries : Mapping) :
    s.registerOnce (.map entries) = (s, .ok ()) ∨
      s.registerOnce (.map entries) = (save { s with
        props := s.props.overlay (entries.filter fun entry => !s.props.contains entry.1) },
        .ok ()) := by
  rw [registerOnce]
  cases entries.filter fun entry => !s.props.contains entry.1 with
  | nil => exact .inl rfl
  | cons entry more => exact .inr rfl

/-- Removing a property is refused, or saves the bag without it. -/
theorem unregister_cases (key : Value) :
    (∃ fault, s.unregister key = (s, .error fault)) ∨
      s.unregister key = (save { s with props := s.props.erase key }, .ok ()) := by
  rw [unregister, Mapping.discard]
  by_cases removable : (s.props.isEmpty || key.hashable) = true
  · rw [if_pos removable]
    exact .inr rfl
  · rw [if_neg removable]
    exact .inl ⟨_, rfl⟩

theorem distinctId_congr {s t : Store} (props : t.props = s.props) :
    t.distinctId = s.distinctId := by
  rw [distinctId, distinctId, props]

theorem text?_distinctId {s : Store} (named : s.distinctId ≠ "") :
    s.props.text? distinctIdKey = some (.str s.distinctId) := by
  unfold distinctId at named ⊢
  split
  case h_1 held => exact held
  case h_2 none => exact absurd (by split <;> simp_all) named

theorem identify_of_nonempty {user : Text} (nonempty : user ≠ .plain "") :
    s.identify (.str user) =
      (s.registerEntries [(distinctIdKey, .str user), (userIdKey, .str user)], .ok s.distinctId) :=
  if_neg nonempty

/-- A store that differs from another at most in its log. -/
structure SameBut (s t : Store) : Prop where
  props : t.props = s.props
  ids : t.ids = s.ids
  name : t.name = s.name
  storage : t.storage = s.storage
  files : t.files = s.files

theorem withoutReserved_fst (patch : Value) : SameBut s (s.withoutReserved patch).1 := by
  unfold withoutReserved
  split
  · exact ⟨rfl, rfl, rfl, rfl, rfl⟩
  · split
    · simp only
      split <;> split <;> exact ⟨rfl, rfl, rfl, rfl, rfl⟩
    · exact ⟨rfl, rfl, rfl, rfl, rfl⟩

/-- What is left of what a caller gives for super-properties is what is not of the identity. -/
theorem eq_filter_of_withoutReserved {s s' : Store} {patch : Value} {entries : Mapping}
    (kept : s.withoutReserved patch = (s', .ok entries)) :
    ∃ given, patch = .map given ∧ entries = given.filter fun entry => !isReserved entry.1 := by
  unfold withoutReserved at kept
  split at kept
  · cases kept
  · split at kept
    · cases patch with
      | map given => exact ⟨given, rfl, (Except.ok.inj (Prod.mk.inj kept).2).symm⟩
      | _ => cases (Prod.mk.inj kept).2
    · cases kept

theorem mem_filter_own {given : Mapping} {entry : Value × Value}
    (mem : entry ∈ given.filter fun entry => !isReserved entry.1) :
    entry ∈ given ∧ isReserved entry.1 = false :=
  ⟨(List.mem_filter.1 mem).1, by simpa using (List.mem_filter.1 mem).2⟩

theorem withoutReserved_snd {entries : Mapping}
    (hashable : ∀ entry ∈ entries, entry.1.hashable = true) :
    (s.withoutReserved (.map entries)).2 =
      .ok (entries.filter fun entry => !isReserved entry.1) := by
  have keys : (entries.map Prod.fst).all Value.hashable = true := by
    rw [List.all_map, List.all_eq_true]
    exact hashable
  rw [withoutReserved, Value.items?]
  simp only [keys, if_true]

/-- A mapping under keys that can be keys loses the entries of the identity. -/
theorem exists_withoutReserved_eq {entries : Mapping}
    (hashable : ∀ entry ∈ entries, entry.1.hashable = true) :
    ∃ warned, SameBut s warned ∧ s.withoutReserved (.map entries) =
      (warned, .ok (entries.filter fun entry => !isReserved entry.1)) :=
  ⟨_, s.withoutReserved_fst _, Prod.ext rfl (s.withoutReserved_snd hashable)⟩

/-- Removing a super-property changes at most the log, or is the removal of a property that is not of
the identity. -/
theorem unregisterSuper_cases (key : Value) :
    SameBut s (s.unregisterSuper key).1 ∨
      isReserved key = false ∧ s.unregisterSuper key = s.unregister key := by
  rw [unregisterSuper]
  split
  · exact .inl ⟨rfl, rfl, rfl, rfl, rfl⟩
  case isFalse own =>
    split
    · exact .inr ⟨eq_false_of_ne_true own, rfl⟩
    · exact .inl ⟨rfl, rfl, rfl, rfl, rfl⟩

end EventTracker.Store
