import EventTracker.Proofs.Tracker.Requests

/-!
# What actions make of the bag

An action changes the bag of the current tracker as the one call to the store does that
it stands for; requests other than those of `identify`, flushing, look-ups and the
configuration leave the bag alone.
-/

namespace EventTracker

/-- What an action does with the tracker's store. -/
def Action.onStore (s : Store) : Action → Store
  | .request (.identify id _) => (s.identify id).1
  | .register patch => (s.registerSuper patch).1
  | .registerOnce patch => (s.registerSuperOnce patch).1
  | .unregister key => (s.unregisterSuper key).1
  | .reset => s.reset
  | _ => s

variable {w : World} {t : Tracker}

theorem World.Serves.tracker_eq {t' : Tracker} (serves : w.Serves t) (serves' : w.Serves t') :
    t' = t :=
  List.singleton_inj.1 (serves'.alone.symm.trans serves.alone)

/-- What `identify` schedules, it schedules on the bag with the new user. -/
theorem exists_schedules_identify (serves : w.Serves t) (id callback : Value) :
    ∃ made, w.Schedules (w.identify t id callback).1
      { t with props := ((w.store t).identify id).1.props } made := by
  unfold World.identify
  cases identified : (w.store t).identify id with
  | mk s result =>
    have stored := serves.schedules_withStore s
    cases result with
    | error fault => exact ⟨[], stored⟩
    | ok previous =>
      have serves := stored.serves serves
      have comes := comesTo_track serves.current (.str "$identify")
        (World.identifyProperties previous id) callback
      rw [serves.place] at comes
      obtain ⟨made, schedules, -⟩ := serves.exists_schedules comes fun _ made => made.owner_eq
      exact ⟨made, stored.after schedules⟩

/-- After an action the client still serves its only tracker, whose bag is what the action makes of
the store. -/
theorem exists_bag (serves : w.Serves t) (action : Action) :
    ∃ t', (action.perform w t).1.Serves t' ∧
      t'.props = (action.onStore (w.store t)).props := by
  have others (call : ClientCall) (anonymous : ∀ id callback, call ≠ .identify id callback) :
      (call.perform w t).1.Serves t := by
    have comes := comesTo_perform serves.current call anonymous
    rw [serves.place] at comes
    obtain ⟨made, schedules, -⟩ := serves.exists_schedules comes fun _ made => made.owner_eq
    exact schedules.serves serves
  cases action with
  | request call =>
    cases call with
    | identify id callback =>
      obtain ⟨made, schedules⟩ := exists_schedules_identify serves id callback
      exact ⟨_, schedules.serves serves, rfl⟩
    | _ => exact ⟨t, others _ (by rintro _ _ ⟨⟩), rfl⟩
  | register patch | registerOnce patch | unregister key | reset =>
    exact ⟨_, (serves.schedules_withStore _).serves serves, rfl⟩
  | property key | distinctId => exact ⟨t, serves, rfl⟩
  | configure patch more =>
    obtain ⟨config, schedules⟩ := exists_schedules_configure serves patch more
    exact ⟨_, schedules.serves serves, rfl⟩
  | flush =>
    obtain ⟨channel, session, made, after, -, -⟩ := advances_flush serves
    exact ⟨_, after, rfl⟩

/-- What holds of the bag, and goes on to hold whatever the actions of a run do with the store, holds
of the bag after the run. -/
theorem exists_bag_run {P : Mapping → Prop} {Q : Action → Prop} (serves : w.Serves t)
    (bag : P t.props)
    (keeps : ∀ (s : Store) (action : Action), P s.props → Q action → P (action.onStore s).props)
    {steps : List TrackerStep} (all : ∀ step ∈ steps, Q step.action) :
    ∃ t', (w.run steps).Serves t' ∧ P t'.props := by
  induction steps generalizing w t with
  | nil => exact ⟨t, serves, bag⟩
  | cons step rest ih =>
    rw [List.forall_mem_cons] at all
    have here : ({ w with looping := step.looping } : World).Serves t :=
      ⟨serves.alone, serves.owners, serves.connected⟩
    obtain ⟨t₁, serves₁, props⟩ := exists_bag here step.action
    rw [← World.take_eq serves] at serves₁
    refine ih serves₁ ?_ all.2
    rw [props]
    exact keeps _ step.action bag all.1

/-! ## Changes of the bag -/

/-- How an action changes the bag of a store: not at all, or by what it registers or removes beside
the identity, or by a new user, or by a new device. -/
inductive Action.Changes (s : Store) : Action → Mapping → Prop
  | none {action : Action} : Changes s action s.props
  | merge {action : Action} {given entries : Mapping}
      (asked : action = .register (.map given) ∨ action = .registerOnce (.map given))
      (own : ∀ entry ∈ entries, entry ∈ given ∧ isReserved entry.1 = false) :
      Changes s action (s.props.overlay entries)
  | remove {key : Value} (own : isReserved key = false) :
      Changes s (.unregister key) (s.props.erase key)
  | identify {id : Text} {callback : Value} (nonempty : id ≠ "") :
      Changes s (.request (.identify (.str id) callback))
        (s.props.overlay [(.str distinctIdKey, .str id), (.str userIdKey, .str id)])
  | reset : Changes s .reset
      (Mapping.overlay [] [(.str distinctIdKey, .str (deviceMark ++ s.ids.device.1)),
        (.str deviceIdKey, .str s.ids.device.1)])

/-- Every action changes the bag in one of these ways. -/
theorem Action.changes_onStore (s : Store) (action : Action) :
    action.Changes s (action.onStore s).props := by
  cases action with
  | request call =>
    cases call with
    | identify id callback =>
      cases id with
      | str text =>
        rw [onStore, Store.identify]
        split
        · exact .none
        case isFalse nonempty =>
          rw [Store.registerEntries_props]
          exact .identify nonempty
      | _ => exact .none
    | _ => exact .none
  | register patch =>
    have same := (s.withoutReserved_fst patch).props
    rw [onStore, Store.registerSuper]
    split
    case h_1 warned entries kept =>
      obtain ⟨given, rfl, rfl⟩ := Store.eq_filter_of_withoutReserved kept
      rw [kept] at same
      simp only at same
      rw [Store.register, Mapping.absorb]
      simp only [Store.save_props, same]
      exact .merge (.inl rfl) fun entry => Store.mem_filter_own
    case h_2 warned fault refused =>
      rw [refused] at same
      rw [same]
      exact .none
  | registerOnce patch =>
    have same := (s.withoutReserved_fst patch).props
    rw [onStore, Store.registerSuperOnce]
    split
    case h_1 warned entries kept =>
      obtain ⟨given, rfl, rfl⟩ := Store.eq_filter_of_withoutReserved kept
      rw [kept] at same
      simp only at same
      rcases warned.registerOnce_cases (given.filter fun entry => !isReserved entry.1) with
        nothing | saved
      · rw [nothing, same]
        exact .none
      · rw [saved, Store.save_props, same]
        exact .merge (.inr rfl) fun entry mem => Store.mem_filter_own (List.mem_filter.1 mem).1
    case h_2 warned fault refused =>
      rw [refused] at same
      rw [same]
      exact .none
  | unregister key =>
    rw [onStore]
    rcases s.unregisterSuper_cases key with same | ⟨own, removed⟩
    · rw [same.props]
      exact .none
    · rw [removed]
      rcases s.unregister_cases key with ⟨fault, refused⟩ | saved
      · rw [refused]
        exact .none
      · rw [saved, Store.save_props]
        exact .remove own
  | reset =>
    have props : (Store.reset s).props = Mapping.overlay [] [
        (.str distinctIdKey, .str (deviceMark ++ s.ids.device.1)),
        (.str deviceIdKey, .str s.ids.device.1)] := by
      rw [Store.reset, Store.enterAnonymous, Store.record_props, Store.registerEntries_props]
      simp only [Store.clear_props, Store.clear_ids]
      rfl
    rw [onStore, props]
    exact .reset
  | _ => exact .none

/-! ## Bags that are not nested too deeply -/

/-- A value that can be cut as a part of a payload, some levels below the top. -/
def Value.FitsBelow (levels : Nat) (v : Value) : Prop := v.depth + levels ≤ maxCutDepth

theorem Value.fitsBelow_map_iff {levels : Nat} {entries : Mapping} (room : levels < maxCutDepth) :
    (Value.map entries).FitsBelow levels ↔ ∀ entry ∈ entries, entry.2.FitsBelow (levels + 1) := by
  have bound (n : Nat) : n + (levels + 1) ≤ maxCutDepth ↔ n ≤ maxCutDepth - (levels + 1) :=
    (Nat.le_sub_iff_add_le room).symm
  simp only [FitsBelow, Value.depth, bound, ← Value.entriesDepth_le_iff]
  rw [Nat.add_assoc, Nat.add_comm 1, bound]

/-- Whether what an action puts into the bag can stand there in a payload. -/
def Action.RegistersFitting : Action → Prop
  | .register patch | .registerOnce patch => patch.FitsBelow 1
  | _ => True

/-- A bag gets no deeper than what is registered. -/
theorem Action.Changes.fitsBelow {s : Store} {action : Action} {props : Mapping}
    (changes : action.Changes s props) (bag : (Value.map s.props).FitsBelow 1)
    (fitting : action.RegistersFitting) : (Value.map props).FitsBelow 1 := by
  have room : 1 < maxCutDepth := by decide
  have text (t : Text) : (Value.str t).FitsBelow 2 := show 0 + 2 ≤ maxCutDepth by decide
  rw [Value.fitsBelow_map_iff room] at bag ⊢
  cases changes with
  | none => exact bag
  | merge asked own =>
    rcases asked with rfl | rfl <;>
      exact Entries.forall_value_overlay bag fun entry mem =>
        (Value.fitsBelow_map_iff room).1 fitting entry (own entry mem).1
  | remove own => exact fun entry mem => bag entry (Entries.mem_of_mem_erase mem)
  | identify nonempty =>
    refine Entries.forall_value_overlay bag ?_
    simp only [List.forall_mem_cons]
    exact ⟨text _, text _, List.forall_mem_nil _⟩
  | reset =>
    refine Entries.forall_value_overlay (List.forall_mem_nil _) ?_
    simp only [List.forall_mem_cons]
    exact ⟨text _, text _, List.forall_mem_nil _⟩

end EventTracker
