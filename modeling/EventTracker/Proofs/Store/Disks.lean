import EventTracker.Store.Composition
import EventTracker.Store.SuperProperties

/-!
# Stores on different disks

A store reads its disk only when it is opened. Afterwards no operation depends on the
disk: from another disk it comes to the same store and the same result, again on another
disk. So it does not matter which accesses to the storage fail.
-/

namespace EventTracker.Store

variable (s : Store) (d : Disk)

@[simp] theorem onDisk_props : (s.onDisk d).props = s.props := rfl

theorem exists_save_eq : ∃ d', s.save = s.onDisk d' := by
  unfold save
  split
  · exact ⟨(s.recordFailure _).toDisk, rfl⟩
  · split
    · exact ⟨_, rfl⟩
    · exact ⟨((s.onDisk _).recordFailure _).toDisk, rfl⟩

theorem exists_clear_eq : ∃ d', s.clear = ({ s with props := [] } : Store).onDisk d' := by
  unfold clear
  simp only
  split
  · exact ⟨_, rfl⟩
  · exact ⟨((s.onDisk _).recordFailure _).toDisk, rfl⟩

/-! ## Operations that draw nothing -/

/-- A store that differs from another in its bag and its disk at most: no id was drawn in between,
and the clock was not read. -/
def Undrawn (s t : Store) : Prop := ∃ props d, t = ({ s with props } : Store).onDisk d

namespace Undrawn

variable {s} {t : Store}

theorem refl (s : Store) : s.Undrawn s := ⟨s.props, s.toDisk, rfl⟩

theorem trans {u : Store} (first : s.Undrawn t) (later : t.Undrawn u) : s.Undrawn u := by
  obtain ⟨props, d, rfl⟩ := first
  obtain ⟨props', d', rfl⟩ := later
  exact ⟨props', d', rfl⟩

theorem ids (undrawn : s.Undrawn t) : t.ids = s.ids := by
  obtain ⟨props, d, rfl⟩ := undrawn
  rfl

theorem clock (undrawn : s.Undrawn t) : t.clock = s.clock := by
  obtain ⟨props, d, rfl⟩ := undrawn
  rfl

theorem save (s : Store) (props : Mapping) : s.Undrawn ({ s with props } : Store).save := by
  obtain ⟨d, same⟩ := exists_save_eq { s with props }
  exact ⟨props, d, same⟩

theorem clear (s : Store) : s.Undrawn s.clear := by
  obtain ⟨d, same⟩ := s.exists_clear_eq
  exact ⟨[], d, same⟩

theorem record (s : Store) (r : LogRecord) : s.Undrawn (s.record r) :=
  ⟨s.props, { s.toDisk with log := s.log ++ [r] }, rfl⟩

theorem registerEntries (s : Store) (entries : List (String × Value)) :
    s.Undrawn (s.registerEntries entries) :=
  save s _

theorem identify (s : Store) (id : Value) : s.Undrawn (s.identify id).1 := by
  unfold Store.identify
  split
  · split
    · exact refl s
    · exact registerEntries s _
  · exact refl s

theorem register (s : Store) (patch : Value) : s.Undrawn (s.register patch).1 := by
  unfold Store.register
  split
  · exact save s _
  case h_2 props _ _ => exact ⟨props, s.toDisk, rfl⟩

theorem registerOnce (s : Store) (patch : Value) : s.Undrawn (s.registerOnce patch).1 := by
  unfold Store.registerOnce
  split
  · split
    · exact refl s
    · exact save s _
  · exact refl s

theorem unregister (s : Store) (key : Value) : s.Undrawn (s.unregister key).1 := by
  unfold Store.unregister
  split
  · exact save s _
  · exact refl s

theorem withoutReserved (s : Store) (patch : Value) : s.Undrawn (s.withoutReserved patch).1 := by
  unfold Store.withoutReserved
  split
  · exact refl s
  · split
    · simp only
      split <;> split
      · exact refl s
      · exact record s _
      · exact refl s
      · exact record s _
    · exact refl s

theorem registerSuper (s : Store) (patch : Value) : s.Undrawn (s.registerSuper patch).1 := by
  have warned := withoutReserved s patch
  unfold Store.registerSuper
  split
  case h_1 same =>
    rw [same] at warned
    exact warned.trans (register _ _)
  case h_2 same =>
    rw [same] at warned
    exact warned

theorem registerSuperOnce (s : Store) (patch : Value) :
    s.Undrawn (s.registerSuperOnce patch).1 := by
  have warned := withoutReserved s patch
  unfold Store.registerSuperOnce
  split
  case h_1 same =>
    rw [same] at warned
    exact warned.trans (registerOnce _ _)
  case h_2 same =>
    rw [same] at warned
    exact warned

theorem unregisterSuper (s : Store) (key : Value) : s.Undrawn (s.unregisterSuper key).1 := by
  unfold Store.unregisterSuper
  split
  · exact record s _
  · split
    · exact unregister s key
    · exact refl s

end Undrawn

/-- Entering the anonymous state draws one device id. -/
theorem undrawn_enterAnonymous : ({ s with ids := s.ids.device.2 } : Store).Undrawn s.enterAnonymous :=
  (Undrawn.registerEntries _ _).trans (.record _ _)

/-! ## Blindness -/

/-- An operation that comes to the same store on every disk. -/
def Blind (op : Store → Store) : Prop :=
  ∀ (s : Store) (d : Disk), ∃ d', op (s.onDisk d) = (op s).onDisk d'

/-- An operation that comes to the same store and the same result on every disk. -/
def BlindTo {α : Type} (op : Store → Store × α) : Prop :=
  ∀ (s : Store) (d : Disk), ∃ d', op (s.onDisk d) = ((op s).1.onDisk d', (op s).2)

theorem blind_save : Blind save := by
  intro s d
  obtain ⟨d₁, first⟩ := (s.onDisk d).exists_save_eq
  obtain ⟨d₂, other⟩ := s.exists_save_eq
  exact ⟨d₁, by rw [first, other]; rfl⟩

theorem blind_clear : Blind clear := by
  intro s d
  obtain ⟨d₁, first⟩ := (s.onDisk d).exists_clear_eq
  obtain ⟨d₂, other⟩ := s.exists_clear_eq
  exact ⟨d₁, by rw [first, other]; rfl⟩

theorem Blind.comp {op next : Store → Store} (later : Blind next) (first : Blind op) :
    Blind fun s => next (op s) := by
  intro s d
  obtain ⟨d', same⟩ := first s d
  obtain ⟨d'', same'⟩ := later (op s) d'
  exact ⟨d'', (congrArg next same).trans same'⟩

theorem blind_record (r : LogRecord) : Blind (record · r) :=
  fun _ d => ⟨{ d with log := d.log ++ [r] }, rfl⟩

theorem blind_registerEntries (entries : List (String × Value)) :
    Blind (registerEntries · entries) :=
  fun s d => blind_save { s with props := _ } d

theorem blind_enterAnonymous : Blind enterAnonymous := fun s d =>
  ((blind_record _).comp (blind_registerEntries _)) { s with ids := s.ids.device.2 } d

theorem blind_ensureIdentity : Blind ensureIdentity := by
  intro s d
  unfold ensureIdentity
  by_cases anonymous : s.distinctId = ""
  · obtain ⟨d', same⟩ := blind_enterAnonymous s d
    exact ⟨d', by rw [if_pos anonymous, ← same]; exact if_pos anonymous⟩
  · exact ⟨d, by rw [if_neg anonymous]; exact if_neg anonymous⟩

theorem blind_reset : Blind reset := blind_enterAnonymous.comp blind_clear

theorem blindTo_identify (id : Value) : BlindTo (identify · id) := by
  intro s d
  unfold identify
  split
  case h_1 text =>
    by_cases empty : text = ""
    · simp only [if_pos empty]
      exact ⟨d, rfl⟩
    · simp only [if_neg empty]
      obtain ⟨d', same⟩ := blind_registerEntries [(distinctIdKey, .str text), (userIdKey, .str text)] s d
      exact ⟨d', Prod.ext same rfl⟩
  · exact ⟨d, rfl⟩

theorem blindTo_register (patch : Value) : BlindTo (register · patch) := by
  intro s d
  simp only [register, onDisk_props]
  obtain ⟨props, _ | kind⟩ := s.props.absorb patch
  · obtain ⟨d', same⟩ := blind_save { s with props } d
    exact ⟨d', Prod.ext same rfl⟩
  · exact ⟨d, rfl⟩

theorem blindTo_registerOnce (patch : Value) : BlindTo (registerOnce · patch) := by
  intro s d
  simp only [registerOnce, onDisk_props]
  cases patch with
  | map entries =>
    simp only
    cases entries.filter fun entry => !s.props.contains entry.1 with
    | nil => exact ⟨d, rfl⟩
    | cons entry more =>
      obtain ⟨d', same⟩ := blind_save { s with props := s.props.overlay (entry :: more) } d
      exact ⟨d', Prod.ext same rfl⟩
  | _ => exact ⟨d, rfl⟩

theorem blindTo_unregister (key : Value) : BlindTo (unregister · key) := by
  intro s d
  simp only [unregister, onDisk_props]
  cases s.props.discard key with
  | ok props =>
    obtain ⟨d', same⟩ := blind_save { s with props } d
    exact ⟨d', Prod.ext same rfl⟩
  | error kind => exact ⟨d, rfl⟩

theorem blindTo_withoutReserved (patch : Value) : BlindTo (withoutReserved · patch) := by
  intro s d
  unfold withoutReserved
  split
  · exact ⟨d, rfl⟩
  · split
    · simp only
      split <;> split
      · exact ⟨d, rfl⟩
      · exact ⟨{ d with log := d.log ++ [_] }, rfl⟩
      · exact ⟨d, rfl⟩
      · exact ⟨{ d with log := d.log ++ [_] }, rfl⟩
    · exact ⟨d, rfl⟩

/-- What goes on with the super-properties of a mapping. -/
theorem blindTo_withSuper {op : Store → Mapping → Store × Except Fault Unit}
    (blind : ∀ entries, BlindTo (op · entries)) (patch : Value) :
    BlindTo fun s => match s.withoutReserved patch with
      | (s, .ok entries) => op s entries
      | (s, .error fault) => (s, .error fault) := by
  intro s d
  obtain ⟨d', same⟩ := blindTo_withoutReserved patch s d
  simp only at same ⊢
  rw [same]
  obtain ⟨warned, _ | entries⟩ := s.withoutReserved patch
  · exact ⟨d', rfl⟩
  · exact blind entries warned d'

theorem blindTo_registerSuper (patch : Value) : BlindTo (registerSuper · patch) :=
  blindTo_withSuper (fun entries => blindTo_register (.map entries)) patch

theorem blindTo_registerSuperOnce (patch : Value) : BlindTo (registerSuperOnce · patch) :=
  blindTo_withSuper (fun entries => blindTo_registerOnce (.map entries)) patch

theorem blindTo_unregisterSuper (key : Value) : BlindTo (unregisterSuper · key) := by
  intro s d
  unfold unregisterSuper
  split
  · exact ⟨{ d with log := d.log ++ [_] }, rfl⟩
  · split
    · exact blindTo_unregister key s d
    · exact ⟨d, rfl⟩

/-- Composing an event changes the ids and the clock only, and in the same way on every disk. -/
theorem exists_composeFor_eq (distinctId token : Text) (environment : Option Environment)
    (event properties : Value) :
    ∃ ids clock result, ∀ d, (s.onDisk d).composeFor distinctId token environment event properties =
      (({ s with ids, clock } : Store).onDisk d, result) := by
  have base (d : Disk) : (s.onDisk d).baseLayers environment = s.baseLayers environment := rfl
  simp only [composeFor, base]
  generalize (if properties.truthy = true then (s.baseLayers environment).absorb properties
    else (s.baseLayers environment, none)) = merged
  obtain ⟨merged, _ | kind⟩ := merged
  case some => exact ⟨s.ids, s.clock, _, fun d => rfl⟩
  case none =>
    cases read : s.clock.read with
    | mk time clock =>
      have read (d : Disk) : (s.onDisk d).clock.read = (time, clock) := read
      simp only [read]
      cases time with
      | error fault => exact ⟨s.ids, clock, _, fun d => rfl⟩
      | ok time =>
        exact ⟨s.ids.insert.2, clock, (Event.ofValues event (merged.overlay
          (lastLayer token distinctId time s.ids.insert.1))).mapError .invalid, fun d => rfl⟩

/-- A store is loaded alike from disks that hold the same under its name. -/
theorem exists_load_onDisk (holds : d.get s.name = s.get s.name) :
    ∃ d', (s.onDisk d).load = s.load.onDisk d' := by
  have noted (r : LogRecord) : ∃ d', (s.onDisk d).record r = (s.record r).onDisk d' :=
    ⟨{ d with log := d.log ++ [r] }, rfl⟩
  simp only [load, show (s.onDisk d).get (s.onDisk d).name = s.get s.name from holds]
  split
  · exact noted _
  · split
    · exact ⟨d, rfl⟩
    · split
      · exact noted _
      · exact ⟨d, rfl⟩
      · exact noted _

end EventTracker.Store
