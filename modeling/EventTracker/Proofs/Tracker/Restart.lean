import EventTracker.Proofs.Store.Resumption
import EventTracker.Proofs.Tracker.Actions
import EventTracker.Proofs.Tracker.Opening
import EventTracker.Proofs.Tracker.Serving
import Mathlib.Data.List.Induction

/-!
# Identity survives a restart

Over a storage that never fails, a tracker that is opened again under the same name has
the distinct id, the device id and the user that the bag had when it could be written
last. That is the bag at the end, unless it holds what has no JSON text: then nothing is
stored, and nobody but the log is told.
-/

namespace EventTracker

open Store

/-- Whether the mappings that go into the bag are under texts. -/
def Action.BagKeyed : Action → Prop
  | .register patch | .registerOnce patch => patch.TextKeyed
  | _ => True

/-- A world whose current tracker has an identity, and whose storage holds the last bag that could be
written. -/
structure World.Mirrors (first : Value) (last : Mapping) (w : World) (t : Tracker) : Prop where
  current : w.current? = some t
  store : Mirrored first last (w.store t)
  named : t.distinctId ≠ ""

/-- What an action leaves of such a world. -/
def World.Goes (first : Value) (last : Mapping) (t : Tracker) (w : World) : Prop :=
  ∃ t', w.Mirrors first (lastWritten last t'.props) t' ∧ t'.name = t.name

variable {t : Tracker} {w w' : World} {first : Value} {last : Mapping}

theorem ComesTo.undisturbed {α : Type} {made : Task → Prop} {op : World → World × α}
    (comes : ComesTo made w op) : Undisturbed w (op w).1 := by
  obtain ⟨moves, moved⟩ := comes.exists_moves
  rw [moved]
  exact (Undisturbed.refl w).moves moves

theorem World.Goes.undisturbed (goes : w.Goes first last t) (undisturbed : Undisturbed w w') :
    w'.Goes first last t := by
  obtain ⟨t', mirrors, name⟩ := goes
  obtain ⟨t'', current, same⟩ := undisturbed.current mirrors.current
  have props : t''.props = t'.props := (Tracker.mk.inj same).2.2.2.1
  have still : t''.name = t'.name := (Tracker.mk.inj same).2.2.1
  refine ⟨t'', ⟨current, ?_, ?_⟩, still.trans name⟩
  · rw [props]
    refine mirrors.store.quiet ⟨w'.log, ?_⟩ still props
    rw [Disk.mk.injEq]
    exact ⟨undisturbed.storage, undisturbed.files, rfl⟩
  · rw [← Store.distinctId_of_props (s := w'.store t') props.symm]
    exact mirrors.named

namespace World.Mirrors

theorem goes (mirrors : w.Mirrors first last t) : w.Goes first last t := by
  refine ⟨t, ?_, rfl⟩
  rw [show lastWritten last t.props = last from mirrors.store.lastWritten_eq]
  exact mirrors

theorem goes_withStore (mirrors : w.Mirrors first last t) {s : Store}
    (goes : Store.Goes first last (w.store t) s) : (w.withStore t s).Goes first last t := by
  refine ⟨{ t with props := s.props }, ⟨withStore_current mirrors.current s, ?_, ?_⟩, rfl⟩
  · exact goes.mirrored.quiet ⟨s.log, rfl⟩ goes.name.symm rfl
  · rw [← Store.distinctId_of_props (s := s) rfl]
    exact goes.named mirrors.named

theorem goes_identify (mirrors : w.Mirrors first last t) (id callback : Value) :
    (w.identify t id callback).1.Goes first last t := by
  have goes := mirrors.store.goes_identify id
  unfold World.identify
  cases identified : (w.store t).identify id with
  | mk s result =>
    rw [identified] at goes
    have stored := mirrors.goes_withStore goes
    cases result with
    | error fault => exact stored
    | ok previous =>
      have comes := comesTo_track (withStore_current mirrors.current s) (.str "$identify")
        (World.identifyProperties previous id) callback
      exact stored.undisturbed comes.undisturbed

theorem goes_configure (mirrors : w.Mirrors first last t) (patch : Value) (more : Table Value) :
    (w.reconfigure t patch more).1.Goes first last t := by
  have configured (config : Config) :
      (w.setTracker w.currentPlace { t with config }).Goes first last t := by
    refine ⟨{ t with config }, ⟨setTracker_current mirrors.current _, ?_, mirrors.named⟩, rfl⟩
    rw [show lastWritten last t.props = last from mirrors.store.lastWritten_eq]
    exact mirrors.store.quiet ⟨w.log, rfl⟩ rfl rfl
  unfold World.reconfigure
  cases (Config.Change.reconfigure patch more).call t.config with
  | ok _ config | error _ config => exact configured config

/-- Every action leaves such a world. -/
theorem goes_perform (mirrors : w.Mirrors first last t) {action : Action} (keyed : action.BagKeyed) :
    (action.perform w t).1.Goes first last t := by
  cases action with
  | request call =>
    cases call with
    | identify id callback => exact mirrors.goes_identify id callback
    | _ =>
      exact mirrors.goes.undisturbed
        (comesTo_perform mirrors.current _ (by rintro _ _ ⟨⟩)).undisturbed
  | register patch => exact mirrors.goes_withStore (mirrors.store.goes_registerSuper keyed)
  | registerOnce patch => exact mirrors.goes_withStore (mirrors.store.goes_registerSuperOnce keyed)
  | unregister key => exact mirrors.goes_withStore (mirrors.store.goes_unregisterSuper key)
  | reset => exact mirrors.goes_withStore mirrors.store.goes_reset
  | property key | distinctId => exact mirrors.goes
  | configure patch more => exact mirrors.goes_configure patch more
  | flush => exact mirrors.goes.undisturbed (.flush w)

theorem goes_take (mirrors : w.Mirrors first last t) {step : TrackerStep} (keyed : step.action.BagKeyed) :
    (w.take step).1.Goes first last t := by
  have here : ({ w with looping := step.looping } : World).Mirrors first last t :=
    ⟨mirrors.current, mirrors.store, mirrors.named⟩
  rw [World.take]
  simp only [here.current]
  exact here.goes_perform keyed

end World.Mirrors

/-! ## Runs -/

/-- Whether the bag of the current tracker can be written. -/
def World.writable (w : World) : Bool := w.current?.any fun t => Store.writable t.props

/-- The longest beginning of a run that leaves a bag that can be written. -/
structure LastWritable (w : World) (steps past : List TrackerStep) : Prop where
  begins : past <+: steps
  writable : (w.run past).writable = true
  longest : ∀ more, more <+: steps → (w.run more).writable = true → more.length ≤ past.length

/-- If the bag at the end can be written, it is the last one. -/
theorem LastWritable.eq_of_writable {steps past : List TrackerStep}
    (last : LastWritable w steps past) (able : (w.run steps).writable = true) : past = steps :=
  last.begins.eq_of_length_le (last.longest steps List.prefix_rfl able)

theorem World.Mirrors.writable_eq (mirrors : w.Mirrors first last t) :
    w.writable = Store.writable t.props := by
  rw [World.writable, mirrors.current]
  rfl

theorem World.run_append_singleton (w : World) (steps : List TrackerStep) (step : TrackerStep) :
    w.run (steps ++ [step]) = ((w.run steps).take step).1 :=
  List.foldl_append

/-- After a run the storage holds the bag of its longest beginning that leaves one that can be
written. -/
theorem exists_lastWritable (mirrors : w.Mirrors first t.props t) (able : Store.writable t.props = true)
    {steps : List TrackerStep} (keyed : ∀ step ∈ steps, step.action.BagKeyed) :
    ∃ past u t', LastWritable w steps past ∧ (w.run past).current? = some u ∧ u.distinctId ≠ "" ∧
      (w.run steps).Mirrors first u.props t' ∧ t'.name = t.name := by
  induction steps using List.reverseRecOn with
  | nil =>
    refine ⟨[], t, t, ⟨List.prefix_rfl, ?_, fun more sub _ => sub.length_le⟩, mirrors.current,
      mirrors.named, mirrors, rfl⟩
    exact mirrors.writable_eq.trans able
  | append_singleton rest step ih =>
    rw [List.forall_mem_append, List.forall_mem_singleton] at keyed
    obtain ⟨past, u, t₁, longest, there, named, mirrors₁, name₁⟩ := ih keyed.1
    obtain ⟨t₂, mirrors₂, name₂⟩ := mirrors₁.goes_take keyed.2
    rw [← World.run_append_singleton] at mirrors₂
    cases able₂ : Store.writable t₂.props with
    | true =>
      rw [lastWritten, if_pos able₂] at mirrors₂
      refine ⟨rest ++ [step], t₂, t₂, ⟨List.prefix_rfl, ?_, fun more sub _ => sub.length_le⟩,
        mirrors₂.current, mirrors₂.named, mirrors₂, name₂.trans name₁⟩
      exact mirrors₂.writable_eq.trans able₂
    | false =>
      have unable := mirrors₂.writable_eq.trans able₂
      rw [lastWritten, if_neg (by rw [able₂]; decide)] at mirrors₂
      refine ⟨past, u, t₂, ⟨longest.begins.trans (List.prefix_append _ _), longest.writable, ?_⟩,
        there, named, mirrors₂, name₂.trans name₁⟩
      intro more sub able
      rcases List.prefix_concat_iff.1 sub with rfl | sub
      · exact absurd (unable.symm.trans able) (by decide)
      · exact longest.longest more sub able

/-! ## Opening -/

section Opening

variable {token : Text} {config : Config} {environment : Option Environment}
  {connection : Connection} {shared : Bool} {disk : Disk}

theorem joinedBy_current (w : World) (s : Store) :
    (w.joinedBy token config environment connection s).current? =
      some (w.newTracker token config environment connection s.props) :=
  List.getLast?_concat

/-- A tracker that has been opened on a storage that never fails has its bag stored. -/
theorem exists_mirrors_openTracker (used : w.usedBy config shared = .ok disk)
    (reliable : disk.Reliable (World.storageName config token))
    (opened : w.openTracker (.str token) config environment connection shared = (w', .ok ())) :
    ∃ first t, disk.get (World.storageName config token) = .ok first ∧
      w'.Mirrors first t.props t ∧ Store.writable t.props = true ∧
      t.name = World.storageName config token ∧ token ≠ "" := by
  obtain ⟨_, _, ⟨⟩, nonempty, used', rfl⟩ := World.exists_of_openTracker_eq_ok opened
  obtain rfl := Except.ok.inj (used.symm.trans used')
  obtain ⟨first, got, mirrored, able, name, named⟩ :=
    mirrored_opened (show { w.toDesk with toDisk := disk }.toDisk.Reliable _ from reliable)
      config.debug.truthy
  refine ⟨first, _, got, ⟨joinedBy_current w _, mirrored.quiet ⟨_, rfl⟩ name.symm rfl, ?_⟩, able, rfl,
    nonempty⟩
  rw [← Store.distinctId_of_props rfl]
  exact named

/-- A tracker that is opened on the same storage resumes the identity that is stored. -/
theorem exists_openTracker_resumes {u : Tracker} (mirrors : w.Mirrors first u.props t)
    (named : u.distinctId ≠ "") (nonempty : token ≠ "")
    (name : t.name = World.storageName config token) (used : w.usedBy config shared = .ok w.toDisk) :
    ∃ w' u', w.openTracker (.str token) config environment connection shared = (w', .ok ()) ∧
      w'.current? = some u' ∧
      u.props.Resumes u'.props (w.get (World.storageName config token) = .ok first) := by
  have disk : w.toDesk.toDisk = (w.store t).toDisk := rfl
  obtain ⟨still, same⟩ :=
    Mirrored.resumes (u := w.store u) mirrors.store named disk config.debug.truthy
  rw [show (w.store t).name = World.storageName config token from name] at still same
  refine ⟨_, _, World.openTracker_of_used nonempty used, joinedBy_current w _, ?_⟩
  rw [still]
  exact same

end Opening

/-- Identity survives a restart: over a storage that never fails, a tracker that is opened again
under the same name resumes the distinct id, the device id and the user after the longest beginning
of a run that left a bag that can be written. That is the whole run if the bag at its end can be.
Only two surrogates that stand for a character are found joined to it, once a bag was written. -/
theorem identity_survives_restart {token : Text} {config : Config}
    {environment : Option Environment} {connection : Connection} {shared : Bool} {disk : Disk}
    (used : w.usedBy config shared = .ok disk)
    (reliable : disk.Reliable (World.storageName config token))
    (opened : w.openTracker (.str token) config environment connection shared = (w', .ok ()))
    (steps : List TrackerStep) (keyed : ∀ step ∈ steps, step.action.BagKeyed) :
    ∃ past u, LastWritable w' steps past ∧ ((w'.run steps).writable = true → past = steps) ∧
      (w'.run past).current? = some u ∧
      ∀ config' environment' connection' shared',
        World.storageName config' token = World.storageName config token →
        (w'.run steps).usedBy config' shared' = .ok (w'.run steps).toDisk →
          ∃ again u', (w'.run steps).openTracker (.str token) config' environment' connection'
              shared' = (again, .ok ()) ∧
            again.current? = some u' ∧
            u.props.Resumes u'.props ((w'.run steps).get (World.storageName config token) =
              disk.get (World.storageName config token)) := by
  obtain ⟨first, t, got, mirrors, able, name, nonempty⟩ :=
    exists_mirrors_openTracker used reliable opened
  obtain ⟨past, u, t', last, there, named, mirrors', name'⟩ := exists_lastWritable mirrors able keyed
  refine ⟨past, u, last, last.eq_of_writable, there, fun config' _ _ _ same used' => ?_⟩
  rw [got, ← same]
  exact exists_openTracker_resumes mirrors' named nonempty ((name'.trans name).trans same.symm) used'

/-- With a tuple in the bag, a tracker that is opened again is the user that was identified. -/
theorem identity_survives_restart_tuple :
    let disk : Disk := ⟨.memory [] [] 0, ⟨[]⟩, []⟩
    let opened := (World.fresh disk []).openTracker (.str "T") .standard none .direct true
    let steps : List TrackerStep :=
      [⟨true, .register (.map [(.str "trail", .tuple [.int 1, .null])])⟩,
        ⟨true, .request (.identify (.str "ada") .null)⟩, ⟨true, .flush⟩]
    ∃ u again u', (opened.1.run steps).current? = some u ∧
      u.props.text? distinctIdKey = some (.str "ada") ∧
      (opened.1.run steps).openTracker (.str "T") .standard none .own true = (again, .ok ()) ∧
      again.current? = some u' ∧ u'.props.text? distinctIdKey = some (.str "ada") := by
  intro disk opened steps
  have used : (World.fresh disk []).usedBy .standard true = .ok disk := rfl
  have reliable : disk.Reliable (World.storageName .standard "T") := Disk.reliable_memory rfl rfl
  have given : opened = (opened.1, .ok ()) := rfl
  have keyed : ∀ step ∈ steps, step.action.BagKeyed := by
    simp [steps, Action.BagKeyed, Value.TextKeyed, Schema.hasTextKeys]
  have able : (opened.1.run steps).writable = true := by decide +kernel
  have user : (opened.1.run steps).current?.map Tracker.distinctId = some "ada" := by decide +kernel
  obtain ⟨past, u, -, whole, there, resumes⟩ :=
    identity_survives_restart used reliable given steps keyed
  obtain rfl := whole able
  rw [there] at user
  have named : u.distinctId = "ada" := Option.some.inj user
  have held : u.props.text? distinctIdKey = some (.str u.distinctId) :=
    Store.text?_distinctId (s := opened.1.store u)
      (show u.distinctId ≠ "" from named.symm ▸ by decide)
  rw [named] at held
  obtain ⟨again, u', reopened, current, resumed⟩ :=
    resumes .standard none .own true rfl (Disk.usedBy_shared _ _)
  exact ⟨u, again, u', there, held, reopened, current, resumed.proper _ (by decide) _ held rfl⟩

/-- With a value in the bag that has no JSON text, a user that is identified is not stored: a
tracker that is opened again is still the anonymous device. A user of two surrogates that stand for
a character is stored, and found as the character. -/
theorem identity_lost_behind_unwritable_value :
    let opened := (World.fresh ⟨.memory [] [] 0, ⟨[]⟩, []⟩ []).openTracker (.str "T") .standard none
      .direct true
    let object : Value := .foreign ⟨"object", "<object>", "<object>", 1⟩
    let reached := opened.1.run
      [⟨true, .register (.map [(.str "x", object)])⟩, ⟨true, .request (.identify (.str "u-42") .null)⟩]
    let pair : Text := .ofPoints [.surrogate 0x3D, .surrogate 0x600]
    let reached' := opened.1.run [⟨true, .request (.identify (.str pair) .null)⟩]
    let again (w : World) := w.openTracker (.str "T") .standard none .direct true
    Disk.Reliable (.str "mon_T") ⟨.memory [] [] 0, ⟨[]⟩, []⟩ ∧ opened.2 = .ok () ∧
      (again reached).2 = .ok () ∧ reached.current?.map Tracker.distinctId = some "u-42" ∧
      (again reached).1.current?.map Tracker.distinctId =
        some "$device:00000000-0000-0000-0000-000000000001" ∧
      (again reached').2 = .ok () ∧ reached'.current?.map Tracker.distinctId = some pair ∧
      (again reached').1.current?.map Tracker.distinctId = some "😀" ∧ pair ≠ "😀" := by
  intro opened object reached pair reached' again
  have reopened (w : World) : again w = _ :=
    World.openTracker_of_used (by decide) (Disk.usedBy_shared _ _)
  refine ⟨Disk.reliable_memory rfl rfl, rfl, congrArg Prod.snd (reopened _), ?_, ?_,
    congrArg Prod.snd (reopened _), ?_, ?_, ?_⟩
  all_goals decide +kernel

end EventTracker
