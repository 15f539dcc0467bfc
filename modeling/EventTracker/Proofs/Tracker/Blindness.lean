import EventTracker.Proofs.Tracker.Actions
import EventTracker.Proofs.Tracker.Opening
import EventTracker.Proofs.Tracker.Serving

/-!
# Failures of the storage stay out of sight

Two worlds are twins if they differ in their disks only: in the storage, the files and
the log. A tracker that is opened on twins whose disks hold the same under its name is
the same on both, and so is all that its actions return and all that they change besides
the disk. So whichever accesses to the storage fail, nobody can tell, unless from the
storage or from the log.
-/

namespace EventTracker

/-- Worlds that differ in their disks only. -/
def World.Twin (w v : World) : Prop := ∃ d, v = w.onDisk d

/-- Results that are the same, in worlds that are twins. -/
def SameSight {α : Type} (result result' : World × α) : Prop :=
  result.1.Twin result'.1 ∧ result'.2 = result.2

variable {α : Type} {t : Tracker} {w v : World}

theorem World.Twin.onDisk (twin : w.Twin v) (d : Disk) : w.Twin (v.onDisk d) := by
  obtain ⟨_, rfl⟩ := twin
  exact ⟨d, rfl⟩

theorem World.Twin.current?_eq (twin : w.Twin v) : v.current? = w.current? := by
  obtain ⟨d, rfl⟩ := twin
  rfl

theorem World.Twin.looping (twin : w.Twin v) (looping : Bool) :
    ({ w with looping } : World).Twin { v with looping } := by
  obtain ⟨d, rfl⟩ := twin
  exact ⟨d, rfl⟩

/-! ## Actions -/

theorem ComesTo.sameSight {made : Task → Prop} {op : World → World × α} (comes : ComesTo made w op)
    (twin : w.Twin v) : SameSight (op w) (op v) := by
  obtain ⟨d, rfl⟩ := twin
  obtain ⟨moves, result, same, -⟩ := comes
  obtain ⟨d', moved⟩ := w.exists_moves_onDisk moves d
  have here : op w = (w.moves moves, result) := same w.toDisk
  rw [same, here, moved]
  exact ⟨⟨d', rfl⟩, rfl⟩

/-- A call on the store that no disk has a say in. -/
theorem sameSight_onStore {call : Store → Store × α} (blind : Store.BlindTo call) (twin : w.Twin v)
    (t : Tracker) : SameSight (w.onStore t call) (v.onStore t call) := by
  obtain ⟨d, rfl⟩ := twin
  obtain ⟨d', same⟩ := blind (w.store t) d
  unfold World.onStore
  rw [show (w.onDisk d).store t = (w.store t).onDisk d from rfl, same]
  exact ⟨⟨d', rfl⟩, rfl⟩

theorem sameSight_identify (twin : w.Twin v) (current : w.current? = some t) (id callback : Value) :
    SameSight (w.identify t id callback) (v.identify t id callback) := by
  obtain ⟨d, rfl⟩ := twin
  obtain ⟨d', same⟩ : ∃ d', ((w.onDisk d).store t).identify id =
      (((w.store t).identify id).1.onDisk d', ((w.store t).identify id).2) :=
    Store.blindTo_identify id (w.store t) d
  unfold World.identify
  rw [same]
  obtain ⟨s, result⟩ := (w.store t).identify id
  cases result with
  | error fault => exact ⟨⟨d', rfl⟩, rfl⟩
  | ok previous =>
    exact (comesTo_track (withStore_current current s) (.str "$identify")
      (World.identifyProperties previous id) callback).sameSight ⟨d', rfl⟩

theorem sameSight_request (twin : w.Twin v) (current : w.current? = some t) (call : ClientCall) :
    SameSight (call.perform w t) (call.perform v t) := by
  cases call with
  | identify id callback => exact sameSight_identify twin current id callback
  | _ => exact (comesTo_perform current _ (by rintro _ _ ⟨⟩)).sameSight twin

theorem SameSight.answer {result result' : World × Except Fault α} (same : SameSight result result')
    (f : α → Answer) : SameSight (Action.perform.answer f result) (Action.perform.answer f result') :=
  ⟨same.1, congrArg (Except.map f) same.2⟩

/-- An action returns the same on twins, and leaves twins. -/
theorem sameSight_perform (twin : w.Twin v) (current : w.current? = some t) (action : Action) :
    SameSight (action.perform w t) (action.perform v t) := by
  cases action with
  | request call => exact (sameSight_request twin current call).answer _
  | register patch => exact (sameSight_onStore (Store.blindTo_registerSuper patch) twin t).answer _
  | registerOnce patch =>
    exact (sameSight_onStore (Store.blindTo_registerSuperOnce patch) twin t).answer _
  | unregister key => exact (sameSight_onStore (Store.blindTo_unregisterSuper key) twin t).answer _
  | reset =>
    have blind : Store.BlindTo fun s => (s.reset, (Except.ok .done : Except Fault Answer)) := by
      intro s d
      obtain ⟨d', same⟩ := Store.blind_reset s d
      exact ⟨d', Prod.ext same rfl⟩
    exact sameSight_onStore blind twin t
  | property key =>
    obtain ⟨d, rfl⟩ := twin
    exact ⟨⟨d, rfl⟩, rfl⟩
  | distinctId =>
    obtain ⟨d, rfl⟩ := twin
    exact ⟨⟨d, rfl⟩, rfl⟩
  | configure patch more =>
    refine SameSight.answer ?_ _
    obtain ⟨d, rfl⟩ := twin
    unfold World.reconfigure
    cases (Config.Change.reconfigure patch more).call t.config with
    | ok _ config | error _ config => exact ⟨⟨d, rfl⟩, rfl⟩
  | flush =>
    obtain ⟨d, rfl⟩ := twin
    obtain ⟨d', flushed⟩ := exists_flush_onDisk w d
    exact ⟨⟨d', flushed⟩, rfl⟩

theorem sameSight_take (twin : w.Twin v) (step : TrackerStep) :
    SameSight (w.take step) (v.take step) := by
  have twin := twin.looping step.looping
  unfold World.take
  simp only
  rw [twin.current?_eq]
  cases current : World.current? { w with looping := step.looping } with
  | none => exact ⟨twin, rfl⟩
  | some t => exact sameSight_perform twin current step.action

/-! ## Opening -/

/-- A tracker is opened alike on twins whose disks hold the same under its name. -/
theorem sameSight_openTracker (twin : w.Twin v) {token : Value} {config : Config}
    {environment : Option Environment} {connection : Connection} {shared : Bool}
    (holds : ∀ text, token = .str text →
      v.foundBy text config shared = w.foundBy text config shared) :
    SameSight (w.openTracker token config environment connection shared)
      (v.openTracker token config environment connection shared) := by
  obtain ⟨d, rfl⟩ := twin
  have connected : (w.connectedBy connection).Twin ((w.onDisk d).connectedBy connection) :=
    ⟨d, by cases connection <;> rfl⟩
  rcases World.exists_token_or token with ⟨text, rfl, nonempty⟩ | refused
  case inr =>
    rw [World.openTracker_refused refused, World.openTracker_refused refused]
    exact ⟨connected, rfl⟩
  case inl =>
    rw [World.openTracker_eq nonempty, World.openTracker_eq nonempty]
    have holds := holds text rfl
    rw [Disk.foundBy, Disk.foundBy] at holds
    rcases Disk.usedBy_or d w.toDisk config shared with
      ⟨fault, there, here⟩ | ⟨used', used, there, here⟩
    · rw [here, show (w.onDisk d).usedBy config shared = _ from there]
      exact ⟨connected, rfl⟩
    · rw [here, show (w.onDisk d).usedBy config shared = _ from there] at holds ⊢
      obtain ⟨d', same⟩ :=
        Store.exists_openNew_onDisk { w.toDesk with toDisk := used } holds config.debug.truthy
      simp only
      rw [show Store.openNew { (w.onDisk d).toDesk with toDisk := used' } _ _ = _ from same]
      obtain ⟨d'', identified⟩ := Store.blind_ensureIdentity (Store.openNew
        { w.toDesk with toDisk := used } (World.storageName config text) config.debug.truthy) d'
      rw [identified]
      refine ⟨⟨d'', ?_⟩, rfl⟩
      cases connection <;> rfl

/-! ## Runs -/

/-- A step, and what becomes of the disk before it: accesses to the storage may begin or cease to
fail, and anything else may happen to it. -/
structure DisturbedStep where
  disturb : Disk → Disk
  step : TrackerStep

/-- What the steps of a run return, each with the world that it leaves. -/
def World.trace (w : World) : List DisturbedStep → List (World × Except Fault Answer)
  | [] => []
  | ⟨disturb, step⟩ :: rest =>
    let taken := (w.onDisk (disturb w.toDisk)).take step
    taken :: taken.1.trace rest

theorem sameSight_trace (twin : w.Twin v) {steps steps' : List DisturbedStep}
    (same : steps'.map DisturbedStep.step = steps.map DisturbedStep.step) :
    List.Forall₂ SameSight (w.trace steps) (v.trace steps') := by
  induction steps generalizing w v steps' with
  | nil =>
    obtain rfl := List.map_eq_nil_iff.1 same
    exact .nil
  | cons first rest ih =>
    obtain ⟨first', rest', rfl, equal, others⟩ := List.map_eq_cons_iff.1 same
    obtain ⟨disturb, step⟩ := first
    obtain ⟨disturb', step'⟩ := first'
    obtain rfl : step' = step := equal
    have disturbed : (w.onDisk (disturb w.toDisk)).Twin (v.onDisk (disturb' v.toDisk)) := by
      obtain ⟨d, rfl⟩ := twin
      exact ⟨_, rfl⟩
    have taken := sameSight_take disturbed step'
    exact .cons taken (ih taken.1 others)

/-- Whatever happens to the disk once a tracker has been opened, and whether or not accesses to the
storage failed when it was: what is returned and raised, the bags, the ids and readings of the
clock that are drawn, the posts, and what callbacks are told are the same. Only the storage, the
files and the log may differ. -/
theorem storage_failures_unseen (w : World) (d : Disk) (token : Value) (config : Config)
    (environment : Option Environment) (connection : Connection) (shared : Bool)
    (holds : ∀ text, token = .str text →
      d.foundBy text config shared = w.foundBy text config shared) :
    let opened := w.openTracker token config environment connection shared
    let opened' := (w.onDisk d).openTracker token config environment connection shared
    SameSight opened opened' ∧
      ∀ steps steps' : List DisturbedStep,
        steps'.map DisturbedStep.step = steps.map DisturbedStep.step →
          List.Forall₂ SameSight (opened.1.trace steps) (opened'.1.trace steps') := by
  intro opened opened'
  have same : SameSight opened opened' := sameSight_openTracker ⟨d, rfl⟩ holds
  exact ⟨same, fun steps steps' => sameSight_trace same.1⟩

/-- In memory, a storage of which the writes fail from the start, and then the removal inside a
reset, leads to the same posts as one of which no access fails. -/
theorem storage_failures_unseen_reset :
    let disk (off : List StorageAccess) : Disk := ⟨.memory [] off 0, ⟨[]⟩, []⟩
    let steps : List TrackerStep :=
      [⟨true, .request (.identify (.str "ada") .null)⟩, ⟨true, .reset⟩,
        ⟨true, .request (.track (.str "seen") .null .null)⟩, ⟨true, .flush⟩]
    let reliable := (World.fresh (disk []) []).openTracker (.str "T") .standard none .direct true
    let failing := (World.fresh (disk [.set]) []).openTracker (.str "T") .standard none .direct true
    List.Forall₂ SameSight
      (reliable.1.trace (steps.map fun step => ⟨id, step⟩))
      (failing.1.trace (steps.map fun step => ⟨fun d => { d with
        storage := .memory [] [.remove] 7 }, step⟩)) := by
  intro disk steps reliable failing
  have holds : ∀ text, Value.str "T" = .str text →
      (disk [.set]).foundBy text .standard true = (disk []).foundBy text .standard true :=
    fun text _ => rfl
  obtain ⟨-, same⟩ := storage_failures_unseen (World.fresh (disk []) []) (disk [.set]) (.str "T")
    .standard none .direct true holds
  exact same _ _ (by simp [steps])

end EventTracker
