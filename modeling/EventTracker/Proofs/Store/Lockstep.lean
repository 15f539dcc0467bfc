import EventTracker.Proofs.Store.Durability

/-!
# Stores in lockstep

Whatever is done with a store comes down to a few operations: its bag, its ids or its log
are changed, it is saved or cleared, or what is stored is read. So two stores that stay
related while each of these is done to both stay related through every use, and every use
gives the same on both.
-/

namespace EventTracker

/-- What a call to a store gives. -/
def StoreCall.result (s : Store) : StoreCall → Except Fault Value
  | .register patch => (s.register patch).2.map fun _ => .null
  | .registerOnce patch => (s.registerOnce patch).2.map fun _ => .null
  | .unregister key => (s.unregister key).2.map fun _ => .null
  | .identify id => (s.identify id).2.map .str
  | .registerSuper patch => (s.registerSuper patch).2.map fun _ => .null
  | .registerSuperOnce patch => (s.registerSuperOnce patch).2.map fun _ => .null
  | .unregisterSuper key => (s.unregisterSuper key).2.map fun _ => .null
  | .clear | .save | .load | .ensureIdentity | .reset => .ok .null

/-- What is done with a store: a call, a look at a property, or opening it anew. -/
inductive StoreUse where
  | ask (call : StoreCall)
  | property (key : Value)
  | reopen (debug : Bool)

/-- The store after a use, and what the use gives. -/
def StoreUse.perform (s : Store) : StoreUse → Store × Except Fault Value
  | .ask call => (call.perform s, call.result s)
  | .property key => (s, s.property key)
  | .reopen debug => (s.reopen debug, .ok .null)

namespace Store

/-- The store after one use after another. -/
def used (s : Store) (uses : List StoreUse) : Store :=
  uses.foldl (fun s use => (use.perform s).1) s

/-- The results of uses one after another, each with the bag that it leaves. -/
def trace (s : Store) : List StoreUse → List (Except Fault Value × Mapping)
  | [] => []
  | use :: rest =>
    ((use.perform s).2, (use.perform s).1.props) :: (use.perform s).1.trace rest

theorem withoutReserved_snd_eq (s m : Store) (patch : Value) :
    (m.withoutReserved patch).2 = (s.withoutReserved patch).2 := by
  unfold withoutReserved
  cases patch.items? with
  | none => rfl
  | some keys =>
    simp only
    split
    · cases patch <;> rfl
    · rfl

/-- A relation between stores with the same bag and the same ids that read the same. It lasts when
the bags and the ids are replaced alike, when both are saved or cleared, and whatever is logged. -/
structure Lockstep (R : Store → Store → Prop) : Prop where
  props {s m : Store} : R s m → m.props = s.props
  ids {s m : Store} : R s m → m.ids = s.ids
  get {s m : Store} : R s m → m.get m.name = s.get s.name
  of_sameBut {s m s' m' : Store} : R s m → SameBut s s' → SameBut m m' → R s' m'
  withProps {s m : Store} : R s m → ∀ props, R { s with props } { m with props }
  withIds {s m : Store} : R s m → ∀ ids, R { s with ids } { m with ids }
  save {s m : Store} : R s m → R s.save m.save
  clear {s m : Store} : R s m → R s.clear m.clear

/-- Related stores, with the same result. -/
def CameTo {α : Type} (R : Store → Store → Prop) (left right : Store × α) : Prop :=
  R left.1 right.1 ∧ right.2 = left.2

theorem CameTo.map {α : Type} {R : Store → Store → Prop} {left right : Store × Except Fault α}
    (same : CameTo R left right) (f : α → Value) :
    R left.1 right.1 ∧ right.2.map f = left.2.map f :=
  same.imp_right (congrArg (Except.map f))

namespace Lockstep

variable {R : Store → Store → Prop} (lockstep : Lockstep R) {s m : Store}

include lockstep

theorem record (related : R s m) (r r' : LogRecord) : R (s.record r) (m.record r') :=
  lockstep.of_sameBut related ⟨rfl, rfl, rfl, rfl, rfl⟩ ⟨rfl, rfl, rfl, rfl, rfl⟩

theorem withDebug (related : R s m) (debug : Bool) : R { s with debug } { m with debug } :=
  lockstep.of_sameBut related ⟨rfl, rfl, rfl, rfl, rfl⟩ ⟨rfl, rfl, rfl, rfl, rfl⟩

/-- Both stores load the same bag, or none. -/
theorem load (related : R s m) : R s.load m.load := by
  unfold Store.load
  rw [lockstep.get related]
  split
  · exact lockstep.record related _ _
  · split
    · exact related
    · split
      · exact lockstep.record related _ _
      · exact lockstep.withProps related _
      · exact lockstep.record related _ _

theorem saveWith (related : R s m) (props : Mapping) :
    R (Store.save { s with props }) (Store.save { m with props }) :=
  lockstep.save (lockstep.withProps related props)

theorem registerEntries (related : R s m) (entries : List (String × Value)) :
    R (s.registerEntries entries) (m.registerEntries entries) := by
  unfold Store.registerEntries
  rw [lockstep.props related]
  exact lockstep.saveWith related _

theorem enterAnonymous (related : R s m) : R s.enterAnonymous m.enterAnonymous := by
  unfold Store.enterAnonymous
  rw [lockstep.ids related]
  exact lockstep.record (lockstep.registerEntries (lockstep.withIds related _) _) _ _

theorem ensureIdentity (related : R s m) : R s.ensureIdentity m.ensureIdentity := by
  unfold Store.ensureIdentity
  rw [distinctId_congr (lockstep.props related)]
  split
  · exact lockstep.enterAnonymous related
  · exact related

theorem reset (related : R s m) : R s.reset m.reset :=
  lockstep.enterAnonymous (lockstep.clear related)

theorem identify (related : R s m) (id : Value) : CameTo R (s.identify id) (m.identify id) := by
  cases id with
  | str text =>
    rw [Store.identify, Store.identify]
    split
    · exact ⟨related, rfl⟩
    · exact ⟨lockstep.registerEntries related _,
        congrArg Except.ok (distinctId_congr (lockstep.props related))⟩
  | _ => exact ⟨related, rfl⟩

theorem register (related : R s m) (patch : Value) :
    CameTo R (s.register patch) (m.register patch) := by
  unfold Store.register
  rw [lockstep.props related]
  obtain ⟨props, failure⟩ := s.props.absorb patch
  cases failure with
  | none => exact ⟨lockstep.saveWith related props, rfl⟩
  | some kind => exact ⟨lockstep.withProps related props, rfl⟩

theorem registerOnce (related : R s m) (patch : Value) :
    CameTo R (s.registerOnce patch) (m.registerOnce patch) := by
  unfold Store.registerOnce
  cases patch with
  | map entries =>
    simp only [lockstep.props related]
    cases entries.filter fun entry => !s.props.contains entry.1 with
    | nil => exact ⟨related, rfl⟩
    | cons entry more => exact ⟨lockstep.saveWith related _, rfl⟩
  | _ => exact ⟨related, rfl⟩

theorem unregister (related : R s m) (name : Value) :
    CameTo R (s.unregister name) (m.unregister name) := by
  unfold Store.unregister
  rw [lockstep.props related]
  cases s.props.discard name with
  | ok props => exact ⟨lockstep.saveWith related props, rfl⟩
  | error kind => exact ⟨related, rfl⟩

/-- What goes on with the super-properties of a mapping. -/
theorem withSuper (related : R s m) {op : Store → Mapping → Store × Except Fault Unit}
    (steps : ∀ {s m : Store} (entries : Mapping), R s m → CameTo R (op s entries) (op m entries))
    (patch : Value) :
    let next (s : Store) := match s.withoutReserved patch with
      | (s, .ok entries) => op s entries
      | (s, .error fault) => (s, .error fault)
    CameTo R (next s) (next m) := by
  have warned := lockstep.of_sameBut related (s.withoutReserved_fst patch)
    (m.withoutReserved_fst patch)
  have same := withoutReserved_snd_eq s m patch
  simp only
  generalize s.withoutReserved patch = left at warned same ⊢
  generalize m.withoutReserved patch = right at warned same ⊢
  obtain ⟨s', outcome⟩ := left
  obtain ⟨m', outcome'⟩ := right
  obtain rfl : outcome' = outcome := same
  cases outcome' with
  | ok entries => exact steps entries warned
  | error fault => exact ⟨warned, rfl⟩

theorem registerSuper (related : R s m) (patch : Value) :
    CameTo R (s.registerSuper patch) (m.registerSuper patch) :=
  lockstep.withSuper related (fun entries related => lockstep.register related (.map entries)) patch

theorem registerSuperOnce (related : R s m) (patch : Value) :
    CameTo R (s.registerSuperOnce patch) (m.registerSuperOnce patch) :=
  lockstep.withSuper related (fun entries related => lockstep.registerOnce related (.map entries))
    patch

theorem unregisterSuper (related : R s m) (name : Value) :
    CameTo R (s.unregisterSuper name) (m.unregisterSuper name) := by
  unfold Store.unregisterSuper
  split
  · exact ⟨lockstep.record related _ _, rfl⟩
  · split
    · exact lockstep.unregister related name
    · exact ⟨related, rfl⟩

/-- A call gives the same on both stores. -/
theorem ask (related : R s m) (call : StoreCall) :
    R (call.perform s) (call.perform m) ∧ call.result m = call.result s := by
  cases call with
  | register patch => exact (lockstep.register related patch).map _
  | registerOnce patch => exact (lockstep.registerOnce related patch).map _
  | unregister name => exact (lockstep.unregister related name).map _
  | clear => exact ⟨lockstep.clear related, rfl⟩
  | save => exact ⟨lockstep.save related, rfl⟩
  | load => exact ⟨lockstep.load related, rfl⟩
  | ensureIdentity => exact ⟨lockstep.ensureIdentity related, rfl⟩
  | identify id => exact (lockstep.identify related id).map _
  | reset => exact ⟨lockstep.reset related, rfl⟩
  | registerSuper patch => exact (lockstep.registerSuper related patch).map _
  | registerSuperOnce patch => exact (lockstep.registerSuperOnce related patch).map _
  | unregisterSuper name => exact (lockstep.unregisterSuper related name).map _

theorem reopen (related : R s m) (debug : Bool) : R (s.reopen debug) (m.reopen debug) :=
  lockstep.load (lockstep.withDebug (lockstep.withProps related []) debug)

/-- Every use gives the same on both stores. -/
theorem use (related : R s m) (use : StoreUse) : CameTo R (use.perform s) (use.perform m) := by
  cases use with
  | ask call => exact lockstep.ask related call
  | property name =>
    refine ⟨related, ?_⟩
    rw [StoreUse.perform, StoreUse.perform, property, property, lockstep.props related]
  | reopen debug => exact ⟨lockstep.reopen related debug, rfl⟩

end Lockstep

end Store

end EventTracker
