import EventTracker.Proofs.Storage.Memory
import EventTracker.Proofs.Store.Loading

/-!
# The changes that a storage makes for a store

Every call makes some changes in a storage in memory, of which any access may fail: it
removes what is stored, or writes the bag that the store has after the call. What is
stored is always what the last change left, and a bag that was written stood as a whole
after a past call.
-/

namespace EventTracker

/-- What callers can ask of a store, by itself or through the identity and the super-properties. -/
inductive StoreCall where
  | register (patch : Value)
  | registerOnce (patch : Value)
  | unregister (key : Value)
  | clear
  | save
  | load
  | ensureIdentity
  | identify (id : Value)
  | reset
  | registerSuper (patch : Value)
  | registerSuperOnce (patch : Value)
  | unregisterSuper (key : Value)

/-- The store after a call. -/
def StoreCall.perform (s : Store) : StoreCall → Store
  | .register patch => (s.register patch).1
  | .registerOnce patch => (s.registerOnce patch).1
  | .unregister key => (s.unregister key).1
  | .clear => s.clear
  | .save => s.save
  | .load => s.load
  | .ensureIdentity => s.ensureIdentity
  | .identify id => (s.identify id).1
  | .reset => s.reset
  | .registerSuper patch => (s.registerSuper patch).1
  | .registerSuperOnce patch => (s.registerSuperOnce patch).1
  | .unregisterSuper key => (s.unregisterSuper key).1

/-- A change that a storage made for a store. -/
inductive StorageChange where
  | removed
  | wrote (bag : Mapping)

namespace StorageChange

/-- What a change leaves under the store's name. -/
def content : StorageChange → Option Value
  | .removed => none
  | .wrote bag => (Store.storedText? bag).map .str

/-- What is stored after some changes: what the last of them left. -/
def contentAfter (first : Option Value) (changes : List StorageChange) : Option Value :=
  (changes.getLast?.map content).getD first

theorem contentAfter_append (first : Option Value) (changes more : List StorageChange) :
    contentAfter first (changes ++ more) = contentAfter (contentAfter first changes) more := by
  unfold contentAfter
  rw [List.getLast?_append]
  cases more.getLast? <;> rfl

end StorageChange

namespace Store

/-- The change that saving makes, if the bag can be written and the storage takes it. -/
def saveChanges (s : Store) : List StorageChange :=
  match storedText? s.props with
  | none => []
  | some text =>
    match s.set s.name (.str text) with
    | (_, none) => [.wrote s.props]
    | (_, some _) => []

/-- The change that clearing makes, if the storage takes part. -/
def clearChanges (s : Store) : List StorageChange :=
  match s.remove s.name with
  | (_, none) => [.removed]
  | (_, some _) => []

def registerChanges (s : Store) (patch : Value) : List StorageChange :=
  match s.props.absorb patch with
  | (props, none) => saveChanges { s with props }
  | (_, some _) => []

def registerOnceChanges (s : Store) (patch : Value) : List StorageChange :=
  match patch with
  | .map entries =>
    match entries.filter fun entry => !s.props.contains entry.1 with
    | [] => []
    | fresh => saveChanges { s with props := s.props.overlay fresh }
  | _ => []

def unregisterChanges (s : Store) (key : Value) : List StorageChange :=
  match s.props.discard key with
  | .ok props => saveChanges { s with props }
  | .error _ => []

def registerEntriesChanges (s : Store) (entries : List (String × Value)) : List StorageChange :=
  saveChanges { s with props := s.props.overlay (entries.map fun (k, v) => (.str k, v)) }

def enterAnonymousChanges (s : Store) : List StorageChange :=
  let (id, ids) := s.ids.device
  registerEntriesChanges { s with ids }
    [(distinctIdKey, .str (deviceMark ++ id)), (deviceIdKey, .str id)]

end Store

/-- The changes that a call makes in the storage. -/
def StoreCall.changes (s : Store) : StoreCall → List StorageChange
  | .register patch => s.registerChanges patch
  | .registerOnce patch => s.registerOnceChanges patch
  | .unregister key => s.unregisterChanges key
  | .clear => s.clearChanges
  | .save => s.saveChanges
  | .load => []
  | .ensureIdentity => if s.distinctId = "" then s.enterAnonymousChanges else []
  | .identify id =>
    match id with
    | .str text =>
      if text = "" then []
      else s.registerEntriesChanges [(distinctIdKey, .str text), (userIdKey, .str text)]
    | _ => []
  | .reset => s.clearChanges ++ s.clear.enterAnonymousChanges
  | .registerSuper patch =>
    match s.withoutReserved patch with
    | (s, .ok entries) => s.registerChanges (.map entries)
    | (_, .error _) => []
  | .registerSuperOnce patch =>
    match s.withoutReserved patch with
    | (s, .ok entries) => s.registerOnceChanges (.map entries)
    | (_, .error _) => []
  | .unregisterSuper key =>
    if isReserved key then [] else if key.hashable then s.unregisterChanges key else []

/-- A call, and the accesses to the storage that fail while it lasts. -/
structure StoreStep where
  off : List StorageAccess
  call : StoreCall

/-- A store of which some accesses are switched off, and the others on. -/
def Store.switchOff (s : Store) (off : List StorageAccess) : Store :=
  match s.storage with
  | .memory items _ writes => { s with storage := .memory items off writes }
  | .folder _ => s

def StoreStep.perform (s : Store) (step : StoreStep) : Store :=
  step.call.perform (s.switchOff step.off)

/-- All changes that a run makes in the storage, in order. -/
def storageChanges (s : Store) : List StoreStep → List StorageChange
  | [] => []
  | step :: rest =>
    step.call.changes (s.switchOff step.off) ++ storageChanges (step.perform s) rest

/-- What is stored under the store's name, in a storage in memory. -/
def Store.storedContent (s : Store) : Option Value :=
  match s.storage with
  | .memory items _ _ => items.get? s.name
  | .folder _ => none

/-! ## One call -/

/-- A store under a text in a storage in memory. -/
structure Kept (key : Text) (off : List StorageAccess) (content : Option Value) (s : Store) :
    Prop where
  name : s.name = .str key
  memory : ∃ items writes, s.storage = .memory items off writes ∧ items.get? (.str key) = content

/-- From one store to another, the storage made some changes, of which each wrote the bag that the
other store has. -/
structure Moved (s : Store) (changes : List StorageChange) (t : Store) : Prop where
  kept : ∀ {key : Text} {off : List StorageAccess} {content : Option Value},
    Kept key off content s → Kept key off (StorageChange.contentAfter content changes) t
  bags : ∀ bag, .wrote bag ∈ changes → bag = t.props ∧ (Store.storedText? bag).isSome = true

namespace Moved

open Store StorageChange

variable {s t : Store}

theorem quiet (storage : t.storage = s.storage) (name : t.name = s.name) : Moved s [] t where
  kept kept := ⟨name ▸ kept.name, storage ▸ kept.memory⟩
  bags := nofun

theorem before {u : Store} {changes : List StorageChange} (moved : Moved t changes u)
    (storage : t.storage = s.storage) (name : t.name = s.name) : Moved s changes u where
  kept kept := moved.kept ((quiet storage name).kept kept)
  bags := moved.bags

theorem recorded {changes : List StorageChange} (moved : Moved s changes t) (r : LogRecord) :
    Moved s changes (t.record r) where
  kept kept := ⟨(moved.kept kept).name, (moved.kept kept).memory⟩
  bags := moved.bags

theorem save (s : Store) : Moved s s.saveChanges s.save where
  kept := by
    rintro key off stored ⟨named, items, writes, memory, found⟩
    refine ⟨by rw [save_name, named], ?_⟩
    unfold saveChanges Store.save
    cases written : storedText? s.props with
    | none => exact ⟨items, writes, memory, found⟩
    | some text =>
      by_cases switched : .set ∈ off
      · simp only [named, Disk.set_memory_off memory switched]
        exact ⟨items, writes, memory, found⟩
      · simp only [named, Disk.set_memory memory switched]
        refine ⟨items.insert (.str key) (.str text), writes + 1, rfl, ?_⟩
        rw [Mapping.get?_insert, contentAfter, List.getLast?_singleton, Option.map_some,
          Option.getD_some, content, written]
        rfl
  bags := by
    intro bag mem
    unfold saveChanges at mem
    split at mem
    case h_1 => cases mem
    case h_2 text written =>
      split at mem
      · obtain rfl := StorageChange.wrote.inj (List.mem_singleton.1 mem)
        exact ⟨(save_props s).symm, by rw [written]; rfl⟩
      · cases mem

theorem clear (s : Store) : Moved s s.clearChanges s.clear where
  kept := by
    rintro key off stored ⟨named, items, writes, memory, found⟩
    refine ⟨by rw [clear_name, named], ?_⟩
    unfold clearChanges Store.clear
    by_cases switched : .remove ∈ off
    · simp only [named, Disk.remove_memory_off memory switched]
      exact ⟨items, writes, memory, found⟩
    · simp only [named, Disk.remove_memory memory switched]
      exact ⟨items.erase (.str key), writes, rfl, Mapping.get?_erase items (.str key)⟩
  bags := by
    intro bag mem
    unfold clearChanges at mem
    split at mem
    · cases List.mem_singleton.1 mem
    · cases mem

theorem saveWith (s : Store) (props : Mapping) :
    Moved s (saveChanges { s with props }) (Store.save { s with props }) :=
  (save { s with props }).before rfl rfl

theorem registerEntries (s : Store) (entries : List (String × Value)) :
    Moved s (s.registerEntriesChanges entries) (s.registerEntries entries) :=
  saveWith s _

theorem enterAnonymous (s : Store) : Moved s s.enterAnonymousChanges s.enterAnonymous :=
  ((registerEntries { s with ids := s.ids.device.2 } _).before (s := s) rfl rfl).recorded _

theorem register (s : Store) (patch : Value) :
    Moved s (s.registerChanges patch) (s.register patch).1 := by
  unfold registerChanges Store.register
  obtain ⟨props, failure⟩ := s.props.absorb patch
  cases failure with
  | none => exact saveWith s props
  | some kind => exact quiet rfl rfl

theorem registerOnce (s : Store) (patch : Value) :
    Moved s (s.registerOnceChanges patch) (s.registerOnce patch).1 := by
  unfold registerOnceChanges Store.registerOnce
  cases patch with
  | map entries =>
    simp only
    cases entries.filter fun entry => !s.props.contains entry.1 with
    | nil => exact quiet rfl rfl
    | cons entry more => exact saveWith s _
  | _ => exact quiet rfl rfl

theorem unregister (s : Store) (key : Value) :
    Moved s (s.unregisterChanges key) (s.unregister key).1 := by
  unfold unregisterChanges Store.unregister
  cases s.props.discard key with
  | ok props => exact saveWith s props
  | error kind => exact quiet rfl rfl

/-- Clearing removes and writes nothing, so what is written afterwards is all that is written. -/
theorem reset (s : Store) : Moved s (s.clearChanges ++ s.clear.enterAnonymousChanges) s.reset where
  kept kept := by
    rw [contentAfter_append]
    exact (enterAnonymous s.clear).kept ((clear s).kept kept)
  bags := by
    intro bag mem
    rcases List.mem_append.1 mem with mem | mem
    · unfold clearChanges at mem
      split at mem
      · cases List.mem_singleton.1 mem
      · cases mem
    · exact (enterAnonymous s.clear).bags bag mem

theorem identify (s : Store) (id : Value) :
    Moved s ((StoreCall.identify id).changes s) (s.identify id).1 := by
  cases id with
  | str text =>
    rw [StoreCall.changes, Store.identify]
    by_cases empty : text = ""
    · simp only [if_pos empty]
      exact quiet rfl rfl
    · simp only [if_neg empty]
      exact registerEntries s _
  | _ => exact quiet rfl rfl

/-- A call makes the changes that it is said to make. -/
theorem perform (s : Store) (call : StoreCall) : Moved s (call.changes s) (call.perform s) := by
  cases call with
  | register patch => exact register s patch
  | registerOnce patch => exact registerOnce s patch
  | unregister key => exact unregister s key
  | clear => exact clear s
  | save => exact save s
  | load => exact quiet (load_storage s) (load_name s)
  | ensureIdentity =>
    rw [StoreCall.changes, StoreCall.perform, Store.ensureIdentity]
    split
    · exact enterAnonymous s
    · exact quiet rfl rfl
  | identify id => exact identify s id
  | reset => exact reset s
  | registerSuper patch =>
    rw [StoreCall.changes, StoreCall.perform, Store.registerSuper]
    have same := withoutReserved_fst s patch
    generalize s.withoutReserved patch = given at same ⊢
    obtain ⟨warned, outcome⟩ := given
    cases outcome with
    | ok entries => exact (register warned (.map entries)).before same.storage same.name
    | error fault => exact quiet same.storage same.name
  | registerSuperOnce patch =>
    rw [StoreCall.changes, StoreCall.perform, Store.registerSuperOnce]
    have same := withoutReserved_fst s patch
    generalize s.withoutReserved patch = given at same ⊢
    obtain ⟨warned, outcome⟩ := given
    cases outcome with
    | ok entries => exact (registerOnce warned (.map entries)).before same.storage same.name
    | error fault => exact quiet same.storage same.name
  | unregisterSuper key =>
    rw [StoreCall.changes, StoreCall.perform, Store.unregisterSuper]
    split
    · exact quiet rfl rfl
    · split
      · exact unregister s key
      · exact quiet rfl rfl

end Moved

/-! ## Runs -/

namespace Store

@[simp] theorem switchOff_props (s : Store) (off : List StorageAccess) :
    (s.switchOff off).props = s.props := by
  unfold switchOff
  split <;> rfl

end Store

namespace Kept

open StorageChange

variable {key : Text} {off : List StorageAccess} {content : Option Value} {s : Store}

theorem switchOff (kept : Kept key off content s) (off' : List StorageAccess) :
    Kept key off' content (s.switchOff off') := by
  obtain ⟨name, items, writes, memory, found⟩ := kept
  unfold Store.switchOff
  rw [memory]
  exact ⟨name, items, writes, rfl, found⟩

theorem run (kept : Kept key off content s) (steps : List StoreStep) :
    ∃ off', Kept key off' (contentAfter content (storageChanges s steps))
      (steps.foldl StoreStep.perform s) := by
  induction steps generalizing s off content with
  | nil => exact ⟨off, kept⟩
  | cons step rest ih =>
    rw [storageChanges, contentAfter_append]
    exact ih ((Moved.perform _ step.call).kept (kept.switchOff step.off))

theorem storedContent_eq (kept : Kept key off content s) : s.storedContent = content := by
  obtain ⟨name, items, writes, memory, found⟩ := kept
  rw [Store.storedContent, memory, name]
  exact found

end Kept

/-- What is written is a whole bag as it stood after one of the calls. -/
theorem wrote_past_bag {s : Store} {steps : List StoreStep} {bag : Mapping}
    (mem : .wrote bag ∈ storageChanges s steps) :
    (Store.storedText? bag).isSome = true ∧
      ∃ past, past <+: steps ∧ bag = (past.foldl StoreStep.perform s).props := by
  induction steps generalizing s with
  | nil => cases mem
  | cons step rest ih =>
    rcases List.mem_append.1 mem with now | later
    · obtain ⟨same, written⟩ := (Moved.perform _ step.call).bags bag now
      exact ⟨written, [step], ⟨rest, rfl⟩, same⟩
    · obtain ⟨written, past, ⟨others, split⟩, same⟩ := ih later
      exact ⟨written, step :: past, ⟨others, by rw [List.cons_append, split]⟩, same⟩

end EventTracker
