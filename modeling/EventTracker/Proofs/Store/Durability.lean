import EventTracker.Proofs.Store.Changes

/-!
# Opening a store again

If no access to the storage fails and whatever is registered can be written, then after
every call the stored content would be loaded as the normal form of the current bag, or
as the bag itself where nothing has been written yet. A store that is opened anew has
just that, opening it changes nothing, and so it goes on for every further one.
-/

namespace EventTracker

/-- A mapping of which each entry can be written. -/
def AcceptablePatch (patch : Value) : Prop :=
  ∃ entries, patch = .map entries ∧ ∀ entry ∈ entries, Acceptable entry

/-- A call that registers only what can be written. -/
def StoreCall.Accepted : StoreCall → Prop
  | .register patch | .registerOnce patch => AcceptablePatch patch
  | .registerSuper patch | .registerSuperOnce patch => AcceptablePatch patch
  | _ => True

/-- The bag that is loaded from content, if any. -/
def contentBag (content : Option Value) : Mapping :=
  (Store.storedBag? (content.getD .null)).getD []

/-- A store whose stored content would be loaded as the normal form of its bag, or as the bag itself
if it is what was there at first. -/
structure Durable (key : Text) (first : Option Value) (s : Store) : Prop where
  stored : ∃ content, Kept key [] content s ∧
    (contentBag content = normalBag s.props ∨ content = first ∧ contentBag content = s.props)
  acceptable : ∀ entry ∈ s.props, Acceptable entry

theorem acceptable_overlay {props patch : Mapping} (all : ∀ entry ∈ props, Acceptable entry)
    (given : ∀ entry ∈ patch, Acceptable entry) :
    ∀ entry ∈ props.overlay patch, Acceptable entry := by
  simp only [acceptable_iff] at all given ⊢
  exact Entries.forall_overlay (P := fun k : Value => k.spellable = true)
    (Q := fun v : Value => v.writable = true ∧ v.depth + 1 ≤ maxDepth) all given

namespace Durable

open Store StorageChange

variable {key : Text} {first content : Option Value} {s t : Store}

theorem quiet (durable : Durable key first s) (storage : t.storage = s.storage) (name : t.name = s.name)
    (props : t.props = s.props) : Durable key first t := by
  obtain ⟨⟨content, kept, loaded⟩, acceptable⟩ := durable
  exact ⟨⟨content, (Moved.quiet storage name).kept kept, props ▸ loaded⟩, props ▸ acceptable⟩

theorem of_save (kept : Kept key [] content s) (acceptable : ∀ entry ∈ s.props, Acceptable entry) :
    Durable key first s.save := by
  obtain ⟨text, written, encoded⟩ := exists_storedText?_eq acceptable
  have changes : s.saveChanges = [.wrote s.props] := by
    obtain ⟨name, items, writes, memory, -⟩ := kept
    rw [saveChanges, written]
    simp only [name, Disk.set_memory memory (List.not_mem_nil)]
  have saved := (Moved.save s).kept kept
  rw [changes] at saved
  refine ⟨⟨_, saved, ?_⟩, by rwa [save_props]⟩
  have stored : contentAfter content [.wrote s.props] = some (.str text) := by
    rw [contentAfter, List.getLast?_singleton, Option.map_some, Option.getD_some,
      StorageChange.content, written]
    rfl
  left
  rw [stored, contentBag, Option.getD_some, storedBag?_of_encode encoded, save_props]
  rfl

theorem saveWith (durable : Durable key first s) {props : Mapping}
    (acceptable : ∀ entry ∈ props, Acceptable entry) :
    Durable key first (Store.save { s with props }) := by
  obtain ⟨⟨content, kept, -⟩, -⟩ := durable
  exact of_save (s := { s with props }) ⟨kept.name, kept.memory⟩ acceptable

theorem clear (durable : Durable key first s) : Durable key first s.clear := by
  obtain ⟨⟨content, kept, -⟩, -⟩ := durable
  have changes : s.clearChanges = [.removed] := by
    obtain ⟨name, items, writes, memory, -⟩ := kept
    rw [clearChanges]
    simp only [name, Disk.remove_memory memory (List.not_mem_nil)]
  have cleared := (Moved.clear s).kept kept
  rw [changes] at cleared
  refine ⟨⟨_, cleared, ?_⟩, ?_⟩
  · rw [clear_props]
    exact .inl rfl
  · rw [clear_props]
    exact List.forall_mem_nil _

theorem get_eq (kept : Kept key [] content s) : s.get s.name = .ok (content.getD .null) := by
  obtain ⟨name, items, writes, memory, found⟩ := kept
  rw [name, Disk.get_memory memory (List.not_mem_nil), found]

theorem load (durable : Durable key first s) : Durable key first s.load := by
  obtain ⟨⟨content, kept, loaded⟩, acceptable⟩ := durable
  have props := load_props s (get_eq kept)
  have kept' := (Moved.quiet (load_storage s) (load_name s)).kept kept
  cases found : storedBag? (content.getD .null) with
  | none =>
    rw [found, Option.getD_none] at props
    exact Durable.quiet ⟨⟨content, kept, loaded⟩, acceptable⟩ (load_storage s) (load_name s) props
  | some entries =>
    rw [found, Option.getD_some] at props
    have bag : contentBag content = s.load.props := by rw [contentBag, found, props]; rfl
    refine ⟨⟨content, kept', ?_⟩, by rw [props]; exact acceptable_of_storedBag? found⟩
    rw [← bag]
    obtain normal | ⟨untouched, -⟩ := loaded
    · left
      rw [normal, normalBag_normalBag acceptable]
    · exact .inr ⟨untouched, rfl⟩

theorem registerEntries (durable : Durable key first s) {entries : List (String × Value)}
    (acceptable : ∀ entry ∈ entries, Acceptable (.str entry.1, entry.2)) :
    Durable key first (s.registerEntries entries) := by
  refine durable.saveWith (acceptable_overlay durable.acceptable fun entry mem => ?_)
  obtain ⟨given, here, rfl⟩ := List.mem_map.1 mem
  exact acceptable given here

/-- The entries of the identity are texts, which can be written. -/
theorem registerTexts (durable : Durable key first s) (k k' : String) (text text' : Text) :
    Durable key first (s.registerEntries [(k, .str text), (k', .str text')]) := by
  have acceptable : ∀ k text : Text, Acceptable (.str k, .str text) := fun _ _ =>
    acceptable_iff.2 ⟨rfl, rfl, show 0 + 1 ≤ maxDepth by decide⟩
  refine durable.registerEntries fun entry mem => ?_
  simp only [List.mem_cons, List.not_mem_nil, or_false] at mem
  rcases mem with rfl | rfl <;> exact acceptable _ _

theorem enterAnonymous (durable : Durable key first s) : Durable key first s.enterAnonymous := by
  have drawn : Durable key first { s with ids := s.ids.device.2 } := durable.quiet rfl rfl rfl
  exact (drawn.registerTexts distinctIdKey deviceIdKey _ _).quiet rfl rfl rfl

theorem register (durable : Durable key first s) {patch : Value} (accepted : AcceptablePatch patch) :
    Durable key first (s.register patch).1 := by
  obtain ⟨entries, rfl, acceptable⟩ := accepted
  exact durable.saveWith (acceptable_overlay durable.acceptable acceptable)

theorem registerOnce (durable : Durable key first s) {patch : Value} (accepted : AcceptablePatch patch) :
    Durable key first (s.registerOnce patch).1 := by
  obtain ⟨entries, rfl, acceptable⟩ := accepted
  rcases s.registerOnce_cases entries with same | saved
  · rw [same]
    exact durable
  · rw [saved]
    exact durable.saveWith (acceptable_overlay durable.acceptable fun entry mem =>
      acceptable entry (List.mem_filter.1 mem).1)

theorem unregister (durable : Durable key first s) (k : Value) : Durable key first (s.unregister k).1 := by
  rcases s.unregister_cases k with ⟨fault, refused⟩ | saved
  · rw [refused]
    exact durable
  · rw [saved]
    exact durable.saveWith fun entry mem =>
      durable.acceptable entry (Entries.mem_of_mem_erase mem)

theorem hashable_of_spellable {k : Value} (spellable : k.spellable = true) : k.hashable = true := by
  cases k <;> first | rfl | cases spellable

theorem registerSuper (durable : Durable key first s) {patch : Value} (accepted : AcceptablePatch patch) :
    Durable key first (s.registerSuper patch).1 := by
  obtain ⟨entries, rfl, acceptable⟩ := accepted
  obtain ⟨warned, same, given⟩ := s.exists_withoutReserved_eq fun entry mem =>
    hashable_of_spellable (acceptable_iff.1 (acceptable entry mem)).1
  rw [Store.registerSuper, given]
  exact (durable.quiet same.storage same.name same.props).register
    ⟨_, rfl, fun entry mem => acceptable entry (List.mem_filter.1 mem).1⟩

theorem registerSuperOnce (durable : Durable key first s) {patch : Value}
    (accepted : AcceptablePatch patch) : Durable key first (s.registerSuperOnce patch).1 := by
  obtain ⟨entries, rfl, acceptable⟩ := accepted
  obtain ⟨warned, same, given⟩ := s.exists_withoutReserved_eq fun entry mem =>
    hashable_of_spellable (acceptable_iff.1 (acceptable entry mem)).1
  rw [Store.registerSuperOnce, given]
  exact (durable.quiet same.storage same.name same.props).registerOnce
    ⟨_, rfl, fun entry mem => acceptable entry (List.mem_filter.1 mem).1⟩

theorem identify (durable : Durable key first s) (id : Value) : Durable key first (s.identify id).1 := by
  cases id with
  | str text =>
    rw [Store.identify]
    split
    · exact durable
    · exact durable.registerTexts distinctIdKey userIdKey text text
  | _ => exact durable

/-- A call that registers only what can be written keeps the store durable. -/
theorem perform (durable : Durable key first s) {call : StoreCall} (accepted : call.Accepted) :
    Durable key first (call.perform s) := by
  cases call with
  | register patch => exact durable.register accepted
  | registerOnce patch => exact durable.registerOnce accepted
  | unregister k => exact durable.unregister k
  | clear => exact durable.clear
  | save => exact durable.saveWith durable.acceptable
  | load => exact durable.load
  | ensureIdentity =>
    rw [StoreCall.perform, Store.ensureIdentity]
    split
    · exact durable.enterAnonymous
    · exact durable
  | identify id => exact durable.identify id
  | reset => exact durable.clear.enterAnonymous
  | registerSuper patch => exact durable.registerSuper accepted
  | registerSuperOnce patch => exact durable.registerSuperOnce accepted
  | unregisterSuper k =>
    rw [StoreCall.perform, Store.unregisterSuper]
    split
    · exact durable.quiet rfl rfl rfl
    · split
      · exact durable.unregister k
      · exact durable

theorem switchOff (durable : Durable key first s) : Durable key first (s.switchOff []) := by
  obtain ⟨⟨content, kept, loaded⟩, acceptable⟩ := durable
  exact ⟨⟨content, kept.switchOff [], by rwa [switchOff_props]⟩, by rwa [switchOff_props]⟩

theorem run (durable : Durable key first s) {steps : List StoreStep}
    (all : ∀ step ∈ steps, step.off = [] ∧ step.call.Accepted) :
    Durable key first (steps.foldl StoreStep.perform s) := by
  induction steps generalizing s with
  | nil => exact durable
  | cons step rest ih =>
    obtain ⟨⟨on, accepted⟩, others⟩ := List.forall_mem_cons.1 all
    have performed : Durable key first (step.perform s) := by
      rw [StoreStep.perform, on]
      exact durable.switchOff.perform accepted
    exact ih performed others

end Durable

/-! ## Opening again -/

/-- The store that is opened on the desk and under the name of another one. -/
def Store.reopen (s : Store) (debug : Bool) : Store := Store.openNew s.toDesk s.name debug

theorem durable_load_of_kept {key : Text} {content : Option Value} {s : Store} (empty : s.props = [])
    (kept : Kept key [] content s) : Durable key content s.load := by
  have props := Store.load_props s (Durable.get_eq kept)
  rw [empty] at props
  refine ⟨⟨content, (Moved.quiet (Store.load_storage s) (Store.load_name s)).kept kept,
    .inr ⟨rfl, props.symm⟩⟩, ?_⟩
  rw [props]
  cases found : Store.storedBag? (content.getD .null) with
  | none => exact List.forall_mem_nil _
  | some entries => exact Store.acceptable_of_storedBag? found

variable {key : Text} {content : Option Value} {s : Store}

/-- A store that is opened anew has the bag of the stored content, which stays as it is. -/
theorem Kept.reopen (kept : Kept key [] content s) (debug : Bool) :
    Kept key [] content (s.reopen debug) ∧ (s.reopen debug).props = contentBag content := by
  have emptied : Kept key [] content { s with props := [], debug } := ⟨kept.name, kept.memory⟩
  exact ⟨(Moved.quiet (Store.load_storage _) (Store.load_name _)).kept emptied,
    Store.load_props _ (Durable.get_eq emptied)⟩

/-- Opening anew, and over and over, gives the same bag and leaves the storage alone. -/
theorem Kept.restart (kept : Kept key [] content s) (debug : Bool) (debugs : List Bool) :
    ((debug :: debugs).foldl Store.reopen s).props = contentBag content ∧
      ((debug :: debugs).foldl Store.reopen s).storage = s.storage ∧
      ((debug :: debugs).foldl Store.reopen s).files = s.files := by
  obtain ⟨opened, props⟩ := kept.reopen debug
  have storage : (s.reopen debug).storage = s.storage := Store.load_storage _
  have files : (s.reopen debug).files = s.files := Store.load_files _
  induction debugs generalizing s debug with
  | nil => exact ⟨props, storage, files⟩
  | cons debug' debugs ih =>
    obtain ⟨opened', props'⟩ := opened.reopen debug'
    have later := ih opened debug' opened' props' (Store.load_storage _) (Store.load_files _)
    rw [storage, files] at later
    exact later

/-- Whatever accesses fail in a run, what is stored is what the last change left, and each bag that
was written stood after one of the calls. If nothing fails and only what can be written is
registered, then every store that is opened anew has the normal form of the bag, or the bag itself
where the content is still what was there at first, and opening it changes nothing. -/
theorem storage_holds_past_bag (desk : Desk) (items : Mapping) (off : List StorageAccess)
    (writes : Nat) (key : Text) (debug : Bool) (steps : List StoreStep) :
    let opened := Store.openNew { desk with storage := .memory items off writes } (.str key) debug
    let reached := steps.foldl StoreStep.perform opened
    let changes := storageChanges opened steps
    reached.storedContent = StorageChange.contentAfter (items.get? (.str key)) changes ∧
      (∀ bag, .wrote bag ∈ changes → (Store.storedText? bag).isSome = true ∧
        ∃ past, past <+: steps ∧ bag = (past.foldl StoreStep.perform opened).props) ∧
      (off = [] → (∀ step ∈ steps, step.off = [] ∧ step.call.Accepted) →
        ∀ (first : Bool) (others : List Bool),
          let again := (first :: others).foldl Store.reopen reached
          (Value.map again.props = (Value.map reached.props).normal ∨
            reached.storedContent = items.get? (.str key) ∧ again.props = reached.props) ∧
          again.storage = reached.storage ∧ again.files = reached.files) := by
  intro opened reached changes
  have kept : Kept key off (items.get? (.str key)) opened :=
    ⟨Store.load_name _, items, writes, Store.load_storage _, rfl⟩
  refine ⟨?_, fun bag mem => wrote_past_bag mem, fun on all first others => ?_⟩
  · obtain ⟨off', kept⟩ := kept.run steps
    exact kept.storedContent_eq
  · subst on
    have durable : Durable key (items.get? (.str key)) opened :=
      durable_load_of_kept rfl ⟨rfl, items, writes, rfl, rfl⟩
    obtain ⟨⟨content, kept, loaded⟩, -⟩ := durable.run all
    obtain ⟨props, storage, files⟩ := kept.restart first others
    refine ⟨loaded.imp ?_ ?_, storage, files⟩
    · intro normal
      exact congrArg Value.map (props.trans normal)
    · rintro ⟨untouched, same⟩
      exact ⟨kept.storedContent_eq.trans untouched, props.trans same⟩

/-- With two keys of one spelling, a tuple and a text outside ASCII in the bag, two restarts give
the later value at the earlier place. -/
theorem storage_holds_past_bag_collision :
    let desk : Desk := ⟨⟨.memory [] [] 0, ⟨[]⟩, []⟩, ⟨.succ, 0, []⟩, .ticking 0⟩
    let steps : List StoreStep :=
      [⟨[], .register (.map [(.bool true, .null), (.str "é", .tuple [.str "😀"])])⟩,
       ⟨[], .registerOnce (.map [(.str "true", .str "later")])⟩]
    let opened := Store.openNew { desk with storage := .memory [] [] 0 } (.str "bag") false
    let reached := steps.foldl StoreStep.perform opened
    Value.map ([true, false].foldl Store.reopen reached).props =
      .map [(.str "true", .str "later"), (.str "é", .list [.str "😀"])] := by
  intro desk steps opened reached
  have accepted : ∀ step ∈ steps, step.off = [] ∧ step.call.Accepted := by
    intro step mem
    simp only [steps, List.mem_cons, List.not_mem_nil, or_false] at mem
    rcases mem with rfl | rfl
    · refine ⟨rfl, _, rfl, fun entry mem => acceptable_iff.2 ?_⟩
      simp only [List.mem_cons, List.not_mem_nil, or_false] at mem
      rcases mem with rfl | rfl <;> decide
    · refine ⟨rfl, _, rfl, fun entry mem => acceptable_iff.2 ?_⟩
      obtain rfl := List.mem_singleton.1 mem
      decide
  have empty : opened.props = [] := rfl
  have props : reached.props =
      [(.bool true, .null), (.str "é", .tuple [.str "😀"]), (.str "true", .str "later")] := by
    simp [reached, steps, StoreStep.perform, StoreCall.perform, Store.register, Store.registerOnce,
      Mapping.absorb, empty, Mapping.overlay, Entries.overlay, Entries.put, Mapping.contains,
      Value.sameKey, Value.fingerprint]
  obtain ⟨-, -, holds⟩ := storage_holds_past_bag desk [] [] 0 "bag" false steps
  have written : reached.storedContent.isSome = true := by decide +kernel
  obtain ⟨restarted | ⟨untouched, -⟩, -, -⟩ := holds rfl accepted true [false]
  · refine restarted.trans ?_
    rw [props]
    rfl
  · rw [untouched] at written
    cases written

/-- A key of two surrogates that stand for a character is written, and after a restart the bag has
the character in the place of the key. -/
theorem storage_joins_surrogates :
    let desk : Desk := ⟨⟨.memory [] [] 0, ⟨[]⟩, []⟩, ⟨.succ, 0, []⟩, .ticking 0⟩
    let pair : Text := .ofPoints [.surrogate 0x3D, .surrogate 0x600]
    let opened := Store.openNew desk (.str "bag") false
    let reached := (StoreStep.mk [] (.register (.map [(.str pair, .bool true)]))).perform opened
    Acceptable (.str pair, .bool true) ∧ reached.props = [(.str pair, .bool true)] ∧
      (reached.reopen false).props = [(.str "😀", .bool true)] ∧ pair ≠ .plain "😀" := by
  intro desk pair opened reached
  have acceptable : Acceptable (.str pair, .bool true) := acceptable_iff.2 (by decide)
  have props : reached.props = [(.str pair, .bool true)] := rfl
  have durable : Durable "bag" none opened := durable_load_of_kept rfl ⟨rfl, [], 0, rfl, rfl⟩
  have accepted : AcceptablePatch (.map [(.str pair, .bool true)]) :=
    ⟨_, rfl, List.forall_mem_singleton.2 acceptable⟩
  obtain ⟨⟨content, kept, normal | ⟨rfl, same⟩⟩, -⟩ := durable.switchOff.register accepted
  · refine ⟨acceptable, props, ?_, by decide⟩
    exact ((Kept.reopen kept false).2.trans normal).trans rfl
  · cases same

end EventTracker
