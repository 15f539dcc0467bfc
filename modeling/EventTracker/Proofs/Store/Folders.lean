import EventTracker.Proofs.Storage.Accesses
import EventTracker.Proofs.Store.Lockstep

/-!
# Stores in a folder and in memory

Reading a file unifies its line ends, but no text that a store writes has a carriage
return: a bag is written as ASCII JSON, which has no control characters. So a store in a
folder that starts empty and one in memory go through the same calls with the same bags
and the same results, and the file of the store's name holds what the memory holds.
-/

namespace EventTracker

namespace Store

/-- What a bag is stored as has no control characters. -/
theorem uncontrolled_of_storedText? {props : Mapping} {text : String}
    (written : storedText? props = some text) : Json.Uncontrolled text.toList := by
  unfold storedText? at written
  cases encoded : Json.encode true (.map props) with
  | error kind =>
    rw [encoded] at written
    cases written
  | ok other =>
    rw [encoded] at written
    obtain rfl := Option.some.inj written
    exact Json.uncontrolled_encode encoded

end Store

/-- A store in a folder and one in memory under the same name, with the same bag and the same source
of ids. Both hold the same texts, of which that of the name has no control characters. -/
structure Paired (folder : Path) (key : String) (s m : Store) : Prop where
  props : m.props = s.props
  ids : m.ids = s.ids
  named : s.name = .str key ∧ m.name = .str key
  held : ∃ texts, s.toDisk.InFolder folder texts ∧ m.toDisk.InMemory texts ∧
    ∀ text, texts key = some text → Json.Uncontrolled text.toList

namespace Paired

open Store

variable {folder : Path} {key : String} {s m : Store}

theorem withProps (paired : Paired folder key s m) (props : Mapping) :
    Paired folder key { s with props } { m with props } :=
  ⟨rfl, paired.ids, paired.named, paired.held⟩

theorem withIds (paired : Paired folder key s m) (ids : IdSource) :
    Paired folder key { s with ids } { m with ids } :=
  ⟨paired.props, rfl, paired.named, paired.held⟩

theorem of_sameBut {s' m' : Store} (paired : Paired folder key s m) (left : SameBut s s')
    (right : SameBut m m') : Paired folder key s' m' where
  props := by rw [right.props, left.props, paired.props]
  ids := by rw [right.ids, left.ids, paired.ids]
  named := by rw [left.name, right.name]; exact paired.named
  held := by
    obtain ⟨texts, ⟨place, keeps⟩, ⟨items, writes, memory, kept⟩, plain⟩ := paired.held
    exact ⟨texts, ⟨left.storage.trans place, left.files ▸ keeps⟩,
      ⟨items, writes, right.storage.trans memory, kept⟩, plain⟩

theorem record (paired : Paired folder key s m) (r r' : LogRecord) :
    Paired folder key (s.record r) (m.record r') :=
  paired.of_sameBut ⟨rfl, rfl, rfl, rfl, rfl⟩ ⟨rfl, rfl, rfl, rfl, rfl⟩

section Admits

variable (paired : Paired folder key s m) (usable : Storage.isUsable folder = true)
  (admits : Storage.Admits folder key)

include paired usable admits

/-- Both stores write the same text, or none. -/
theorem save : Paired folder key s.save m.save := by
  obtain ⟨texts, ⟨place, keeps⟩, ⟨items, writes, memory, kept⟩, plain⟩ := paired.held
  unfold Store.save
  rw [paired.props]
  cases written : storedText? s.props with
  | none => exact paired.record _ _
  | some text =>
    obtain ⟨files, log, done, keeps⟩ := Disk.exists_set_of_keeps place usable keeps admits text
    simp only [paired.named.1, paired.named.2, done, Disk.set_memory memory List.not_mem_nil]
    refine ⟨paired.props, paired.ids, paired.named, _, ⟨place, keeps⟩,
      ⟨_, _, rfl, kept.insert key text⟩, fun other found => ?_⟩
    obtain rfl : text = other := by simpa using found
    exact uncontrolled_of_storedText? written

theorem clear : Paired folder key s.clear m.clear := by
  obtain ⟨texts, ⟨place, keeps⟩, ⟨items, writes, memory, kept⟩, plain⟩ := paired.held
  unfold Store.clear
  obtain ⟨files, done, keeps⟩ := Disk.exists_remove_of_keeps place usable keeps admits
  simp only [paired.named.1, paired.named.2, done, Disk.remove_memory memory List.not_mem_nil]
  refine ⟨rfl, paired.ids, ⟨rfl, rfl⟩, _, ⟨place, keeps⟩, ⟨_, _, rfl, kept.erase key⟩,
    fun other found => ?_⟩
  simp at found

/-- Both stores read the same text, or nothing. -/
theorem exists_get : ∃ stored, s.get s.name = .ok stored ∧ m.get m.name = .ok stored := by
  obtain ⟨texts, ⟨place, keeps⟩, ⟨items, writes, memory, kept⟩, plain⟩ := paired.held
  rw [paired.named.1, paired.named.2, Disk.get_of_keeps place usable keeps admits,
    Disk.get_memory memory List.not_mem_nil, kept key]
  cases held : texts key with
  | none => exact ⟨_, rfl, rfl⟩
  | some text =>
    have read := Storage.readBack_eq_self_iff.2 (plain text held).return_notMem
    rw [Option.map_some, Option.map_some, read]
    exact ⟨_, rfl, rfl⟩

theorem get_eq : m.get m.name = s.get s.name := by
  obtain ⟨stored, left, right⟩ := paired.exists_get usable admits
  rw [left, right]

omit paired in
theorem lockstep : Lockstep (Paired folder key) where
  props paired := paired.props
  ids paired := paired.ids
  get paired := paired.get_eq usable admits
  of_sameBut paired := paired.of_sameBut
  withProps paired := paired.withProps
  withIds paired := paired.withIds
  save paired := paired.save usable admits
  clear paired := paired.clear usable admits

theorem load : Paired folder key s.load m.load := (lockstep usable admits).load paired

theorem used (uses : List StoreUse) : Paired folder key (s.used uses) (m.used uses) := by
  induction uses generalizing s m with
  | nil => exact paired
  | cons use rest ih => exact ih ((lockstep usable admits).use paired use).1

theorem trace_eq (uses : List StoreUse) : m.trace uses = s.trace uses := by
  induction uses generalizing s m with
  | nil => rfl
  | cons use rest ih =>
    obtain ⟨after, result⟩ := (lockstep usable admits).use paired use
    rw [Store.trace, Store.trace, ih after, result, after.props]

end Admits

/-- What is stored under the name is the same text in both, or nothing. -/
theorem exists_content (paired : Paired folder key s m) (admits : Storage.Admits folder key) :
    ∃ content : Option String,
      s.files.read (Storage.entryPath folder (Storage.stemOf key)) =
        .ok (content.map utf8Bytes) ∧
      m.storedContent = content.map fun text => .str (.plain text) := by
  obtain ⟨texts, ⟨place, keeps⟩, ⟨items, writes, memory, kept⟩, plain⟩ := paired.held
  refine ⟨texts key, keeps.read_entry admits, ?_⟩
  rw [storedContent, memory, paired.named.2]
  exact kept key

end Paired

/-- A store in a folder that is empty at first and one in an empty memory, opened under a name whose
file the folder takes and used alike: every use gives the same result on both and leaves the same
bag, and in the end the file of the name holds exactly the text that the memory holds, or there is
none. -/
theorem store_in_folder_as_in_memory {folder : Path} {files made files' : FileTree} {key : String}
    (usable : Storage.isUsable folder = true) (admits : Storage.Admits folder key)
    (ensured : files.ensureFolder folder = (made, none)) (empty : made.StandsEmpty folder)
    (log log' : List LogRecord) (writes : Nat) (ids : IdSource) (clock : Clock) (debug : Bool)
    (uses : List StoreUse) :
    let s := Store.openNew ⟨⟨.folder folder, files, log⟩, ids, clock⟩ (.str key) debug
    let m := Store.openNew ⟨⟨.memory [] [] writes, files', log'⟩, ids, clock⟩ (.str key) debug
    s.props = m.props ∧ s.trace uses = m.trace uses ∧
      ∃ content : Option String,
        (s.used uses).files.read (Storage.entryPath folder (Storage.stemOf key)) =
          .ok (content.map utf8Bytes) ∧
        (m.used uses).storedContent = content.map fun text => .str (.plain text) := by
  intro s m
  have paired : Paired folder key s m := by
    refine Paired.load ⟨rfl, rfl, ⟨rfl, rfl⟩, fun _ => none, ?_, ?_, nofun⟩ usable admits
    · exact ⟨rfl, FileTree.keeps_none ensured empty⟩
    · exact ⟨[], writes, rfl, fun _ => rfl⟩
  exact ⟨paired.props.symm, (paired.trace_eq usable admits uses).symm,
    (paired.used usable admits uses).exists_content admits⟩

/-- A bag with a carriage return in it is loaded again from the file, which holds its JSON text. -/
theorem store_in_folder_as_in_memory_return :
    let uses : List StoreUse :=
      [.ask (.register (.map [(.str "a", .str "x\r")])), .reopen false, .property (.str "a")]
    let s := Store.openNew ⟨⟨.folder ["state"], ⟨[]⟩, []⟩, ⟨.succ, 0, []⟩, .ticking 0⟩ (.str "mon_T") false
    let m := Store.openNew ⟨⟨.memory [] [] 0, ⟨[]⟩, []⟩, ⟨.succ, 0, []⟩, .ticking 0⟩ (.str "mon_T") false
    s.trace uses = m.trace uses ∧
      (s.used uses).files.read ["state", "mon_T.json"] =
        .ok (some (utf8Bytes "\x7b\"a\":\"x\\r\"\x7d")) := by
  intro uses s m
  have admits : Storage.Admits ["state"] "mon_T" :=
    Storage.admits_below_root (by decide) (by decide)
  obtain ⟨-, same, -⟩ : s.props = m.props ∧ s.trace uses = m.trace uses ∧ _ :=
    store_in_folder_as_in_memory rfl admits
      (FileTree.ensureFolder_below_root ⟨by decide, by decide⟩)
      (FileTree.standsEmpty_ofFolder ⟨by decide, by decide⟩) [] [] 0 ⟨.succ, 0, []⟩ (.ticking 0) false uses
  exact ⟨same, by decide +kernel⟩

end EventTracker
