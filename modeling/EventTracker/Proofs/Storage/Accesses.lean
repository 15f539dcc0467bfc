import EventTracker.Proofs.Storage.Folder
import Mathlib.Data.List.Induction

/-!
# Accesses one after another

A storage in memory is a map from keys to texts: after any accesses, what is read under a
key is the text that was last set under it and not removed since. A storage in a folder
that starts empty is the same map, with one difference: what is read has its line ends
unified. So the two storages answer alike exactly as long as no text that is read back
has a carriage return.
-/

namespace EventTracker

/-- An access to a storage under a text key. -/
inductive StorageCall where
  | get (key : String)
  | set (key text : String)
  | remove (key : String)

namespace StorageCall

def key : StorageCall → String
  | .get key | .set key _ | .remove key => key

/-- The disk after an access, and what the access gives. -/
def perform (d : Disk) : StorageCall → Disk × Except Fault Value
  | .get key => (d, d.get (.str key))
  | .set key text => finish (d.set (.str key) (.str text))
  | .remove key => finish (d.remove (.str key))
where
  finish : Disk × Option Fault → Disk × Except Fault Value
    | (d, none) => (d, .ok .null)
    | (d, some fault) => (d, .error fault)

/-- What an access makes of a map from keys to texts. -/
def act (texts : String → Option String) : StorageCall → String → Option String
  | .get _ => texts
  | .set key text => Function.update texts key (some text)
  | .remove key => Function.update texts key none

/-- What an access gives on a map from keys to texts. -/
def answer (texts : String → Option String) : StorageCall → Value
  | .get key => ((texts key).map fun text => .str text).getD .null
  | .set _ _ | .remove _ => .null

/-- The texts by their keys after past accesses, of which the first found nothing. -/
def textsAfter (past : List StorageCall) : String → Option String := past.foldl act fun _ => none

theorem textsAfter_append_singleton (past : List StorageCall) (call : StorageCall) :
    textsAfter (past ++ [call]) = call.act (textsAfter past) := by
  rw [textsAfter, List.foldl_append]
  rfl

end StorageCall

namespace Disk

/-- A storage in memory, with no access switched off, that holds the texts of a map. -/
def InMemory (texts : String → Option String) (d : Disk) : Prop :=
  ∃ items writes, d.storage = .memory items [] writes ∧ items.Keeps texts

/-- A storage in a folder that holds the texts of a map. -/
structure InFolder (folder : Path) (texts : String → Option String) (d : Disk) : Prop where
  place : d.storage = .folder folder
  keeps : d.files.Keeps folder texts

/-- The disk after accesses one after another. -/
def after (d : Disk) (past : List StorageCall) : Disk :=
  past.foldl (fun d call => (call.perform d).1) d

/-! ## One access -/

section Access

variable {d : Disk} {folder : Path} {texts : String → Option String}

theorem InMemory.perform (held : d.InMemory texts) (call : StorageCall) :
    (call.perform d).1.InMemory (call.act texts) ∧
      (call.perform d).2 = .ok (call.answer texts) := by
  obtain ⟨items, writes, memory, keeps⟩ := held
  cases call with
  | get key =>
    refine ⟨⟨items, writes, memory, keeps⟩, ?_⟩
    rw [StorageCall.perform, get_memory memory List.not_mem_nil, keeps key]
    rfl
  | set key text =>
    rw [StorageCall.perform, set_memory memory List.not_mem_nil]
    exact ⟨⟨_, _, rfl, keeps.insert key text⟩, rfl⟩
  | remove key =>
    rw [StorageCall.perform, remove_memory memory List.not_mem_nil]
    exact ⟨⟨_, _, rfl, keeps.erase key⟩, rfl⟩

/-- In a folder an access acts in the same way, and answers as if each text had been set with its
line ends unified. -/
theorem InFolder.perform (held : d.InFolder folder texts) (usable : Storage.isUsable folder = true)
    {call : StorageCall} (admits : Storage.Admits folder call.key) :
    (call.perform d).1.InFolder folder (call.act texts) ∧
      (call.perform d).2 = .ok (call.answer fun key => (texts key).map Storage.readBack) := by
  obtain ⟨place, keeps⟩ := held
  cases call with
  | get key =>
    refine ⟨⟨place, keeps⟩, ?_⟩
    replace admits : Storage.Admits folder key := admits
    rw [StorageCall.perform, get_of_keeps place usable keeps admits, StorageCall.answer,
      Option.map_map]
    rfl
  | set key text =>
    replace admits : Storage.Admits folder key := admits
    obtain ⟨files, log, done, keeps⟩ := exists_set_of_keeps place usable keeps admits text
    rw [StorageCall.perform, done]
    exact ⟨⟨place, keeps⟩, rfl⟩
  | remove key =>
    replace admits : Storage.Admits folder key := admits
    obtain ⟨files, done, keeps⟩ := exists_remove_of_keeps place usable keeps admits
    rw [StorageCall.perform, done]
    exact ⟨⟨place, keeps⟩, rfl⟩

end Access

/-! ## Accesses one after another -/

variable {d m : Disk} {folder : Path} {past : List StorageCall} {call : StorageCall}

theorem InMemory.after (held : d.InMemory fun _ => none) (past : List StorageCall) :
    (d.after past).InMemory (StorageCall.textsAfter past) := by
  induction past using List.reverseRecOn with
  | nil => exact held
  | append_singleton past call ih =>
    rw [Disk.after, List.foldl_append, StorageCall.textsAfter_append_singleton]
    exact (ih.perform call).1

theorem InFolder.after (held : d.InFolder folder fun _ => none)
    (usable : Storage.isUsable folder = true)
    (admits : ∀ call ∈ past, Storage.Admits folder call.key) :
    (d.after past).InFolder folder (StorageCall.textsAfter past) := by
  induction past using List.reverseRecOn with
  | nil => exact held
  | append_singleton past call ih =>
    obtain ⟨before, last⟩ := List.forall_mem_append.1 admits
    rw [Disk.after, List.foldl_append, StorageCall.textsAfter_append_singleton]
    exact ((ih before).perform usable (last call List.mem_cons_self)).1

/-- A storage in memory and one in a folder, both empty at first, after the same accesses. Neither
fails the next access. The one in memory answers it with the text that was last set, the one in the
folder with that text after its line ends were unified; so they answer alike if and only if the text
has no carriage return. -/
theorem folder_answers_with_line_ends_unified {made : FileTree} {writes : Nat}
    (inMemory : m.storage = .memory [] [] writes) (inFolder : d.storage = .folder folder)
    (usable : Storage.isUsable folder = true) (ensured : d.files.ensureFolder folder = (made, none))
    (empty : made.StandsEmpty folder)
    (admits : ∀ other ∈ past ++ [call], Storage.Admits folder other.key) :
    let texts := StorageCall.textsAfter past
    (call.perform (m.after past)).2 = .ok (call.answer texts) ∧
      (call.perform (d.after past)).2 =
        .ok (call.answer fun key => (texts key).map Storage.readBack) ∧
      ((call.perform (d.after past)).2 = (call.perform (m.after past)).2 ↔
        ∀ text : String, call.answer texts = .str text → '\r' ∉ text.toList) := by
  obtain ⟨before, last⟩ := List.forall_mem_append.1 admits
  have started : m.InMemory fun _ => none := ⟨[], writes, inMemory, fun _ => rfl⟩
  have opened : d.InFolder folder fun _ => none := ⟨inFolder, FileTree.keeps_none ensured empty⟩
  obtain ⟨-, remembered⟩ := (started.after past).perform call
  obtain ⟨-, read⟩ := (opened.after usable before).perform usable (last call List.mem_cons_self)
  refine ⟨remembered, read, ?_⟩
  rw [read, remembered, Except.ok.injEq]
  cases call with
  | get key =>
    cases held : StorageCall.textsAfter past key with
    | none => simp [StorageCall.answer, held]
    | some text => simp [StorageCall.answer, held, Storage.readBack_eq_self_iff]
  | set key text => simp [StorageCall.answer]
  | remove key => simp [StorageCall.answer]

/-- Of two keys that are set, the one whose text has only line feeds is read back as it was. -/
theorem folder_answers_with_line_ends_unified_line_feed :
    let past := [StorageCall.set "a/b" "one\ntwo", .set "k" "\r", .remove "k"]
    let call := StorageCall.get "a/b"
    (call.perform (Disk.after ⟨.folder ["state"], ⟨[]⟩, []⟩ past)).2 =
      (call.perform (Disk.after ⟨.memory [] [] 0, ⟨[]⟩, []⟩ past)).2 := by
  intro past call
  have admits : ∀ other ∈ past ++ [call], Storage.Admits ["state"] other.key := by
    simp only [past, call, List.cons_append, List.nil_append, List.forall_mem_cons]
    exact ⟨Storage.admits_below_root (by decide) (by decide),
      Storage.admits_below_root (by decide) (by decide),
      Storage.admits_below_root (by decide) (by decide),
      Storage.admits_below_root (by decide) (by decide), List.forall_mem_nil _⟩
  obtain ⟨-, -, same⟩ := folder_answers_with_line_ends_unified
    (d := ⟨.folder ["state"], ⟨[]⟩, []⟩) (m := ⟨.memory [] [] 0, ⟨[]⟩, []⟩) rfl rfl rfl
    (FileTree.ensureFolder_below_root ⟨by decide, by decide⟩)
    (FileTree.standsEmpty_ofFolder ⟨by decide, by decide⟩) admits
  refine same.2 fun text held => ?_
  have set : call.answer (StorageCall.textsAfter past) = .str "one\ntwo" := rfl
  obtain rfl := Text.plain.inj (Value.str.inj (set.symm.trans held))
  decide

/-- A text with a carriage return is set and read: the storage in memory gives it back, and the one
in a folder gives it back with a line feed in the place of the carriage return. -/
theorem folder_answer_differs_at_carriage_return :
    let call := StorageCall.get "k"
    let past := [StorageCall.set "k" "a\rb"]
    let remembered := (call.perform (Disk.after ⟨.memory [] [] 0, ⟨[]⟩, []⟩ past)).2
    let read := (call.perform (Disk.after ⟨.folder ["state"], ⟨[]⟩, []⟩ past)).2
    remembered = .ok (.str "a\rb") ∧ read = .ok (.str "a\nb") ∧ read ≠ remembered := by
  intro call past remembered read
  have kept : remembered = .ok (.str "a\rb") := rfl
  have changed : read = .ok (.str "a\nb") := rfl
  refine ⟨kept, changed, fun same => ?_⟩
  rw [kept, changed] at same
  exact absurd (Value.str.inj (Except.ok.inj same)) (by decide)

end Disk

end EventTracker
