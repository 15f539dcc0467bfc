import EventTracker.Proofs.Json.Controls
import EventTracker.Proofs.Storage.ReadBack
import EventTracker.Proofs.Storage.Memory

/-!
# Storages that never fail

A disk is reliable under a key if no access under that key ever fails, whatever has been
written and removed under it before. Storages in memory are reliable if no access is
switched off, and folders if they stand or can be made and hold nothing but files of text
where the key's files go. On a reliable disk a text without control characters, once it is
written, is what is stored, and after a removal nothing is stored.
-/

namespace EventTracker

/-- A folder that the files of a stem can be kept in: it stands, no other folder and no link is in
the place of a file, and what is stored, if anything is, is a text. -/
structure FileTree.Fits (folder : Path) (stem : String) (t : FileTree) : Prop where
  stands : t.isFolder folder = true
  temporary : t.TakesOwn (Storage.temporaryPath folder stem)
  entry : t.TakesFile (Storage.entryPath folder stem)
  text : ∀ content, t.read (Storage.entryPath folder stem) = .ok (some content) →
    (textOfUtf8? content).isSome

/-- A folder that is so, or that is not there yet and will be so once it is made. -/
def FileTree.Ready (folder : Path) (stem : String) (t : FileTree) : Prop :=
  t.Fits folder stem ∨
    t.locateEntry (Storage.entryPath folder stem) = .error .missing ∧
      ∃ made, t.ensureFolder folder = (made, none) ∧ made.Fits folder stem

section FileTree

variable {folder : Path} {stem : String} {t t' : FileTree}

/-- What fits still does, after an operation on files that leaves a text. -/
theorem FileTree.Fits.of_sameWays (fits : t.Fits folder stem) (same : t.SameWays t')
    (text : ∀ content, t'.read (Storage.entryPath folder stem) = .ok (some content) →
      (textOfUtf8? content).isSome) : t'.Fits folder stem where
  stands := isFolder_of_sameWays same fits.stands
  temporary := fits.temporary.of_sameWays same
  entry := fits.entry.of_sameWays same
  text := text

theorem FileTree.Ready.exists_made (ready : t.Ready folder stem) :
    ∃ made, t.ensureFolder folder = (made, none) ∧ made.Fits folder stem := by
  rcases ready with fits | ⟨-, made⟩
  · exact ⟨t, ensureFolder_of_isFolder fits.stands, fits⟩
  · exact made

end FileTree

/-! ## A folder that is yet to be made -/

namespace FileTree

variable {name stem : String}

/-- A tree of one folder, below the root. -/
def ofFolder (name : String) : FileTree := ⟨[([name], .folder)]⟩

theorem node?_ofFolder (name : String) (place : Path) :
    (ofFolder name).node? place = if [name] = place then some .folder else none := by
  simp [ofFolder, node?, Entries.find?_cons, Entries.find?_nil]

theorem node?_empty (place : Path) : (⟨[]⟩ : FileTree).node? place = none := rfl

theorem locate_folder (is : IsName name) (through : Bool) :
    (ofFolder name).locateBy through [name] = .ok ([name], some .folder) ∧
      (⟨[]⟩ : FileTree).locateBy through [name] = .ok ([name], none) := by
  have size : (Path.text [name]).utf8ByteSize ≤ maxPathLength := by
    rw [Path.text, String.intercalate_singleton]
    exact Nat.le_trans is.short (by decide)
  have stands : (ofFolder name).node? ([] ++ [name]) = some .folder := by
    rw [node?_ofFolder, List.nil_append, if_pos rfl]
  exact ⟨locateBy_eq_ok_iff.2 ⟨size, 0, Nat.zero_le _, .down is stands (.here _)⟩,
    locateBy_eq_ok_iff.2 ⟨size, 0, Nat.zero_le _, .last is (node?_empty _) bare_none⟩⟩

theorem locate_file (is : IsName name) {file : String} (is' : IsName file) (through : Bool) :
    (ofFolder name).locateBy through [name, file] = .ok ([name, file], none) ∧
      (⟨[]⟩ : FileTree).locateBy through [name, file] = .error .missing := by
  have slash : "/".utf8ByteSize = 1 := rfl
  have size : (Path.text [name, file]).utf8ByteSize ≤ maxPathLength := by
    have short := is.short
    have short' := is'.short
    rw [Path.text, String.intercalate_cons_cons]
    simp [slash, maxPathLength, maxNameLength] at short short' ⊢
    omega
  have stands : (ofFolder name).node? ([] ++ [name]) = some .folder := by
    rw [node?_ofFolder, List.nil_append, if_pos rfl]
  have free : (ofFolder name).node? ([name] ++ [file]) = none := by
    rw [node?_ofFolder, if_neg (by simp)]
  exact ⟨locateBy_eq_ok_iff.2
      ⟨size, 0, Nat.zero_le _, .down is stands (.last is' free bare_none)⟩,
    locateBy_eq_missing_iff.2 ⟨size, 0, Nat.zero_le _,
      .blocked is (node?_empty _) bare_none (List.cons_ne_nil _ _)⟩⟩

theorem ensureFolder_below_root (is : IsName name) :
    (⟨[]⟩ : FileTree).ensureFolder [name] = (ofFolder name, none) := by
  have made : (⟨[]⟩ : FileTree).makeFolder [name] = .ok (ofFolder name) := by
    rw [makeFolder, locateEntry, (locate_folder is false).2]
    rfl
  show ensureFolderReversed ⟨[]⟩ [name] = _
  rw [ensureFolderReversed]
  simp only [List.reverse_singleton, made]

/-- In an empty tree, a folder below the root is ready once its name and the names of the files can
be names. -/
theorem ready_empty (is : IsName name) (fits : stem.utf8ByteSize + 9 ≤ maxNameLength) :
    (⟨[]⟩ : FileTree).Ready [name] stem := by
  have json : ".json".utf8ByteSize = 5 := rfl
  have tmp : ".tmp".utf8ByteSize = 4 := rfl
  have base : (if stem = "" then ".json" else stem).utf8ByteSize ≤ stem.utf8ByteSize + 5 := by
    split
    · rw [json]
      exact Nat.le_add_left 5 _
    · exact Nat.le_add_right _ 5
  have named {file : String} (longer : 2 < file.utf8ByteSize)
      (short : file.utf8ByteSize ≤ maxNameLength) : IsName file :=
    ⟨fun up => absurd (up ▸ longer) (by decide), short⟩
  have located (through : Bool) :
      (ofFolder name).locateBy through [name, stem ++ ".json"] = .ok (_, none) ∧ _ :=
    locate_file is (named (by rw [String.utf8ByteSize_append]; omega)
      (by rw [String.utf8ByteSize_append]; omega)) through
  have temporary : (ofFolder name).TakesOwn (Storage.temporaryPath [name] stem) :=
    ⟨_, none, (locate_file is (named (by rw [String.utf8ByteSize_append]; omega)
      (by rw [String.utf8ByteSize_append]; omega)) false).1, own_none⟩
  have read : (ofFolder name).read (Storage.entryPath [name] stem) = .ok none := by
    rw [read, locate, show Storage.entryPath [name] stem = [name, stem ++ ".json"] from rfl,
      (located true).1]
  refine .inr ⟨(located false).2, ofFolder name, ensureFolder_below_root is,
    isFolder_iff.2 ⟨_, (locate_folder is true).1⟩, temporary,
    ⟨_, none, (located false).1, bare_none⟩, fun content stored => ?_⟩
  cases read.symm.trans stored

end FileTree

namespace Disk

/-- What writes and removals under a key lead to, whatever is logged meanwhile. -/
inductive Reaches (key : Value) (d : Disk) : Disk → Prop
  | start : Reaches key d d
  | set {d' : Disk} (text : String) : Reaches key d d' → Reaches key d (d'.set key (.str text)).1
  | remove {d' : Disk} : Reaches key d d' → Reaches key d (d'.remove key).1
  | record {d' : Disk} (log : List LogRecord) : Reaches key d d' → Reaches key d { d' with log }

/-- No access under a key ever fails. -/
structure Reliable (key : Value) (d : Disk) : Prop where
  gets : ∀ {d' : Disk}, d.Reaches key d' → ∃ stored, d'.get key = .ok stored
  sets : ∀ {d' : Disk}, d.Reaches key d' → ∀ text : String, (d'.set key (.str text)).2 = none
  removes : ∀ {d' : Disk}, d.Reaches key d' → (d'.remove key).2 = none

variable {key : Value} {d d' d'' : Disk}

theorem Reaches.trans (first : d.Reaches key d') (later : d'.Reaches key d'') :
    d.Reaches key d'' := by
  induction later with
  | start => exact first
  | set text _ ih => exact ih.set text
  | remove _ ih => exact ih.remove
  | record log _ ih => exact ih.record log

theorem Reliable.of_reaches (reliable : d.Reliable key) (reached : d.Reaches key d') :
    d'.Reliable key where
  gets later := reliable.gets (reached.trans later)
  sets later := reliable.sets (reached.trans later)
  removes later := reliable.removes (reached.trans later)

/-! ## In memory -/

variable {items : Mapping} {writes : Nat}

/-- A storage in memory none of whose accesses is switched off is reliable. -/
theorem reliable_memory (memory : d.storage = .memory items [] writes)
    (hashable : key.hashable = true) : d.Reliable key := by
  have reached {d' : Disk} (reaches : d.Reaches key d') :
      ∃ items writes, d'.storage = .memory items [] writes := by
    induction reaches with
    | start => exact ⟨items, writes, memory⟩
    | set text _ ih =>
      obtain ⟨items, writes, memory⟩ := ih
      exact ⟨_, _, by rw [set_of_hashable memory hashable List.not_mem_nil]⟩
    | remove _ ih =>
      obtain ⟨items, writes, memory⟩ := ih
      exact ⟨_, _, by rw [remove_of_hashable memory hashable List.not_mem_nil]⟩
    | record log _ ih => exact ih
  constructor
  · intro d' reaches
    obtain ⟨items, writes, memory⟩ := reached reaches
    exact ⟨_, get_of_hashable memory hashable List.not_mem_nil⟩
  · intro d' reaches text
    obtain ⟨items, writes, memory⟩ := reached reaches
    rw [set_of_hashable memory hashable List.not_mem_nil]
  · intro d' reaches
    obtain ⟨items, writes, memory⟩ := reached reaches
    rw [remove_of_hashable memory hashable List.not_mem_nil]

/-! ## In a folder -/

section Folder

variable {folder : Path} {stem : String} {files : FileTree}

/-- A file is written to a folder that is ready. -/
theorem exists_writeFile_of_ready (ready : d.files.Ready folder stem) (text : String) :
    ∃ files log, d.writeFile folder stem (.str text) = ({ d with files, log }, none) ∧
      files.Fits folder stem := by
  obtain ⟨made, ensured, fits⟩ := ready.exists_made
  obtain ⟨opened, created⟩ := fits.temporary.exists_write []
  obtain ⟨same, -⟩ := fits.temporary.of_write created
  have temporary := fits.temporary.of_sameWays same
  obtain ⟨filled, written⟩ := temporary.exists_write (utf8Bytes text)
  obtain ⟨same', origin, held⟩ := temporary.of_write written
  have same := same.trans same'
  have entry := fits.entry.of_sameWays same
  obtain ⟨moved, replaced⟩ := entry.exists_replace held
  obtain ⟨same', read⟩ := FileTree.of_replace held entry replaced
  have result : ∃ log, d.writeFile folder stem (.str text) =
      ({ d with files := moved, log }, none) := by
    rw [writeFile]
    simp only [ensured, created, written, replaced]
    exact ⟨_, rfl⟩
  obtain ⟨log, result⟩ := result
  refine ⟨moved, log, result, fits.of_sameWays (same.trans same') fun content stored => ?_⟩
  obtain rfl : utf8Bytes text = content :=
    Option.some.inj (Except.ok.inj (read.symm.trans stored))
  rw [textOfUtf8?_utf8Bytes]
  rfl

section Accesses

variable (place : d.storage = .folder folder) (usable : Storage.isUsable folder = true)
  (named : Storage.fileStem key = .ok stem)

include place usable named

theorem get_of_missing (read : d.files.read (Storage.entryPath folder stem) = .ok none) :
    d.get key = .ok .null := by
  rw [get, place]
  simp only [named, usable, read, Bool.not_true, Bool.false_eq_true, if_false]

theorem get_of_text {content : List UInt8} {text : String}
    (read : d.files.read (Storage.entryPath folder stem) = .ok (some content))
    (decoded : textOfUtf8? content = some text) :
    d.get key = .ok (.str (String.ofList (unifyLineEnds text.toList))) := by
  rw [get, place]
  simp only [named, usable, read, decoded, Bool.not_true, Bool.false_eq_true, if_false]

theorem set_eq_writeFile (value : Value) : d.set key value = d.writeFile folder stem value := by
  rw [set, place]
  simp only [named, if_pos usable]

theorem remove_of_removed
    (removed : d.files.remove (Storage.entryPath folder stem) = .ok files) :
    d.remove key = ({ d with files }, none) := by
  rw [remove, place]
  simp only [named, usable, removed, Bool.not_true, Bool.false_eq_true, if_false]

theorem exists_get_of_ready (ready : d.files.Ready folder stem) :
    ∃ stored, d.get key = .ok stored := by
  rcases ready with fits | ⟨missing, -⟩
  · obtain ⟨_ | content, read⟩ := fits.entry.exists_read
    · exact ⟨_, get_of_missing place usable named read⟩
    · obtain ⟨text, decoded⟩ := Option.isSome_iff_exists.1 (fits.text content read)
      exact ⟨_, get_of_text place usable named read decoded⟩
  · have missing := FileTree.locate_of_entry_missing missing
    exact ⟨_, get_of_missing place usable named (by rw [FileTree.read, missing])⟩

theorem exists_remove_of_ready (ready : d.files.Ready folder stem) :
    ∃ files, d.remove key = ({ d with files }, none) ∧ files.Ready folder stem := by
  rcases ready with fits | ⟨missing, made⟩
  · obtain ⟨files, removed⟩ := fits.entry.exists_remove
    obtain ⟨same, read⟩ := FileTree.of_remove fits.entry removed
    refine ⟨files, remove_of_removed place usable named removed,
      .inl (fits.of_sameWays same fun content stored => ?_)⟩
    cases read.symm.trans stored
  · have removed : d.files.remove (Storage.entryPath folder stem) = .ok d.files := by
      rw [FileTree.remove, missing]
    exact ⟨d.files, remove_of_removed place usable named removed, .inr ⟨missing, made⟩⟩

/-- A storage in a folder that is ready for the files of a key is reliable. -/
theorem reliable_folder (ready : d.files.Ready folder stem) : d.Reliable key := by
  have reached {d' : Disk} (reaches : d.Reaches key d') :
      d'.storage = .folder folder ∧ d'.files.Ready folder stem := by
    induction reaches with
    | start => exact ⟨place, ready⟩
    | set text _ ih =>
      obtain ⟨files, log, written, fits⟩ := exists_writeFile_of_ready ih.2 text
      rw [set_eq_writeFile ih.1 usable named, written]
      exact ⟨ih.1, .inl fits⟩
    | remove _ ih =>
      obtain ⟨files, removed, ready⟩ := exists_remove_of_ready ih.1 usable named ih.2
      rw [removed]
      exact ⟨ih.1, ready⟩
    | record log _ ih => exact ih
  constructor
  · intro d' reaches
    obtain ⟨place, ready⟩ := reached reaches
    exact exists_get_of_ready place usable named ready
  · intro d' reaches text
    obtain ⟨place, ready⟩ := reached reaches
    obtain ⟨files, log, written, -⟩ := exists_writeFile_of_ready ready text
    rw [set_eq_writeFile place usable named, written]
  · intro d' reaches
    obtain ⟨place, ready⟩ := reached reaches
    obtain ⟨files, removed, -⟩ := exists_remove_of_ready place usable named ready
    rw [removed]

end Accesses

end Folder

/-! ## What is stored -/

variable {off : List StorageAccess} {folder : Path} {stored : Value}

theorem on_of_get_memory (memory : d.storage = .memory items off writes)
    (got : d.get key = .ok stored) : key.hashable = true ∧ .get ∉ off := by
  rw [get, memory] at got
  simp only at got
  split at got
  · cases got
  case isFalse on =>
    split at got
    case isTrue hashable => exact ⟨hashable, on⟩
    case isFalse => cases got

theorem exists_stem_of_get_folder (place : d.storage = .folder folder)
    (got : d.get key = .ok stored) :
    ∃ stem, Storage.fileStem key = .ok stem ∧ Storage.isUsable folder = true := by
  rw [get, place] at got
  simp only at got
  split at got
  · cases got
  case h_2 stem named =>
    split at got
    · cases got
    case isFalse usable => exact ⟨stem, named, by simpa using usable⟩

/-- A value that was written is a text, and its file went through all the stages. -/
theorem stages_of_writeFile {stem : String} {value : Value}
    (done : d.writeFile folder stem value = (d', none)) :
    ∃ (text : String) (made opened filled moved : FileTree) (log : List LogRecord),
      value = .str text ∧
      d.files.ensureFolder folder = (made, none) ∧
      made.write (Storage.temporaryPath folder stem) [] = .ok opened ∧
      opened.write (Storage.temporaryPath folder stem) (utf8Bytes text) = .ok filled ∧
      filled.replace (Storage.temporaryPath folder stem) (Storage.entryPath folder stem) =
        .ok moved ∧
      d' = { d with files := moved, log } := by
  unfold writeFile at done
  simp only at done
  split at done
  · cases done
  case h_2 made ensured =>
    split at done
    · cases done
    case h_2 opened created =>
      split at done
      case h_1 => cases done
      case h_3 => cases done
      case h_2 text =>
        split at done
        · cases done
        case h_2 filled written =>
          split at done
          · cases done
          case h_2 moved replaced =>
            cases done
            exact ⟨text, made, opened, filled, moved, _, rfl, ensured, created, written, replaced, rfl⟩

theorem entryFile_ne_up (stem : String) : stem ++ ".json" ≠ ".." := by
  intro same
  have last := congrArg (fun name : String => name.toList.getLast?) same
  simp [List.getLast?_append] at last

theorem temporaryFile_ne_up (stem : String) :
    (if stem = "" then ".json" else stem) ++ ".tmp" ≠ ".." := by
  intro same
  have last := congrArg (fun name : String => name.toList.getLast?) same
  simp [List.getLast?_append] at last

/-- A file that was written has been moved to its path, where it is read if anything can be. -/
theorem exists_of_writeFile {stem text : String}
    (done : (d.writeFile folder stem (.str text)).2 = none) :
    ∃ moved log, (d.writeFile folder stem (.str text)).1 = { d with files := moved, log } ∧
      ∀ read, moved.read (Storage.entryPath folder stem) = .ok read →
        moved.read (Storage.entryPath folder stem) = .ok (some (utf8Bytes text)) := by
  obtain ⟨_, made, opened, filled, moved, log, given, -, -, written, replaced, result⟩ :=
    stages_of_writeFile (Prod.ext rfl done)
  obtain rfl := Text.plain.inj (Value.str.inj given)
  exact ⟨moved, log, result, fun read reads => FileTree.read_of_replace
    (temporaryFile_ne_up stem) (entryFile_ne_up stem) written replaced reads⟩

/-- Where a text is stored, a file is read. -/
theorem exists_read_of_get {stem : String} (place : d.storage = .folder folder)
    (named : Storage.fileStem key = .ok stem) (got : d.get key = .ok stored) :
    ∃ read, d.files.read (Storage.entryPath folder stem) = .ok read := by
  cases reads : d.files.read (Storage.entryPath folder stem) with
  | ok read => exact ⟨read, rfl⟩
  | error cause =>
    rw [get, place] at got
    simp only [named, reads] at got
    split at got <;> cases got

/-- Under a key that never fails, a text that was written is what is stored. -/
theorem Reliable.get_set (reliable : d.Reliable key) {text : String}
    (plain : Json.Uncontrolled text.toList) :
    (d.set key (.str text)).1.get key = .ok (.str text) := by
  obtain ⟨stored, got⟩ := reliable.gets .start
  have done := reliable.sets .start text
  cases place : d.storage with
  | memory items off writes =>
    obtain ⟨hashable, on⟩ := on_of_get_memory place got
    have writable : .set ∉ off := by
      intro switched
      rw [set, place] at done
      simp only [if_pos switched] at done
      cases done
    rw [set_of_hashable place hashable writable]
    simp only
    rw [get_of_hashable rfl hashable on, Mapping.get?_insert_of_hashable _ hashable]
    rfl
  | folder path =>
    obtain ⟨stem, named, usable⟩ := exists_stem_of_get_folder place got
    rw [set_eq_writeFile place usable named] at done ⊢
    obtain ⟨moved, log, result, holds⟩ := exists_of_writeFile done
    obtain ⟨stored', got'⟩ := reliable.gets (.set text .start)
    rw [set_eq_writeFile place usable named, result] at got'
    obtain ⟨read, reads⟩ := exists_read_of_get (d := { d with files := moved, log }) place named got'
    have got := get_of_text (d := { d with files := moved, log }) place usable named
      (holds read reads) (textOfUtf8?_utf8Bytes text)
    rw [result, got, plain.unifyLineEnds_eq, String.ofList_toList]

/-- Under a key that never fails, nothing is stored after a removal. -/
theorem Reliable.get_remove (reliable : d.Reliable key) : (d.remove key).1.get key = .ok .null := by
  obtain ⟨stored, got⟩ := reliable.gets .start
  have done := reliable.removes .start
  cases place : d.storage with
  | memory items off writes =>
    obtain ⟨hashable, on⟩ := on_of_get_memory place got
    have removable : .remove ∉ off := by
      intro switched
      rw [remove, place] at done
      simp only [if_pos switched] at done
      cases done
    rw [remove_of_hashable place hashable removable]
    simp only
    rw [get_of_hashable rfl hashable on, Mapping.get?_erase]
    rfl
  | folder path =>
    obtain ⟨stem, named, usable⟩ := exists_stem_of_get_folder place got
    unfold remove at done ⊢
    simp only [place, named, usable, Bool.not_true, Bool.false_eq_true, if_false] at done ⊢
    split at done
    · cases done
    case h_2 files removed =>
      exact get_of_missing (d := ⟨.folder path, files, d.log⟩) rfl usable named
        (FileTree.read_of_remove_eq_none (entryFile_ne_up stem) removed)

end Disk

end EventTracker
