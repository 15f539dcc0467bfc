import EventTracker.Proofs.Storage.Reliability
import EventTracker.Proofs.Wire.RoundTrip

/-!
# The files of a folder as a map

A folder that a storage keeps its entries in holds one file for each key that has a text,
and no temporary file between two accesses. Different keys have files of different names,
and no temporary file has the name of an entry. So reading, writing and removing under a
key act on the folder as looking up, updating and forgetting act on a map from keys to
texts, also while the folder is yet to be made.
-/

namespace EventTracker

/-! ## Names of files -/

namespace Storage

/-- The name of a text key's file without its ending. -/
def stemOf (key : String) : String := String.ofList (percentEncode (utf8Bytes key))

theorem fileStem_str (key : String) : fileStem (.str key) = .ok (stemOf key) := rfl

theorem stemOf_injective : Function.Injective stemOf := by
  intro key other same
  have encoded : percentEncode (utf8Bytes key) = percentEncode (utf8Bytes other) :=
    String.ofList_injective same
  have bytes := congrArg percentDecode encoded
  rw [percentDecode_percentEncode, percentDecode_percentEncode] at bytes
  have texts := congrArg textOfUtf8? bytes
  rw [textOfUtf8?_utf8Bytes, textOfUtf8?_utf8Bytes] at texts
  exact Option.some.inj texts

/-- The name of a key's file. -/
def entryName (key : String) : String := stemOf key ++ ".json"

/-- The name of a key's temporary file. -/
def temporaryName (key : String) : String :=
  (if stemOf key = "" then ".json" else stemOf key) ++ ".tmp"

theorem entryName_injective : Function.Injective entryName := fun _ _ same =>
  stemOf_injective ((String.append_left_inj ".json").1 same)

/-- An entry's name and a temporary one end differently. -/
theorem entryName_ne_temporaryName (key other : String) : entryName key ≠ temporaryName other := by
  intro same
  have last := congrArg (fun name : String => name.toList.getLast?) same
  simp [entryName, temporaryName, List.getLast?_append] at last

theorem entryName_ne_up (key : String) : entryName key ≠ ".." := by
  intro same
  have last := congrArg (fun name : String => name.toList.getLast?) same
  simp [entryName, List.getLast?_append] at last

theorem temporaryName_ne_up (key : String) : temporaryName key ≠ ".." := by
  intro same
  have last := congrArg (fun name : String => name.toList.getLast?) same
  simp [temporaryName, List.getLast?_append] at last

/-- A temporary name is no longer than that of the entry, or it is short anyway. -/
theorem size_temporaryName_le {key : String}
    (short : (entryName key).utf8ByteSize ≤ FileTree.maxNameLength) :
    (temporaryName key).utf8ByteSize ≤ FileTree.maxNameLength := by
  have json : ".json".utf8ByteSize = 5 := rfl
  have tmp : ".tmp".utf8ByteSize = 4 := rfl
  rw [entryName, String.utf8ByteSize_append, json] at short
  rw [temporaryName, String.utf8ByteSize_append, tmp]
  split
  · decide
  · omega

theorem isName_entryName {key : String}
    (short : (entryName key).utf8ByteSize ≤ FileTree.maxNameLength) :
    FileTree.IsName (entryName key) :=
  ⟨entryName_ne_up key, short⟩

theorem isName_temporaryName {key : String}
    (short : (entryName key).utf8ByteSize ≤ FileTree.maxNameLength) :
    FileTree.IsName (temporaryName key) :=
  ⟨temporaryName_ne_up key, size_temporaryName_le short⟩

/-- What is read of a text that was written to a file. -/
def readBack (text : String) : String := String.ofList (unifyLineEnds text.toList)

theorem readBack_eq_self_iff {text : String} : readBack text = text ↔ '\r' ∉ text.toList := by
  rw [← Json.unifyLineEnds_eq_self_iff, readBack, ← String.toList_inj, String.toList_ofList]

/-- A key whose file and temporary file have names and paths that the system takes. -/
structure Admits (folder : Path) (key : String) : Prop where
  name : (entryName key).utf8ByteSize ≤ FileTree.maxNameLength
  entry : (entryPath folder (stemOf key)).text.utf8ByteSize ≤ FileTree.maxPathLength
  temporary : (temporaryPath folder (stemOf key)).text.utf8ByteSize ≤ FileTree.maxPathLength

/-- In a folder below the root, a key is admitted once its file's name can be a name. -/
theorem admits_below_root {name key : String}
    (short : name.utf8ByteSize ≤ FileTree.maxNameLength)
    (fits : (entryName key).utf8ByteSize ≤ FileTree.maxNameLength) : Admits [name] key := by
  have slash : "/".utf8ByteSize = 1 := rfl
  have size {file : String} (fits : file.utf8ByteSize ≤ FileTree.maxNameLength) :
      (Path.text ([name] ++ [file])).utf8ByteSize ≤ FileTree.maxPathLength := by
    rw [Path.text, List.singleton_append, String.intercalate_cons_cons]
    simp [slash, FileTree.maxPathLength, FileTree.maxNameLength] at short fits ⊢
    omega
  exact ⟨fits, size fits, size (size_temporaryName_le fits)⟩

end Storage

/-! ## Paths into a folder -/

/-- A path is no longer than one that goes on from it. -/
theorem Path.size_text_le (p : Path) (name : String) :
    (Path.text p).utf8ByteSize ≤ (Path.text (p ++ [name])).utf8ByteSize := by
  unfold Path.text
  induction p with
  | nil => exact Nat.zero_le _
  | cons first rest ih =>
    cases rest with
    | nil =>
      simp only [List.cons_append, List.nil_append, String.intercalate_cons_cons,
        String.intercalate_singleton, String.utf8ByteSize_append]
      omega
    | cons second more =>
      simp only [List.cons_append, String.intercalate_cons_cons, String.utf8ByteSize_append] at ih ⊢
      omega

namespace FileTree

variable {folder place : Path} {t t' : FileTree} {name key : String}
  {texts : String → Option String}

/-- In a folder that stands, a name is looked up there, unless it is that of a link to follow. -/
theorem locate_in_folder {through : Bool} (stands : t.locate folder = .ok (place, some .folder))
    (is : IsName name) (fits : (Path.text (folder ++ [name])).utf8ByteSize ≤ maxPathLength)
    (direct : Direct (t.node? (place ++ [name])) ∨ through = false) :
    t.locateBy through (folder ++ [name]) = .ok (place ++ [name], t.node? (place ++ [name])) := by
  obtain ⟨-, hops, enough, leads⟩ := locateBy_eq_ok_iff.1 stands
  exact locateBy_eq_ok_iff.2 ⟨fits, hops, enough, leads.append (leads_singleton is direct)⟩

/-- A path at whose end nothing stands, or which leads through a folder that is not there. -/
def IsMissing (p : Path) (t : FileTree) : Prop :=
  (∃ place, t.locate p = .ok (place, none)) ∨ t.locate p = .error .missing

/-- Below what is not there, nothing is found. -/
theorem IsMissing.locate_append {through : Bool} {rest : List String} (missing : t.IsMissing folder)
    (fits : (Path.text (folder ++ name :: rest)).utf8ByteSize ≤ maxPathLength) :
    t.locateBy through (folder ++ name :: rest) = .error .missing := by
  refine locateBy_eq_missing_iff.2 ⟨fits, ?_⟩
  rcases missing with ⟨place, found⟩ | found
  · obtain ⟨-, hops, enough, leads⟩ := locateBy_eq_ok_iff.1 found
    exact ⟨hops, enough, leads.append_bare bare_none⟩
  · obtain ⟨-, hops, enough, leads⟩ := locateBy_eq_missing_iff.1 found
    exact ⟨hops, enough, leads.append_error⟩

theorem IsMissing.read_eq (missing : t.IsMissing folder)
    (fits : (Path.text (folder ++ [name])).utf8ByteSize ≤ maxPathLength) :
    t.read (folder ++ [name]) = .ok none := by
  rw [read, locate, missing.locate_append fits]

theorem IsMissing.remove_eq (missing : t.IsMissing folder)
    (fits : (Path.text (folder ++ [name])).utf8ByteSize ≤ maxPathLength) :
    t.remove (folder ++ [name]) = .ok t := by
  rw [remove, locateEntry, missing.locate_append fits]

/-- A folder that was made sure of stood already, or neither it nor a file was there. -/
theorem isFolder_or_missing_of_ensureFolder (made : t.ensureFolder folder = (t', none)) :
    t.isFolder folder = true ∨ t.IsMissing folder := by
  cases stands : t.isFolder folder with
  | true => exact .inl rfl
  | false =>
    refine .inr ?_
    rw [ensureFolder] at made
    rw [← List.reverse_reverse folder] at stands ⊢
    cases above : folder.reverse with
    | nil =>
      rw [above] at stands
      cases stands
    | cons last above' =>
      rw [above] at made stands
      cases found : t.locateEntry (last :: above').reverse with
      | error failure =>
        cases failure with
        | missing => exact .inr (locate_of_entry_missing found)
        | _ =>
          simp only [ensureFolderReversed, makeFolder, found, stands] at made
          cases made
      | ok located =>
        obtain ⟨place, _ | node⟩ := located
        · exact .inl ⟨place, locate_of_entry found bare_none.direct⟩
        · simp only [ensureFolderReversed, makeFolder, found, stands] at made
          cases made

/-! ## A folder that holds texts -/

/-- A folder that stands at a place and holds one file for each key that has a text, and no
temporary file. -/
structure Holds (folder place : Path) (texts : String → Option String) (t : FileTree) : Prop where
  stands : t.locate folder = .ok (place, some .folder)
  entries : ∀ key, t.node? (place ++ [Storage.entryName key]) =
    (texts key).map fun text => .file (utf8Bytes text)
  temporaries : ∀ key, t.node? (place ++ [Storage.temporaryName key]) = none

/-- A folder that stands, and nothing is in it. -/
def StandsEmpty (folder : Path) (t : FileTree) : Prop :=
  ∃ place, t.locate folder = .ok (place, some .folder) ∧ ∀ name, t.node? (place ++ [name]) = none

theorem standsEmpty_ofFolder (is : IsName name) : (ofFolder name).StandsEmpty [name] := by
  refine ⟨[name], (locate_folder is true).1, fun file => ?_⟩
  rw [node?_ofFolder, if_neg (by simp)]

theorem StandsEmpty.holds (empty : t.StandsEmpty folder) :
    ∃ place, t.Holds folder place fun _ => none := by
  obtain ⟨place, stands, nothing⟩ := empty
  exact ⟨place, stands, fun key => nothing _, fun key => nothing _⟩

namespace Holds

variable (holds : t.Holds folder place texts)

include holds

theorem ensureFolder_eq : t.ensureFolder folder = (t, none) :=
  ensureFolder_of_isFolder (isFolder_iff.2 ⟨place, holds.stands⟩)

theorem bare_entry (key : String) : Bare (t.node? (place ++ [Storage.entryName key])) := by
  rw [holds.entries]
  cases texts key with
  | none => exact bare_none
  | some text => exact bare_file _

theorem of_node?_eq (same : ∀ other, t'.node? other = t.node? other) :
    t'.Holds folder place texts where
  stands :=
    have ways : t.SameWays t' :=
      ⟨fun other _ _ => same other ▸ Iff.rfl, fun other own => (same other).symm ▸ own⟩
    ways.locate_folder holds.stands
  entries key := (same _).trans (holds.entries key)
  temporaries key := (same _).trans (holds.temporaries key)

theorem put_entry (key text : String) :
    (t.put (place ++ [Storage.entryName key]) (.file (utf8Bytes text))).Holds folder place
      (Function.update texts key (some text)) where
  stands := (sameWays_put (holds.bare_entry key) _).locate_folder holds.stands
  entries other := by
    rw [node?_put]
    by_cases here : other = key
    · subst here
      rw [if_pos rfl, Function.update_self]
      rfl
    · have apart : place ++ [Storage.entryName key] ≠ place ++ [Storage.entryName other] := by
        simpa using fun same => here (Storage.entryName_injective same).symm
      rw [if_neg apart, holds.entries, Function.update_of_ne here]
  temporaries other := by
    have apart : place ++ [Storage.entryName key] ≠ place ++ [Storage.temporaryName other] := by
      simpa using Storage.entryName_ne_temporaryName key other
    rw [node?_put, if_neg apart, holds.temporaries]

theorem erase_entry (key : String) :
    (t.erase (place ++ [Storage.entryName key])).Holds folder place
      (Function.update texts key none) where
  stands := (sameWays_erase (holds.bare_entry key)).locate_folder holds.stands
  entries other := by
    by_cases here : other = key
    · subst here
      rw [node?_erase_self, Function.update_self]
      rfl
    · have apart : place ++ [Storage.entryName key] ≠ place ++ [Storage.entryName other] := by
        simpa using fun same => here (Storage.entryName_injective same).symm
      rw [node?_erase_of_ne t apart, holds.entries, Function.update_of_ne here]
  temporaries other := by
    have apart : place ++ [Storage.entryName key] ≠ place ++ [Storage.temporaryName other] := by
      simpa using Storage.entryName_ne_temporaryName key other
    rw [node?_erase_of_ne t apart, holds.temporaries]

section Admits

variable (admits : Storage.Admits folder key)

include admits

theorem locate_entry (through : Bool) :
    t.locateBy through (Storage.entryPath folder (Storage.stemOf key)) =
      .ok (place ++ [Storage.entryName key], (texts key).map fun text => .file (utf8Bytes text)) :=
  holds.entries key ▸ locate_in_folder holds.stands (Storage.isName_entryName admits.name)
    admits.entry (.inl (holds.bare_entry key).direct)

theorem locate_temporary : t.locateEntry (Storage.temporaryPath folder (Storage.stemOf key)) =
    .ok (place ++ [Storage.temporaryName key], none) :=
  holds.temporaries key ▸ locate_in_folder holds.stands
    (Storage.isName_temporaryName admits.name) admits.temporary (.inr rfl)

theorem read_entry : t.read (Storage.entryPath folder (Storage.stemOf key)) =
    .ok ((texts key).map utf8Bytes) := by
  rw [read, locate, holds.locate_entry admits]
  cases texts key <;> rfl

/-- Removing forgets the text of the key. -/
theorem exists_remove : ∃ t', t.remove (Storage.entryPath folder (Storage.stemOf key)) = .ok t' ∧
    t'.Holds folder place (Function.update texts key none) := by
  rw [remove, locateEntry, holds.locate_entry admits]
  cases held : texts key with
  | none =>
    refine ⟨t, rfl, ?_⟩
    rwa [← held, Function.update_eq_self]
  | some text => exact ⟨_, rfl, holds.erase_entry key⟩

/-- Opening the temporary file, filling it and moving it into place updates the text of the key. -/
theorem exists_moved (text : String) :
    ∃ opened filled moved,
      t.write (Storage.temporaryPath folder (Storage.stemOf key)) [] = .ok opened ∧
      opened.write (Storage.temporaryPath folder (Storage.stemOf key)) (utf8Bytes text) =
        .ok filled ∧
      filled.replace (Storage.temporaryPath folder (Storage.stemOf key))
        (Storage.entryPath folder (Storage.stemOf key)) = .ok moved ∧
      moved.Holds folder place (Function.update texts key (some text)) := by
  obtain ⟨opened, same, located⟩ := write_of_own (holds.locate_temporary admits) own_none []
  obtain ⟨filled, same', located⟩ := write_of_own located (own_file _) (utf8Bytes text)
  have bare := holds.bare_entry key
  rw [holds.entries] at bare
  obtain ⟨stood, target⟩ := (same.trans same').locate_bare (holds.locate_entry admits false) bare
  have moved := replace_of_file located target ((same.trans same').bare (stood.symm ▸ bare))
  refine ⟨_, _, _, opened, filled, moved, ?_⟩
  -- without its temporary file the tree is as it was
  refine (holds.of_node?_eq fun other => ?_).put_entry key text
  by_cases here : place ++ [Storage.temporaryName key] = other
  · rw [← here, node?_erase_self, holds.temporaries]
  · rw [node?_erase_of_ne _ here, node?_put, if_neg here, node?_put, if_neg here]

end Admits

end Holds

/-- A folder that holds texts once it is made sure of. If it is yet to be made, it holds none. -/
def Keeps (folder : Path) (texts : String → Option String) (t : FileTree) : Prop :=
  ∃ made place, t.ensureFolder folder = (made, none) ∧ made.Holds folder place texts ∧
    (t.isFolder folder = false → texts = fun _ => none)

/-- An empty folder, which stands or can be made, holds no texts. -/
theorem keeps_none {made : FileTree} (ensured : t.ensureFolder folder = (made, none))
    (empty : made.StandsEmpty folder) : t.Keeps folder fun _ => none := by
  obtain ⟨place, holds⟩ := empty.holds
  exact ⟨made, place, ensured, holds, fun _ => rfl⟩

theorem Holds.keeps (holds : t.Holds folder place texts) : t.Keeps folder texts :=
  ⟨t, place, holds.ensureFolder_eq, holds, fun missing =>
    absurd (isFolder_iff.2 ⟨place, holds.stands⟩) (by rw [missing]; exact Bool.false_ne_true)⟩

/-- Such a folder stands, or it is missing. -/
theorem Keeps.cases (keeps : t.Keeps folder texts) :
    (∃ place, t.Holds folder place texts) ∨
      texts = (fun _ => none) ∧ t.IsMissing folder := by
  obtain ⟨made, place, ensured, holds, none⟩ := keeps
  cases stands : t.isFolder folder with
  | true =>
    rw [ensureFolder_of_isFolder stands] at ensured
    cases ensured
    exact .inl ⟨place, holds⟩
  | false =>
    refine .inr ⟨none stands, ?_⟩
    rcases isFolder_or_missing_of_ensureFolder ensured with folder | missing
    · rw [stands] at folder
      cases folder
    · exact missing

theorem Keeps.read_entry (keeps : t.Keeps folder texts) (admits : Storage.Admits folder key) :
    t.read (Storage.entryPath folder (Storage.stemOf key)) = .ok ((texts key).map utf8Bytes) := by
  rcases keeps.cases with ⟨place, holds⟩ | ⟨rfl, missing⟩
  · exact holds.read_entry admits
  · exact missing.read_eq admits.entry

theorem Keeps.exists_remove (keeps : t.Keeps folder texts) (admits : Storage.Admits folder key) :
    ∃ t', t.remove (Storage.entryPath folder (Storage.stemOf key)) = .ok t' ∧
      t'.Keeps folder (Function.update texts key none) := by
  rcases keeps.cases with ⟨place, holds⟩ | ⟨rfl, missing⟩
  · obtain ⟨t', removed, holds⟩ := holds.exists_remove admits
    exact ⟨t', removed, holds.keeps⟩
  · refine ⟨t, missing.remove_eq admits.entry, ?_⟩
    rwa [Function.update_eq_self_iff.2 rfl]

end FileTree

/-! ## Accesses -/

namespace Disk

variable {d : Disk} {folder : Path} {texts : String → Option String} {key : String}
  (place : d.storage = .folder folder) (usable : Storage.isUsable folder = true)
  (keeps : d.files.Keeps folder texts) (admits : Storage.Admits folder key)

include place usable keeps admits

/-- What is read is the text of the key, with its line ends unified. -/
theorem get_of_keeps : d.get (.str key) =
    .ok (((texts key).map fun text => .str (Storage.readBack text)).getD .null) := by
  have read := keeps.read_entry admits
  cases held : texts key with
  | none =>
    rw [held] at read
    exact get_of_missing place usable (Storage.fileStem_str key) read
  | some text =>
    rw [held] at read
    exact get_of_text place usable (Storage.fileStem_str key) read (textOfUtf8?_utf8Bytes text)

theorem exists_set_of_keeps (text : String) :
    ∃ files log, d.set (.str key) (.str text) = ({ d with files, log }, none) ∧
      files.Keeps folder (Function.update texts key (some text)) := by
  obtain ⟨made, there, ensured, holds, -⟩ := keeps
  obtain ⟨opened, filled, moved, created, written, replaced, holds⟩ := holds.exists_moved admits text
  rw [set_eq_writeFile place usable (Storage.fileStem_str key), writeFile]
  simp only [ensured, created, written, replaced]
  exact ⟨moved, _, rfl, holds.keeps⟩

theorem exists_remove_of_keeps :
    ∃ files, d.remove (.str key) = ({ d with files }, none) ∧
      files.Keeps folder (Function.update texts key none) := by
  obtain ⟨files, removed, keeps⟩ := keeps.exists_remove admits
  exact ⟨files, remove_of_removed place usable (Storage.fileStem_str key) removed, keeps⟩

end Disk

end EventTracker
