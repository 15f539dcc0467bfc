import EventTracker.Log
import EventTracker.Text.Percent
import EventTracker.Value.Mapping
import EventTracker.Wire.Utf8

/-!
# Storages

A storage keeps texts under keys: in memory, where single kinds of access can be switched
off, or in a folder with one file per key. A file is written under a temporary name and
then moved into place. `Disk` is what the accesses act upon: the storage, the files of
the system and the log.
-/

namespace EventTracker

/-- Where a storage keeps its entries. -/
inductive Storage where
  /-- In memory. The accesses in `off` fail, and the writes that do not are counted. -/
  | memory (items : Mapping) (off : List StorageAccess) (writes : Nat)
  /-- In the files of a folder. -/
  | folder (path : Path)

/-- A storage, the files of the system, and the log. -/
structure Disk where
  storage : Storage
  files : FileTree
  log : List LogRecord

/-- Text with every line end, of whatever form, as a line feed. -/
def unifyLineEnds : List Char → List Char
  | '\r' :: '\n' :: rest => '\n' :: unifyLineEnds rest
  | '\r' :: rest => '\n' :: unifyLineEnds rest
  | c :: rest => c :: unifyLineEnds rest
  | [] => []

namespace Storage

/-- The name of a key's file without its ending. -/
def fileStem (key : Value) : Except Misuse String :=
  match key with
  | .str t => (t.utf8?.map fun bytes => String.ofList (percentEncode bytes)).elim
      (.error .surrogate) .ok
  | .bytes bs => .ok (String.ofList (percentEncode bs))
  | _ => .error .wrongType

/-- The file of a stem. -/
def entryPath (folder : Path) (stem : String) : Path := folder ++ [stem ++ ".json"]

/-- The temporary file of a stem. The ending replaces that of the file, unless the file's name is
the ending alone. -/
def temporaryPath (folder : Path) (stem : String) : Path :=
  folder ++ [(if stem = "" then ".json" else stem) ++ ".tmp"]

/-- Whether a path can be given to the system. -/
def isUsable (p : Path) : Bool := p.all fun name => !name.toList.contains '\x00'

end Storage

namespace Disk

/-- The failure of an access to a file. -/
def fileFault (access : StorageAccess) (path : Path) (cause : FileError) : Fault :=
  .refused (.storage (.file access path cause))

/-- The text stored under a key, or null. -/
def get (d : Disk) (key : Value) : Except Fault Value :=
  match d.storage with
  | .memory items off _ =>
    if .get ∈ off then .error (.refused (.storage (.switchedOff .get)))
    else if key.hashable then .ok ((items.get? key).getD .null)
    else .error (.misuse .wrongType)
  | .folder folder =>
    match Storage.fileStem key with
    | .error kind => .error (.misuse kind)
    | .ok stem =>
      let path := Storage.entryPath folder stem
      if !Storage.isUsable folder then .error (.misuse .badValue)
      else
        match d.files.read path with
        | .error cause => .error (fileFault .get path cause)
        | .ok none => .ok .null
        | .ok (some content) =>
          match textOfUtf8? content with
          | none => .error .badText
          | some text => .ok (.str (String.ofList (unifyLineEnds text.toList)))

/-- Writes the file of a stem: makes sure of the folder, opens the temporary file, fills it with the
value if that is a text, and moves it into place. -/
def writeFile (d : Disk) (folder : Path) (stem : String) (value : Value) : Disk × Option Fault :=
  let path := Storage.entryPath folder stem
  let temporary := Storage.temporaryPath folder stem
  match d.files.ensureFolder folder with
  | (files, some cause) => ({ d with files }, some (fileFault .set path cause))
  | (files, none) =>
    match files.write temporary [] with
    | .error cause => ({ d with files }, some (fileFault .set path cause))
    | .ok opened =>
      match value with
      | .str (.rough _) => ({ d with files := opened }, some (.misuse .surrogate))
      | .str (.plain text) =>
        match opened.write temporary (utf8Bytes text) with
        | .error cause => ({ d with files := opened }, some (fileFault .set path cause))
        | .ok filled =>
          match filled.replace temporary path with
          | .error cause => ({ d with files := filled }, some (fileFault .set path cause))
          | .ok moved =>
            let record := LogRecord.note .storage "Wrote %d bytes to %s"
              [.int text.length, .str path.text]
            ({ d with files := moved, log := d.log ++ [record] }, none)
      | _ => ({ d with files := opened }, some (.misuse .wrongType))

/-- Stores a value under a key. In memory a write counts even if it comes to nothing because the
key cannot be one. -/
def set (d : Disk) (key value : Value) : Disk × Option Fault :=
  match d.storage with
  | .memory items off writes =>
    if .set ∈ off then (d, some (.refused (.storage (.switchedOff .set))))
    else if key.hashable then
      ({ d with storage := .memory (items.insert key value) off (writes + 1) }, none)
    else ({ d with storage := .memory items off (writes + 1) }, some (.misuse .wrongType))
  | .folder folder =>
    match Storage.fileStem key with
    | .error kind => (d, some (.misuse kind))
    | .ok stem =>
      if Storage.isUsable folder then d.writeFile folder stem value
      else (d, some (.misuse .badValue))

/-- Removes what is stored under a key. -/
def remove (d : Disk) (key : Value) : Disk × Option Fault :=
  match d.storage with
  | .memory items off writes =>
    if .remove ∈ off then (d, some (.refused (.storage (.switchedOff .remove))))
    else
      match items.discard key with
      | .ok items => ({ d with storage := .memory items off writes }, none)
      | .error kind => (d, some (.misuse kind))
  | .folder folder =>
    match Storage.fileStem key with
    | .error kind => (d, some (.misuse kind))
    | .ok stem =>
      let path := Storage.entryPath folder stem
      if !Storage.isUsable folder then (d, some (.misuse .badValue))
      else
        match d.files.remove path with
        | .error cause => (d, some (fileFault .remove path cause))
        | .ok files => ({ d with files }, none)

/-- Whether something is stored under a key. Only a storage in memory can tell. -/
def contains (d : Disk) (key : Value) : Except Fault Bool :=
  match d.storage with
  | .memory items _ _ =>
    if key.hashable then .ok (items.contains key) else .error (.misuse .wrongType)
  | .folder _ => .error (.misuse .wrongType)

end Disk

end EventTracker
