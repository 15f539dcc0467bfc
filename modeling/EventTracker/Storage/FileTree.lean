import EventTracker.Text.Quoted
import EventTracker.Value.Entries

/-!
# A tree of files

A `FileTree` lists the folders, files and links below a root by their places, which are
paths without `..`. Each operation fails as the system call of its kind does, with a
`FileError` that names the failure and the paths as given. `FileTree.walk` follows a path
step by step: a name that is too long, a missing folder and a file in the place of a folder
are found in this order of depth, `..` leads from a folder to the one above it, and a link
leads on from where its target does. What a path ends in is followed if it is a link by
`FileTree.locate`, with which files are read and written, and is taken for itself by
`FileTree.locateEntry`, with which names are made, moved and removed.
-/

namespace EventTracker

/-- The names on the way from the root. -/
abbrev Path := List String

/-- The text of a path. -/
def Path.text (p : Path) : String := "/".intercalate p

/-- The path that a text names; empty names and `.` are left out. -/
def Path.ofText (text : String) : Path :=
  (text.splitOn "/").filter fun name => name != "" && name != "."

/-- What stands at a path. -/
inductive FileNode where
  | folder
  | file (content : List UInt8)
  /-- One of several names of a file. They all have the number and the content of the file. -/
  | shared (number : Nat) (content : List UInt8)
  /-- A symbolic link to a path, from the root or from the folder that the link stands in. -/
  | link (rooted : Bool) (target : Path)
  deriving DecidableEq

namespace FileNode

/-- Whether paths go on from what stands there. -/
def leads : FileNode → Bool
  | .folder | .link _ _ => true
  | .file _ | .shared _ _ => false

/-- The content of a file. -/
def content? : FileNode → Option (List UInt8)
  | .file content | .shared _ content => some content
  | .folder | .link _ _ => none

/-- A node once the file of a number has other content. -/
def refilled (number : Nat) (content : List UInt8) : FileNode → FileNode
  | .shared other old => .shared other (if other = number then content else old)
  | node => node

/-- Whether two nodes are names of one file. -/
def sameFile : FileNode → Option FileNode → Bool
  | .shared number _, some (.shared other _) => number == other
  | _, _ => false

end FileNode

/-- Why a file operation fails. -/
inductive FileFailure where
  | missing
  | exists
  | notFolder
  | isFolder
  | nameTooLong
  /-- Too many links on the way. -/
  | loop
  deriving DecidableEq

namespace FileFailure

/-- The system's number of a failure. -/
def code : FileFailure → Nat
  | .missing => 2
  | .exists => 17
  | .notFolder => 20
  | .isFolder => 21
  | .nameTooLong => 36
  | .loop => 40

def words : FileFailure → String
  | .missing => "No such file or directory"
  | .exists => "File exists"
  | .notFolder => "Not a directory"
  | .isFolder => "Is a directory"
  | .nameTooLong => "File name too long"
  | .loop => "Too many levels of symbolic links"

end FileFailure

/-- A failed file operation, on one path or from one to another. -/
structure FileError where
  failure : FileFailure
  path : Path
  target : Option Path
  deriving DecidableEq

/-- The system's text of an error. -/
def FileError.text (e : FileError) : String :=
  s!"[Errno {e.failure.code}] {e.failure.words}: {quotedText e.path.text}" ++
    (e.target.map fun target => " -> " ++ quotedText target.text).getD ""

/-- The folders, files and links below a root, by their places. -/
structure FileTree where
  nodes : Entries Path FileNode

namespace FileTree

/-- The greatest length of a name in bytes. -/
def maxNameLength : Nat := 255

/-- The greatest length of a path in bytes, as far as it lies in the tree. -/
def maxPathLength : Nat := 4083

/-- The greatest number of links on a way. -/
def maxLinks : Nat := 40

/-- What stands at a place, without regard to the folders above it. -/
def node? (t : FileTree) (place : Path) : Option FileNode :=
  Entries.find? (fun a b => decide (a = b)) place t.nodes

/-- Goes on from a folder along the names that follow: the place they lead to, and what stands
there. Links are left to `follow`, and so is one at the end if the way goes on through it. -/
def walk (t : FileTree) (through : Bool)
    (follow : Path → List String → Except FileFailure (Path × Option FileNode)) (folder : Path) :
    List String → Except FileFailure (Path × Option FileNode)
  | [] => .ok (folder, some .folder)
  | name :: rest =>
    if name = ".." then t.walk through follow folder.dropLast rest
    else if maxNameLength < name.utf8ByteSize then .error .nameTooLong
    else
      let here := folder ++ [name]
      match t.node? here with
      | some .folder => t.walk through follow here rest
      | some (.link rooted target) =>
        if rest = [] ∧ through = false then .ok (here, some (.link rooted target))
        else follow (if rooted then [] else folder) (target ++ rest)
      | node =>
        if rest = [] then .ok (here, node)
        else .error (if node.isSome then .notFolder else .missing)

/-- Goes on from a folder over a number of links at most. -/
def locateFrom (t : FileTree) (through : Bool) :
    (links : Nat) → Path → List String → Except FileFailure (Path × Option FileNode)
  | 0 => t.walk through fun _ _ => .error .loop
  | links + 1 => t.walk through (t.locateFrom through links)

/-- The place that a path leads to, and what stands there, if the folders on the way are there. A
link at the end is followed if the way goes on through it. -/
def locateBy (t : FileTree) (through : Bool) (p : Path) :
    Except FileFailure (Path × Option FileNode) :=
  if maxPathLength < p.text.utf8ByteSize then .error .nameTooLong
  else t.locateFrom through maxLinks [] p

/-- The place that a path leads to, also over a link at its end. -/
def locate (t : FileTree) (p : Path) : Except FileFailure (Path × Option FileNode) :=
  t.locateBy true p

/-- The place of the last name of a path. -/
def locateEntry (t : FileTree) (p : Path) : Except FileFailure (Path × Option FileNode) :=
  t.locateBy false p

/-- Puts a node at a place. -/
def put (t : FileTree) (place : Path) (node : FileNode) : FileTree :=
  ⟨Entries.put (fun a b => decide (a = b)) place node t.nodes⟩

/-- Removes the node at a place. -/
def erase (t : FileTree) (place : Path) : FileTree :=
  ⟨Entries.erase (fun a b => decide (a = b)) place t.nodes⟩

def isFolder (t : FileTree) (p : Path) : Bool :=
  match t.locate p with
  | .ok (_, some .folder) => true
  | _ => false

/-- Makes a folder where nothing stands. -/
def makeFolder (t : FileTree) (p : Path) : Except FileFailure FileTree :=
  match t.locateEntry p with
  | .error failure => .error failure
  | .ok (_, some _) => .error .exists
  | .ok (place, none) => .ok (t.put place .folder)

/-- Makes sure of a folder and of those above it; the path is given from its last name on. What
was made before a failure stays. -/
def ensureFolderReversed (t : FileTree) : List String → FileTree × Option FileError
  | [] => (t, none)
  | name :: above =>
    let p := (name :: above).reverse
    let settle (t : FileTree) (failure : FileFailure) : FileTree × Option FileError :=
      if t.isFolder p then (t, none) else (t, some ⟨failure, p, none⟩)
    match t.makeFolder p with
    | .ok made => (made, none)
    | .error .missing =>
      match t.ensureFolderReversed above with
      | (t, some e) => (t, some e)
      | (t, none) =>
        match t.makeFolder p with
        | .ok made => (made, none)
        | .error failure => settle t failure
    | .error failure => settle t failure

/-- Makes sure that a folder is there. -/
def ensureFolder (t : FileTree) (p : Path) : FileTree × Option FileError :=
  t.ensureFolderReversed p.reverse

/-- The content of a file; `none` if nothing stands there. -/
def read (t : FileTree) (p : Path) : Except FileError (Option (List UInt8)) :=
  match t.locate p with
  | .error .missing => .ok none
  | .error failure => .error ⟨failure, p, none⟩
  | .ok (_, none) => .ok none
  | .ok (_, some node) =>
    match node.content? with
    | some content => .ok (some content)
    | none => .error ⟨.isFolder, p, none⟩

/-- Fills the file at a place, which is made if nothing stands there. -/
def fill (t : FileTree) (place : Path) (content : List UInt8) : Option FileNode → FileTree
  | some (.shared number _) =>
    ⟨t.nodes.map fun (other, node) => (other, node.refilled number content)⟩
  | _ => t.put place (.file content)

/-- Writes a file, new or in the place of another. -/
def write (t : FileTree) (p : Path) (content : List UInt8) : Except FileError FileTree :=
  match t.locate p with
  | .error failure => .error ⟨failure, p, none⟩
  | .ok (_, some .folder) => .error ⟨.isFolder, p, none⟩
  | .ok (place, node) => .ok (t.fill place content node)

/-- Moves a name to another path, over a file that may stand there. Nothing is done if both are names
of one file. -/
def replace (t : FileTree) (source target : Path) : Except FileError FileTree :=
  let fail (failure : FileFailure) : Except FileError FileTree :=
    .error ⟨failure, source, some target⟩
  match t.locateEntry source with
  | .error failure => fail failure
  | .ok (_, none) => fail .missing
  | .ok (_, some .folder) => fail .isFolder
  | .ok (origin, some moved) =>
    match t.locateEntry target with
    | .error failure => fail failure
    | .ok (_, some .folder) => fail .isFolder
    | .ok (place, node) =>
      if moved.sameFile node then .ok t else .ok ((t.erase origin).put place moved)

/-- Removes a name of a file; a missing one is no failure. -/
def remove (t : FileTree) (p : Path) : Except FileError FileTree :=
  match t.locateEntry p with
  | .error .missing => .ok t
  | .error failure => .error ⟨failure, p, none⟩
  | .ok (_, none) => .ok t
  | .ok (_, some .folder) => .error ⟨.isFolder, p, none⟩
  | .ok (place, some _) => .ok (t.erase place)

/-- The nodes below a folder, with their paths from there. -/
def below (t : FileTree) (p : Path) : List (Path × FileNode) :=
  match t.locate p with
  | .ok (folder, some .folder) =>
    t.nodes.filterMap fun (place, node) =>
      if folder.isPrefixOf place ∧ place ≠ folder then some (place.drop folder.length, node)
      else none
  | _ => []

end FileTree

end EventTracker
