import EventTracker.Proofs.Storage.SameFiles
import Mathlib.Logic.Relation

/-!
# A text is stored whole or not at all

Storing a value in a folder makes the folders on the way, opens a temporary file, fills it
and moves it into place. Until the file is moved, none of these steps touches a file other
than the temporary one, unless that is a link or has another name. So wherever they stop,
the texts that could be read are the texts that can be read. The one way to read more is
that a folder that was made opens a way through `..` to files that were there before.
-/

namespace EventTracker

namespace FileTree

variable {t t' t'' : FileTree} {folder : Path} {content : List UInt8} {names : List String}
  {name key text : String} {value : Value}

/-! ## The steps of storing a value -/

/-- A step of storing a value under a key, before the file is moved into place: a folder on the way
is made, the temporary file is opened, or it is filled with the first bytes of the text. -/
inductive Prepares (folder : Path) (key : String) (value : Value) (t : FileTree) : FileTree → Prop
  | makes {t' : FileTree} {way : Path} (leads : way <+: folder) (made : t.makeFolder way = .ok t') :
      Prepares folder key value t t'
  | opens {t' : FileTree}
      (opened : t.write (Storage.temporaryPath folder (Storage.stemOf key)) [] = .ok t') :
      Prepares folder key value t t'
  | fills {t' : FileTree} {text : String} {first : List UInt8} (given : value = .str text)
      (begins : first <+: utf8Bytes text)
      (written : t.write (Storage.temporaryPath folder (Storage.stemOf key)) first = .ok t') :
      Prepares folder key value t t'

/-- What storing a value has made of a tree when it stops before the file is moved into place. -/
def Prepared (folder : Path) (key : String) (value : Value) : FileTree → FileTree → Prop :=
  Relation.ReflTransGen (Prepares folder key value)

/-- What storing a text has made of a tree once the file, filled with the text, is moved into
place. -/
def Moved (folder : Path) (key text : String) (t t' : FileTree) : Prop :=
  ∃ opened filled, t.Prepared folder key (.str text) opened ∧
    opened.write (Storage.temporaryPath folder (Storage.stemOf key)) (utf8Bytes text) =
      .ok filled ∧
    filled.replace (Storage.temporaryPath folder (Storage.stemOf key))
      (Storage.entryPath folder (Storage.stemOf key)) = .ok t'

/-- Where a file is written in a folder whose file of that name has no other and is no link, it is put
at its place. -/
theorem Worked.exists_of_write (worked : t.Worked folder names t')
    (sole : t.Finds folder name Sole) (down : name ≠ "..")
    (written : t'.write (folder ++ [name]) content = .ok t'') :
    ∃ place, t'.locate folder = .ok (place, some .folder) ∧ Own (t'.node? (place ++ [name])) ∧
      t'' = t'.put (place ++ [name]) (.file content) ∧
      t''.locateEntry (folder ++ [name]) = .ok (place ++ [name], some (.file content)) := by
  obtain ⟨place, node, found, bare, -⟩ := FileTree.exists_of_write written
  obtain ⟨is, fits, above, stands, ends⟩ := exists_stands_of_locateBy down found
  have sole := worked.sole sole stands
  obtain ⟨rfl, rfl⟩ := ends (.inl sole.1)
  have own := sole.own bare.ne_folder
  obtain ⟨done, -, there⟩ := write_of_own (locate_in_folder stands is fits (.inr rfl)) own content
  cases written.symm.trans done
  exact ⟨above, stands, own, rfl, there⟩

theorem Worked.write (worked : t.Worked folder [name] t') (sole : t.Finds folder name Sole)
    (down : name ≠ "..") (written : t'.write (folder ++ [name]) content = .ok t'') :
    t.Worked folder [name] t'' := by
  obtain ⟨place, stands, own, rfl, -⟩ := worked.exists_of_write sole down written
  exact worked.touch stands (touches_put own.bare content)

/-- However far the steps have come, folders on the way were made, and only the temporary file was
touched, if it is no link and has no other name. -/
theorem Prepared.worked (steps : t.Prepared folder key value t')
    (sole : t.Finds folder (Storage.temporaryName key) Sole) :
    t.Worked folder [Storage.temporaryName key] t' := by
  induction steps with
  | refl => exact .refl _ _ t
  | tail _ step ih =>
    have down := Storage.temporaryName_ne_up key
    cases step with
    | makes leads made => exact ih.make ⟨_, leads, made⟩
    | opens opened => exact ih.write sole down opened
    | fills _ _ written => exact ih.write sole down written

theorem prepared_ensureFolderReversed {above : List String} {failure : Option FileError}
    (leads : above.reverse <+: folder) (made : t.ensureFolderReversed above = (t', failure)) :
    t.Prepared folder key value t' := by
  induction above generalizing t' failure with
  | nil =>
    cases made
    exact .refl
  | cons name above ih =>
    have leads' : above.reverse <+: folder :=
      (List.reverse_cons ▸ List.prefix_append above.reverse [name]).trans leads
    simp only [ensureFolderReversed] at made
    split at made
    case h_1 made' first =>
      cases made
      exact .single (.makes leads first)
    case h_2 =>
      split at made
      case h_1 ensured =>
        cases made
        exact ih leads' ensured
      case h_2 t'' ensured =>
        have before := ih leads' ensured
        split at made
        case h_1 made' second =>
          cases made
          exact before.tail (.makes leads second)
        case h_2 =>
          split at made <;> cases made <;> exact before
    case h_3 => split at made <;> cases made <;> exact .refl

/-- The folders that were made, be it all of them or those before a failure. -/
theorem prepared_ensureFolder {failure : Option FileError}
    (made : t.ensureFolder folder = (t', failure)) : t.Prepared folder key value t' :=
  prepared_ensureFolderReversed (by simp) made

/-! ## Once the file is moved into place -/

namespace Moved

variable (moved : t.Moved folder key text t')
  (sole : t.Finds folder (Storage.temporaryName key) Sole)
  (direct : t.Finds folder (Storage.entryName key) Direct)

include moved sole direct

/-- The temporary file is filled in the folder, and takes the place of the key's file there. -/
theorem exists_place : ∃ filled place, t.Prepared folder key (.str text) filled ∧
    filled.locate folder = .ok (place, some .folder) ∧
    filled.locateEntry (Storage.temporaryPath folder (Storage.stemOf key)) =
      .ok (place ++ [Storage.temporaryName key], some (.file (utf8Bytes text))) ∧
    (∃ node, filled.locateEntry (Storage.entryPath folder (Storage.stemOf key)) =
      .ok (place ++ [Storage.entryName key], node) ∧ Bare node) ∧
    t' = (filled.erase (place ++ [Storage.temporaryName key])).put
      (place ++ [Storage.entryName key]) (.file (utf8Bytes text)) := by
  obtain ⟨opened, filled, steps, written, replaced⟩ := moved
  have steps' := steps.tail (.fills rfl (List.prefix_refl _) written)
  obtain ⟨place, stands, own, rfl, held⟩ := (Prepared.worked steps sole).exists_of_write sole
    (Storage.temporaryName_ne_up key) written
  have stands := (sameWays_put own.bare (utf8Bytes text)).locate_folder stands
  obtain ⟨origin, node, target, node', held', -, found, other, -⟩ := exists_of_replace replaced
  obtain ⟨-, -, above, stands', ends⟩ :=
    exists_stands_of_locateBy (Storage.entryName_ne_up key) found
  cases stands.symm.trans stands'
  obtain ⟨rfl, rfl⟩ := ends (.inr rfl)
  have bare := bare_of_direct ((Prepared.worked steps' sole).direct direct stands) other
  exact ⟨_, place, steps', stands, held, ⟨_, found, bare⟩,
    Except.ok.inj (replaced.symm.trans (replace_of_file held found bare))⟩

theorem worked : t.Worked folder [Storage.temporaryName key, Storage.entryName key] t' := by
  obtain ⟨filled, place, steps, stands, held, ⟨node, found, bare⟩, rfl⟩ :=
    moved.exists_place sole direct
  have erased := touches_erase (node?_of_bare held (bare_file _) ▸ bare_file _)
  have put := touches_put (erased.ways.bare (node?_of_bare found bare ▸ bare)) (utf8Bytes text)
  exact ((Prepared.worked steps sole).mono (by simp)).touch stands
    ((erased.mono (by simp)).trans (put.mono (by simp)))

/-- The key's file holds the text, and no temporary file is left. -/
theorem read : t'.read (Storage.entryPath folder (Storage.stemOf key)) =
      .ok (some (utf8Bytes text)) ∧
    t'.read (Storage.temporaryPath folder (Storage.stemOf key)) = .ok none := by
  obtain ⟨filled, place, -, stands, held, ⟨node, found, bare⟩, done⟩ :=
    moved.exists_place sole direct
  have replaced := replace_of_file held found bare
  rw [← done] at replaced
  obtain ⟨same, read⟩ := of_replace held ⟨_, node, found, bare⟩ replaced
  refine ⟨read, ?_⟩
  obtain ⟨-, there⟩ := same.locate_bare (locate_of_entry held (bare_file _).direct) (bare_file _)
  have apart : place ++ [Storage.entryName key] ≠ place ++ [Storage.temporaryName key] :=
    append_singleton_ne (Storage.entryName_ne_temporaryName key key).symm
  have gone : t'.node? (place ++ [Storage.temporaryName key]) = none := by
    rw [done, node?_put, if_neg apart, node?_erase_self]
  rw [gone, ← locate] at there
  rw [FileTree.read, there]

end Moved

end FileTree

/-! ## What can be read -/

namespace Disk

variable {d d' : Disk} {folder : Path} {files : FileTree} {names : List String}
  {key other text : String} {value : Value} {fault : Fault}

/-- A text is read under a key if the key's file is read and holds it. -/
theorem get_eq_text_iff (place : d.storage = .folder folder) : d.get (.str key) = .ok (.str text) ↔
    Storage.isUsable folder = true ∧ ∃ content decoded,
      d.files.read (Storage.entryPath folder (Storage.stemOf key)) = .ok (some content) ∧
        textOfUtf8? content = some decoded ∧ Storage.readBack decoded = text := by
  rw [get, place]
  simp only [Storage.fileStem_str]
  cases usable : Storage.isUsable folder with
  | false => simp
  | true =>
    cases d.files.read (Storage.entryPath folder (Storage.stemOf key)) with
    | error cause => simp
    | ok content =>
      cases content with
      | none => simp
      | some content =>
        cases decoded : textOfUtf8? content with
        | none => simp [decoded]
        | some text => simp [decoded, Storage.readBack]

section Worked

variable (place : d.storage = .folder folder) (worked : d.files.Worked folder names files)
  (direct : d.files.Finds folder (Storage.entryName other) FileTree.Direct)
  (untouched : Storage.entryName other ∉ names)

include place worked direct untouched

/-- Texts that were read are read, if no files but those of some names were touched. -/
theorem get_of_worked (got : d.get (.str other) = .ok (.str text)) :
    { d with files }.get (.str other) = .ok (.str text) := by
  obtain ⟨usable, content, decoded, read, decodes, back⟩ := (get_eq_text_iff place).1 got
  exact (get_eq_text_iff (d := { d with files }) place).2 ⟨usable, content, decoded,
    worked.read direct (Storage.entryName_ne_up other) untouched read, decodes, back⟩

/-- Texts that are read were read before, if the folder was there or no `..` leads to it. -/
theorem get_before_of_worked (rooted : d.files.Rooted)
    (way : d.files.isFolder folder = true ∨ ".." ∉ folder)
    (got : { d with files }.get (.str other) = .ok (.str text)) :
    d.get (.str other) = .ok (.str text) := by
  obtain ⟨usable, content, decoded, read, decodes, back⟩ :=
    (get_eq_text_iff (d := { d with files }) place).1 got
  exact (get_eq_text_iff place).2 ⟨usable, content, decoded,
    worked.read_before direct (Storage.entryName_ne_up other) untouched rooted way read, decodes,
    back⟩

end Worked

/-- A value that could not be stored left the folder prepared, and nothing else is changed. -/
theorem prepared_of_set (place : d.storage = .folder folder)
    (failed : d.set (.str key) value = (d', some fault)) :
    ∃ files, d' = { d with files } ∧ d.files.Prepared folder key value files := by
  rw [set, place] at failed
  simp only [Storage.fileStem_str] at failed
  split at failed
  case isFalse =>
    cases failed
    exact ⟨d.files, rfl, .refl⟩
  case isTrue =>
    unfold writeFile at failed
    simp only at failed
    split at failed
    case h_1 files cause ensured =>
      cases failed
      exact ⟨files, rfl, FileTree.prepared_ensureFolder ensured⟩
    case h_2 files ensured =>
      have made : d.files.Prepared folder key value files := FileTree.prepared_ensureFolder ensured
      split at failed
      case h_1 =>
        cases failed
        exact ⟨files, rfl, made⟩
      case h_2 opened created =>
        have made := made.tail (.opens created)
        split at failed
        case h_1 | h_3 =>
          cases failed
          exact ⟨opened, rfl, made⟩
        case h_2 text =>
          split at failed
          case h_1 =>
            cases failed
            exact ⟨opened, rfl, made⟩
          case h_2 filled written =>
            split at failed
            case h_2 => cases failed
            case h_1 =>
              cases failed
              exact ⟨filled, rfl, made.tail (.fills rfl (List.prefix_refl _) written)⟩

/-- A value that was stored is a text, and its file was moved into place. -/
theorem moved_of_set (place : d.storage = .folder folder)
    (done : d.set (.str key) value = (d', none)) :
    ∃ text : String, value = .str text ∧ d'.storage = .folder folder ∧
      d.files.Moved folder key text d'.files := by
  rw [set, place] at done
  simp only [Storage.fileStem_str] at done
  split at done
  case isFalse => cases done
  case isTrue =>
    obtain ⟨text, made, opened, filled, moved, log, rfl, ensured, created, written, replaced,
      rfl⟩ := stages_of_writeFile done
    exact ⟨text, rfl, place, opened, filled,
      (FileTree.prepared_ensureFolder ensured).tail (.opens created), written, replaced⟩

/-- No file is named by a key with surrogates. -/
theorem set_of_rough (place : d.storage = .folder folder) (unspelled : RoughText) (value : Value) :
    d.set (.str (.rough unspelled)) value = (d, some (.misuse .surrogate)) := by
  rw [set, place]
  rfl

theorem get_of_rough (place : d.storage = .folder folder) (unspelled : RoughText) :
    d.get (.str (.rough unspelled)) = .error (.misuse .surrogate) := by
  rw [get, place]
  rfl

/-- Storing a value under a key in a folder is all or nothing, unless links stand where the files of
the keys or the temporary file go. Where it stops before the file is moved into place, the texts that
were read under any key are still read, and no others, unless the folder was not there and `..` leads
to it; every failure is such a stop. Once the file is moved, which is how each success ends, it holds
the whole text, no temporary file is left, and the files of the other keys are those that were
there. Under a key with surrogates nothing is stored and nothing is read. -/
theorem text_is_stored_whole_or_not_at_all (place : d.storage = .folder folder)
    (rooted : d.files.Rooted) (key : String)
    (sole : d.files.Finds folder (Storage.temporaryName key) FileTree.Sole) (value : Value) :
    (∀ files, d.files.Prepared folder key value files → files.Rooted ∧ ∀ other text : String,
      d.files.Finds folder (Storage.entryName other) FileTree.Direct →
      (d.get (.str other) = .ok (.str text) →
        { d with files }.get (.str other) = .ok (.str text)) ∧
      (d.files.isFolder folder = true ∨ ".." ∉ folder →
        { d with files }.get (.str other) = .ok (.str text) →
          d.get (.str other) = .ok (.str text))) ∧
    (∀ d' fault, d.set (.str key) value = (d', some fault) →
      ∃ files, d' = { d with files } ∧ d.files.Prepared folder key value files) ∧
    (∀ d', d.set (.str key) value = (d', none) → ∃ text : String, value = .str text ∧
      d'.storage = .folder folder ∧ d.files.Moved folder key text d'.files) ∧
    (∀ unspelled : RoughText,
      d.set (.str (.rough unspelled)) value = (d, some (.misuse .surrogate)) ∧
        ∀ files, { d with files }.get (.str (.rough unspelled)) = .error (.misuse .surrogate)) ∧
    ∀ text files, d.files.Moved folder key text files →
      d.files.Finds folder (Storage.entryName key) FileTree.Direct → files.Rooted ∧
      files.read (Storage.entryPath folder (Storage.stemOf key)) = .ok (some (utf8Bytes text)) ∧
      files.read (Storage.temporaryPath folder (Storage.stemOf key)) = .ok none ∧
      d.files.SameFilesBut [Storage.temporaryName key, Storage.entryName key] files ∧
      ∀ other ≠ key, d.files.Finds folder (Storage.entryName other) FileTree.Direct →
        ∀ text : String,
          (d.get (.str other) = .ok (.str text) →
            { d with files }.get (.str other) = .ok (.str text)) ∧
          (d.files.isFolder folder = true ∨ ".." ∉ folder →
            { d with files }.get (.str other) = .ok (.str text) →
              d.get (.str other) = .ok (.str text)) := by
  refine ⟨fun files steps => ?_, fun d' fault => prepared_of_set place,
    fun d' => moved_of_set place, fun unspelled => ⟨set_of_rough place unspelled value, fun files =>
      get_of_rough (d := { d with files }) place unspelled⟩, fun text files moved direct => ?_⟩
  · have worked := steps.worked sole
    refine ⟨worked.rooted rooted, fun other text direct => ?_⟩
    have untouched : Storage.entryName other ∉ [Storage.temporaryName key] := by
      simpa using Storage.entryName_ne_temporaryName other key
    exact ⟨get_of_worked place worked direct untouched,
      get_before_of_worked place worked direct untouched rooted⟩
  · have worked := moved.worked sole direct
    obtain ⟨read, gone⟩ := moved.read sole direct
    refine ⟨worked.rooted rooted, read, gone, worked.sameFilesBut,
      fun other differs direct text => ?_⟩
    have untouched : Storage.entryName other ∉
        [Storage.temporaryName key, Storage.entryName key] := by
      simpa using ⟨Storage.entryName_ne_temporaryName other key,
        fun same => differs (Storage.entryName_injective same)⟩
    exact ⟨get_of_worked place worked direct untouched,
      get_before_of_worked place worked direct untouched rooted⟩

/-! ## Folders with links -/

/-- A folder with nodes of some names. -/
def folderOf (nodes : List (String × FileNode)) : FileTree :=
  ⟨(["b"], .folder) :: nodes.map fun entry => (["b", entry.1], entry.2)⟩

theorem rooted_folderOf (nodes : List (String × FileNode)) : (folderOf nodes).Rooted := by
  intro place name node held
  rcases List.mem_cons.1 (FileTree.mem_of_node? held) with root | mem
  · have same : place ++ [name] = [] ++ ["b"] := (Prod.mk.inj root).1
    exact .inl (List.append_inj' same rfl).1
  · obtain ⟨entry, -, same⟩ := List.mem_map.1 mem
    have same : ["b"] ++ [entry.1] = place ++ [name] := (Prod.mk.inj same).1
    obtain ⟨rfl, -⟩ := List.append_inj' same rfl
    exact .inr rfl

/-- A folder with one file. -/
def folderOfOne (content : List UInt8) : FileTree := folderOf [("k.json", .file content)]

theorem rooted_folderOfOne (content : List UInt8) : (folderOfOne content).Rooted :=
  rooted_folderOf _

theorem linkless_folderOfOne (content : List UInt8) : (folderOfOne content).Linkless :=
  FileTree.linkless_of_nodes (by simp [folderOfOne, folderOf, FileTree.Sole, FileTree.Direct])

/-- Beside the text of one key another is stored, or only its first byte is written before all
stops. -/
theorem text_is_stored_whole_or_not_at_all_beside_another :
    let d : Disk := ⟨.folder ["b"], folderOfOne (utf8Bytes "old"), []⟩
    let stored := (d.set (.str "j") (.str "new")).1
    let stopped := (folderOfOne (utf8Bytes "old")).put ["b", "j.tmp"] (.file [0x6e])
    (d.set (.str "j") (.str "new")).2 = none ∧
      stored.files.read ["b", "j.json"] = .ok (some (utf8Bytes "new")) ∧
      stored.files.read ["b", "j.tmp"] = .ok none ∧
      Disk.get { d with files := stored.files } (.str "k") = .ok (.str "old") ∧
      Disk.get { d with files := stopped } (.str "k") = .ok (.str "old") := by
  intro d stored stopped
  have got : d.get (.str "k") = .ok (.str "old") := rfl
  have done : d.set (.str "j") (.str "new") = (stored, none) := rfl
  have linkless := linkless_folderOfOne (utf8Bytes "old")
  have direct (key : String) := (linkless.finds ["b"] (Storage.entryName key)).direct
  obtain ⟨stops, -, successes, -, ends⟩ := text_is_stored_whole_or_not_at_all (d := d) rfl
    (rooted_folderOfOne _) "j" (linkless.finds ["b"] _) (.str "new")
  obtain ⟨text, given, -, moved⟩ := successes stored done
  obtain rfl := Text.plain.inj (Value.str.inj given)
  obtain ⟨-, entry, temporary, -, others⟩ := ends _ _ moved (direct "j")
  have begins : [0x6e] <+: utf8Bytes "new" := ⟨[0x65, 0x77], rfl⟩
  have steps : (folderOfOne (utf8Bytes "old")).Prepared ["b"] "j" (.str "new") stopped :=
    .tail (.single (.opens rfl)) (.fills rfl begins rfl)
  obtain ⟨-, kept⟩ := stops _ steps
  exact ⟨rfl, entry, temporary, (others "k" (by decide) (direct "k") "old").1 got,
    (kept "k" "old" (direct "k")).1 got⟩

/-- In a folder with some nodes the temporary file of one key is opened, and with that what is read
under another becomes an empty text. -/
def EmptiesAnother (nodes : List (String × FileNode)) (before : Value) : Prop :=
  let d : Disk := ⟨.folder ["b"], folderOf nodes, []⟩
  d.files.Rooted ∧ d.get (.str "k") = .ok before ∧
    ∃ opened, d.files.Prepared ["b"] "j" (.str "new") opened ∧
      Disk.get { d with files := opened } (.str "k") = .ok (.str "")

theorem emptiesAnother {nodes : List (String × FileNode)} {before : Value} {opened : FileTree}
    (got : Disk.get ⟨.folder ["b"], folderOf nodes, []⟩ (.str "k") = .ok before)
    (opens : (folderOf nodes).write ["b", "j.tmp"] [] = .ok opened)
    (got' : Disk.get ⟨.folder ["b"], opened, []⟩ (.str "k") = .ok (.str "")) :
    EmptiesAnother nodes before :=
  ⟨rooted_folderOf nodes, got, opened, .single (.opens opens), got'⟩

/-- A value that is no text is not stored, but the folder it was to go to is made. The folder's path
leads out of a missing folder by `..`, to files that were there before: now they can be read. In a
folder that is there, a text of another key is lost if the temporary file is a link to its file or
has its file's name, too, and another key has a text if its file is a link to the temporary one. And
where the way to the folder leads over the name of the key's file, the text that was moved there is
not found. -/
theorem text_appears_when_folder_is_made :
    (let d : Disk := ⟨.folder ["a", "..", "b"], folderOfOne (utf8Bytes "old"), []⟩
    let d' := (d.set (.str "j") (.int 5)).1
    d.files.Rooted ∧ (d.set (.str "j") (.int 5)).2 = some (.misuse .wrongType) ∧
      d.files.Prepared ["a", "..", "b"] "j" (.int 5) d'.files ∧
      d.get (.str "k") = .ok .null ∧ d'.get (.str "k") = .ok (.str "old")) ∧
    EmptiesAnother [("k.json", .file (utf8Bytes "old")), ("j.tmp", .link false ["k.json"])]
      (.str "old") ∧
    EmptiesAnother [("k.json", .shared 0 (utf8Bytes "old")), ("j.tmp", .shared 0 (utf8Bytes "old"))]
      (.str "old") ∧
    EmptiesAnother [("k.json", .link false ["j.tmp"])] .null ∧
    let d : Disk := ⟨.folder ["b", "j.json"], folderOf [("j.json", .link false ["..", "b"])], []⟩
    let d' := (d.set (.str "j") (.str "new")).1
    d.files.Rooted ∧ (d.set (.str "j") (.str "new")).2 = none ∧
      d'.get (.str "j") = .error (fileFault .get ["b", "j.json", "j.json"]
        ⟨.notFolder, ["b", "j.json", "j.json"], none⟩) := by
  refine ⟨?_, emptiesAnother rfl rfl rfl, emptiesAnother rfl rfl rfl, emptiesAnother rfl rfl rfl,
    rooted_folderOf _, rfl, rfl⟩
  intro d d'
  have failed : d.set (.str "j") (.int 5) = (d', some (.misuse .wrongType)) := rfl
  obtain ⟨files, rest, steps⟩ := prepared_of_set (d := d) rfl failed
  exact ⟨rooted_folderOfOne _, rfl, by rw [rest]; exact steps, rfl, rfl⟩

end Disk

end EventTracker
