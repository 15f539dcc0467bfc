import EventTracker.Proofs.Storage.Interruption

/-!
# Files stay apart

The file of a key is a direct child of the storage's folder, no two keys have the same
file, and no temporary file is the file of a key. So whatever becomes of one key, what is
read under another stays, as long as no links stand in their places, and no folder that is
made on the way changes where the path of the storage leads: the folder is there, or its
path has no `..` and no name that is too long.
-/

namespace EventTracker

/-! ## Names -/

namespace Storage

/-- A name that leads to a direct child of the folder in which it is looked up. -/
structure NamesChild (name : String) : Prop where
  slash : '/' ∉ name.toList
  nul : '\x00' ∉ name.toList
  here : name ≠ "."
  up : name ≠ ".."

theorem safe_of_mem_percentEncode {bytes : List UInt8} {c : Char}
    (mem : c ∈ percentEncode bytes) : c ≠ '/' ∧ c ≠ '\x00' := by
  have safe : ∀ b, (percentEncodeByte b).all (fun c => c ≠ '/' ∧ c ≠ '\x00') = true :=
    forall_byte (by decide +kernel)
  obtain ⟨b, -, mem⟩ := List.mem_flatMap.1 mem
  exact of_decide_eq_true (List.all_eq_true.1 (safe b) c mem)

theorem safe_of_mem_entryName {key : String} {c : Char} (mem : c ∈ (entryName key).toList) :
    c ≠ '/' ∧ c ≠ '\x00' := by
  have ending : ".json".toList.all (fun c => c ≠ '/' ∧ c ≠ '\x00') = true := by decide
  rw [entryName, String.toList_append, List.mem_append, stemOf, String.toList_ofList] at mem
  rcases mem with mem | mem
  · exact safe_of_mem_percentEncode mem
  · exact of_decide_eq_true (List.all_eq_true.1 ending c mem)

theorem namesChild_entryName (key : String) : NamesChild (entryName key) where
  slash mem := (safe_of_mem_entryName mem).1 rfl
  nul mem := (safe_of_mem_entryName mem).2 rfl
  here same := by
    have last := congrArg (fun name : String => name.toList.getLast?) same
    simp [entryName, List.getLast?_append] at last
  up := entryName_ne_up key

theorem entryPath_injective (folder : Path) :
    Function.Injective fun key => entryPath folder (stemOf key) := fun _ _ same =>
  entryName_injective (List.singleton_inj.1 (List.append_cancel_left same))

theorem temporaryPath_ne_entryPath (folder : Path) (key other : String) :
    temporaryPath folder (stemOf key) ≠ entryPath folder (stemOf other) := fun same =>
  (entryName_ne_temporaryName other key) (List.singleton_inj.1 (List.append_cancel_left same)).symm

end Storage

/-- A path that leads nowhere but to the place of its names. -/
structure Path.Plain (p : Path) : Prop where
  down : ".." ∉ p
  short : ∀ name ∈ p, name.utf8ByteSize ≤ FileTree.maxNameLength

namespace FileTree

variable {t t' : FileTree} {folder place p : Path} {name key other : String} {names : List String}

/-! ## A folder that is made -/

/-- Where a folder on the way to another is made, this one is there or still missing. -/
theorem MakesWay.missing_or_isFolder (makes : t.MakesWay folder t') (rooted : t.Rooted)
    (plain : folder.Plain) (fits : folder.text.utf8ByteSize ≤ maxPathLength) :
    t'.IsMissing folder ∨ t'.isFolder folder = true := by
  obtain ⟨hops, enough, found, leads, ends⟩ := makes.exists_leads rooted plain.down
  obtain ⟨place, rfl, -⟩ | (⟨place, rfl⟩ | rfl) | ⟨-, name, mem, long⟩ := ends
  · exact .inr (isFolder_iff.2 ⟨place, locateBy_eq_ok_iff.2 ⟨fits, hops, enough, leads⟩⟩)
  · exact .inl (.inl ⟨place, locateBy_eq_ok_iff.2 ⟨fits, hops, enough, leads⟩⟩)
  · exact .inl (.inr (locateBy_eq_missing_iff.2 ⟨fits, hops, enough, leads⟩))
  · exact absurd long (Nat.not_lt.2 (plain.short name mem))

theorem WayMade.missing_or_isFolder (made : t.WayMade folder t') (rooted : t.Rooted)
    (plain : folder.Plain) (fits : folder.text.utf8ByteSize ≤ maxPathLength)
    (missing : t.IsMissing folder) : t'.IsMissing folder ∨ t'.isFolder folder = true := by
  rcases Relation.ReflTransGen.cases_tail made with rfl | ⟨before, first, makes⟩
  · exact .inl missing
  · exact makes.missing_or_isFolder (WayMade.rooted first rooted) plain fits

/-- Where a folder neither stands nor is missing, nothing is done. -/
theorem Worked.eq_of_blocked (worked : t.Worked folder names t')
    (fits : folder.text.utf8ByteSize ≤ maxPathLength) (missing : ¬ t.IsMissing folder)
    (stands : ¬ t.isFolder folder = true) : t' = t := by
  obtain ⟨made, way, ends⟩ := worked
  obtain rfl : made = t := by
    rcases Relation.ReflTransGen.cases_head way with rfl | ⟨first, makes, -⟩
    · rfl
    · exact absurd (makes.isMissing fits) missing
  obtain rfl | ⟨place, stood, -⟩ := ends
  · rfl
  · exact absurd (isFolder_iff.2 ⟨place, stood⟩) stands

/-! ## What is read under other names -/

theorem read_of_long (long : maxPathLength < p.text.utf8ByteSize) :
    t.read p = .error ⟨.nameTooLong, p, none⟩ := by
  rw [read, locate, locateBy, if_pos long]

/-- What is read in a folder that stands is decided by what stands there under the name, if that is no
link. -/
theorem read_congr_of_stands (stands : t.locate folder = .ok (place, some .folder))
    (stands' : t'.locate folder = .ok (place, some .folder)) (is : IsName name)
    (direct : Direct (t.node? (place ++ [name])))
    (same : t'.node? (place ++ [name]) = t.node? (place ++ [name])) :
    t'.read (folder ++ [name]) = t.read (folder ++ [name]) := by
  by_cases long : maxPathLength < (Path.text (folder ++ [name])).utf8ByteSize
  · rw [read_of_long long, read_of_long long]
  · have fits := Nat.not_lt.1 long
    have direct' : Direct (t'.node? (place ++ [name])) := same ▸ direct
    rw [read, read, locate, locate, locate_in_folder stands is fits (.inl direct),
      locate_in_folder stands' is fits (.inl direct'), same]

/-- Where nothing stands in a folder, nothing is read. -/
theorem read_of_absent (stands : t.locate folder = .ok (place, some .folder)) (is : IsName name)
    (fits : (Path.text (folder ++ [name])).utf8ByteSize ≤ maxPathLength)
    (absent : t.node? (place ++ [name]) = none) : t.read (folder ++ [name]) = .ok none := by
  have direct : Direct (t.node? (place ++ [name])) := absent ▸ bare_none.direct
  rw [read, locate, locate_in_folder stands is fits (.inl direct), absent]

/-- A path that leads to the same place whatever folders are made: its folder is there, or no part
of it is special. -/
def Steady (folder : Path) (t : FileTree) : Prop := t.isFolder folder = true ∨ folder.Plain

theorem Steady.way (steady : t.Steady folder) : t.isFolder folder = true ∨ ".." ∉ folder :=
  steady.imp id Path.Plain.down

/-- Whatever was made and touched, what is read under another name stays. -/
theorem Worked.read_eq (worked : t.Worked folder names t') (rooted : t.Rooted)
    (steady : t.Steady folder) (is : IsName name) (direct : t.Shows folder name Direct)
    (untouched : name ∉ names) : t'.read (folder ++ [name]) = t.read (folder ++ [name]) := by
  by_cases long : maxPathLength < (Path.text (folder ++ [name])).utf8ByteSize
  · rw [read_of_long long, read_of_long long]
  have fits := Nat.not_lt.1 long
  have fits' := Nat.le_trans (Path.size_text_le folder name) fits
  by_cases there : t.isFolder folder = true
  · obtain ⟨place, stands⟩ := isFolder_iff.1 there
    obtain ⟨stands', same⟩ := worked.of_stands stands
    exact read_congr_of_stands stands stands' is (direct place stands) (same name untouched)
  by_cases missing : t.IsMissing folder
  · have plain := steady.resolve_left there
    rw [missing.read_eq fits]
    by_cases made : t'.isFolder folder = true
    · obtain ⟨place, stands⟩ := isFolder_iff.1 made
      exact read_of_absent stands is fits (worked.node?_eq_none rooted plain.down
        (eq_false_of_ne_true there) stands untouched)
    · obtain ⟨between, way, rfl | ⟨place, stands, touches⟩⟩ := worked
      · rcases way.missing_or_isFolder rooted plain fits' missing with missing | stands
        · exact missing.read_eq fits
        · exact absurd stands made
      · exact absurd (isFolder_iff.2 ⟨place, touches.ways.locate_folder stands⟩) made
  · rw [worked.eq_of_blocked fits' missing there]

/-- A removal leaves what is read under other names, if neither name is that of a link. -/
theorem read_of_remove (removed : t.remove (folder ++ [name]) = .ok t') (down : name ≠ "..")
    (direct : t.Shows folder name Direct) (is : IsName other)
    (direct' : t.Shows folder other Direct) (differs : other ≠ name) :
    t'.read (folder ++ [other]) = t.read (folder ++ [other]) := by
  obtain ⟨rfl, -⟩ | ⟨place, stands, found, file, rfl⟩ := exists_of_remove removed
  · rfl
  obtain ⟨-, -, above, stood, ends⟩ := exists_stands_of_locateBy down found
  obtain ⟨rfl, held⟩ := ends (.inr rfl)
  have bare := bare_of_direct (direct above stood) fun folder =>
    file (Option.some.inj (held.trans folder))
  refine read_congr_of_stands stood ((sameWays_erase bare).locate_folder stood) is
    (direct' above stood) ?_
  rw [node?_erase_of_ne t (append_singleton_ne differs)]

/-! ## A folder whose name is too long -/

section Long

variable {through : Bool} {rest : List String}

theorem locateBy_empty (name : String) (rest : List String)
    (fits : (Path.text ("a" :: name :: rest)).utf8ByteSize ≤ maxPathLength) :
    (⟨[]⟩ : FileTree).locateBy through ("a" :: name :: rest) = .error .missing :=
  locateBy_eq_missing_iff.2 ⟨fits, 0, Nat.zero_le _,
    .blocked ⟨by decide, by decide⟩ rfl bare_none (List.cons_ne_nil _ _)⟩

theorem locateBy_ofFolder_of_long (down : name ≠ "..") (long : maxNameLength < name.utf8ByteSize)
    (fits : (Path.text ("a" :: name :: rest)).utf8ByteSize ≤ maxPathLength) :
    (ofFolder "a").locateBy through ("a" :: name :: rest) = .error .nameTooLong := by
  rw [locateBy, if_neg (Nat.not_lt.2 fits)]
  have leads : (ofFolder "a").Leads through 0 [] ("a" :: name :: rest) (.error .nameTooLong) :=
    .down ⟨by decide, by decide⟩ rfl (.long down long)
  exact leads.locateFrom_eq (Nat.zero_le _)

/-- Of a folder whose name is too long, only the one above it is made. -/
theorem ensureFolder_of_long (down : name ≠ "..") (long : maxNameLength < name.utf8ByteSize)
    (fits : (Path.text ["a", name]).utf8ByteSize ≤ maxPathLength) :
    (⟨[]⟩ : FileTree).ensureFolder ["a", name] =
      (ofFolder "a", some ⟨.nameTooLong, ["a", name], none⟩) := by
  have missing : (⟨[]⟩ : FileTree).makeFolder ["a", name] = .error .missing := by
    rw [makeFolder, locateEntry, locateBy_empty name [] fits]
  have above : (⟨[]⟩ : FileTree).ensureFolderReversed ["a"] = (ofFolder "a", none) := rfl
  have refused : (ofFolder "a").makeFolder ["a", name] = .error .nameTooLong := by
    rw [makeFolder, locateEntry, locateBy_ofFolder_of_long down long fits]
  have absent : (ofFolder "a").isFolder ["a", name] = false := by
    rw [isFolder, locate, locateBy_ofFolder_of_long down long fits]
  show ensureFolderReversed ⟨[]⟩ [name, "a"] = _
  rw [ensureFolderReversed]
  simp only [List.reverse_cons, List.reverse_nil, List.nil_append, List.singleton_append, missing,
    above, refused, absent, Bool.false_eq_true, if_false]

end Long

end FileTree

/-! ## Accesses -/

namespace Disk

variable {d d' : Disk} {folder : Path} {key other : String}

/-- What is read is decided by what the key's file is read as. -/
theorem get_congr_of_read (place : d.storage = .folder folder)
    (place' : d'.storage = .folder folder)
    (read : d'.files.read (Storage.entryPath folder (Storage.stemOf key)) =
      d.files.read (Storage.entryPath folder (Storage.stemOf key))) :
    d'.get (.str key) = d.get (.str key) := by
  rw [get, get, place, place']
  simp only [Storage.fileStem_str, read]

/-- Storing a value under a key, whether that fails or not, touches the files of the key only, if the
temporary one is no link and has no other name, and the other one is no link, either. -/
theorem worked_of_set (place : d.storage = .folder folder)
    (sole : d.files.Finds folder (Storage.temporaryName key) FileTree.Sole)
    (direct : d.files.Finds folder (Storage.entryName key) FileTree.Direct) (value : Value) :
    (d.set (.str key) value).1.storage = .folder folder ∧
      d.files.Worked folder [Storage.temporaryName key, Storage.entryName key]
        (d.set (.str key) value).1.files := by
  generalize result : d.set (.str key) value = after
  obtain ⟨d', _ | fault⟩ := after
  · obtain ⟨text, rfl, place', moved⟩ := moved_of_set place result
    exact ⟨place', moved.worked sole direct⟩
  · obtain ⟨files, rfl, steps⟩ := prepared_of_set place result
    exact ⟨place, (steps.worked sole).mono (by simp)⟩

/-- A removal, whether it fails or not, leaves what is read under other keys. -/
theorem get_of_remove (place : d.storage = .folder folder)
    (direct : d.files.Shows folder (Storage.entryName key) FileTree.Direct)
    (short : (Storage.entryName other).utf8ByteSize ≤ FileTree.maxNameLength)
    (direct' : d.files.Shows folder (Storage.entryName other) FileTree.Direct)
    (differs : other ≠ key) :
    (d.remove (.str key)).1.get (.str other) = d.get (.str other) := by
  rw [remove, place]
  simp only [Storage.fileStem_str]
  split
  · rfl
  · split
    · rfl
    case h_2 files removed =>
      refine get_congr_of_read place rfl ?_
      exact FileTree.read_of_remove removed (Storage.entryName_ne_up key) direct
        (Storage.isName_entryName short) direct'
        fun same => differs (Storage.entryName_injective same)

/-- Each key's file is a direct child of the storage's folder, different keys have different files,
and no temporary file is the file of a key. So what is read under a key whose file's name fits stays
whatever is removed under another key, if neither file is a symbolic link. It stays, too, whatever is
stored there and however far that comes, if the temporary file is no link and has no other name, and
the folder is there or its path has neither `..` nor a name that is too long. -/
theorem files_of_keys_stay_apart (folder : Path) :
    (∀ key, ∃ name, Storage.entryPath folder (Storage.stemOf key) = folder ++ [name] ∧
      Storage.NamesChild name) ∧
    (∀ key other, key ≠ other → Storage.entryPath folder (Storage.stemOf key) ≠
      Storage.entryPath folder (Storage.stemOf other)) ∧
    (∀ key other, Storage.temporaryPath folder (Storage.stemOf key) ≠
      Storage.entryPath folder (Storage.stemOf other)) ∧
    ∀ d : Disk, d.storage = .folder folder → d.files.Rooted →
      ∀ key other, key ≠ other →
        (Storage.entryName other).utf8ByteSize ≤ FileTree.maxNameLength →
        d.files.Shows folder (Storage.entryName key) FileTree.Direct →
        d.files.Shows folder (Storage.entryName other) FileTree.Direct →
        (d.remove (.str key)).1.get (.str other) = d.get (.str other) ∧
        (d.files.Steady folder →
          d.files.Shows folder (Storage.temporaryName key) FileTree.Sole → ∀ value,
          (d.set (.str key) value).1.get (.str other) = d.get (.str other) ∧
          ∀ files, d.files.Prepared folder key value files →
            { d with files }.get (.str other) = d.get (.str other)) := by
  refine ⟨fun key => ⟨_, rfl, Storage.namesChild_entryName key⟩, fun key other differs same =>
    differs (Storage.entryPath_injective folder same), Storage.temporaryPath_ne_entryPath folder,
    fun d place rooted key other differs short direct direct' =>
      ⟨get_of_remove place direct short direct' differs.symm, fun steady sole value => ?_⟩⟩
  have sole := sole.finds rooted steady.way FileTree.own_none.sole
  have direct := direct.finds rooted steady.way FileTree.bare_none.direct
  have untouched : Storage.entryName other ∉
      [Storage.temporaryName key, Storage.entryName key] := by
    simpa using ⟨Storage.entryName_ne_temporaryName other key,
      fun same => differs (Storage.entryName_injective same).symm⟩
  have stored {d' : Disk} (place' : d'.storage = .folder folder)
      (worked : d.files.Worked folder [Storage.temporaryName key, Storage.entryName key] d'.files) :
      d'.get (.str other) = d.get (.str other) :=
    get_congr_of_read place place'
      (worked.read_eq rooted steady (Storage.isName_entryName short) direct' untouched)
  obtain ⟨place', worked⟩ := worked_of_set place sole direct value
  exact ⟨stored place' worked, fun files steps => @stored { d with files } place
    ((FileTree.Prepared.worked steps sole).mono (by simp))⟩

/-- A key that is a path out of the folder: a text is stored under it, a value that is none is
refused, all stops once the temporary file is opened, or the key is removed. -/
theorem files_of_keys_stay_apart_dots :
    let d : Disk := ⟨.folder ["b"], folderOfOne (utf8Bytes "old"), []⟩
    let stopped := (folderOfOne (utf8Bytes "old")).put ["b", "..%2Fk.tmp"] (.file [])
    Storage.entryPath ["b"] (Storage.stemOf "../k") = ["b", "..%2Fk.json"] ∧
      (d.set (.str "../k") (.str "new")).1.get (.str "k") = .ok (.str "old") ∧
      (d.set (.str "../k") (.int 5)).1.get (.str "k") = .ok (.str "old") ∧
      Disk.get { d with files := stopped } (.str "k") = .ok (.str "old") ∧
      (d.remove (.str "../k")).1.get (.str "k") = .ok (.str "old") := by
  intro d stopped
  have shows (name : String) := ((linkless_folderOfOne (utf8Bytes "old")).finds ["b"] name).shows
  have direct (name : String) :=
    ((linkless_folderOfOne (utf8Bytes "old")).finds ["b"] name).direct.shows
  obtain ⟨-, -, -, stay⟩ := files_of_keys_stay_apart ["b"]
  obtain ⟨removed, stored⟩ := stay d rfl (rooted_folderOfOne _) "../k" "k" (by decide) (by decide)
    (direct _) (direct _)
  have steady : d.files.Steady ["b"] := .inl rfl
  have stored := stored steady (shows _)
  have steps : d.files.Prepared ["b"] "../k" (.str "new") stopped := .single (.opens rfl)
  have got : d.get (.str "k") = .ok (.str "old") := rfl
  exact ⟨rfl, (stored _).1.trans got, (stored _).1.trans got, ((stored _).2 _ steps).trans got,
    removed.trans got⟩

/-- What is read, at first and after another text could not be stored, in a folder whose name is too
long and below one that was not there. -/
theorem get_below_long_name (name : String) (down : name ≠ "..")
    (usable : Storage.isUsable ["a", name] = true)
    (long : FileTree.maxNameLength < name.utf8ByteSize)
    (fits : (Path.text ["a", name, "k.json"]).utf8ByteSize ≤ FileTree.maxPathLength) :
    let d : Disk := ⟨.folder ["a", name], ⟨[]⟩, []⟩
    d.get (.str "k") = .ok .null ∧
      (d.set (.str "j") (.str "new")).1.get (.str "k") =
        .error (fileFault .get ["a", name, "k.json"]
          ⟨.nameTooLong, ["a", name, "k.json"], none⟩) := by
  intro d
  have ensured := FileTree.ensureFolder_of_long down long
    (Nat.le_trans (Path.size_text_le ["a", name] "k.json") fits)
  have path : Storage.entryPath ["a", name] (Storage.stemOf "k") = ["a", name, "k.json"] := rfl
  have missing : d.files.read ["a", name, "k.json"] = .ok none := by
    rw [FileTree.read, FileTree.locate, FileTree.locateBy_empty name _ fits]
  have refused : (FileTree.ofFolder "a").read ["a", name, "k.json"] =
      .error ⟨.nameTooLong, ["a", name, "k.json"], none⟩ := by
    rw [FileTree.read, FileTree.locate, FileTree.locateBy_ofFolder_of_long down long fits]
  have halfMade : (d.set (.str "j") (.str "new")).1 =
      { d with files := FileTree.ofFolder "a" } := by
    rw [set_eq_writeFile rfl usable (Storage.fileStem_str _), writeFile]
    simp only [d, ensured]
  refine ⟨get_of_missing rfl usable (Storage.fileStem_str "k") missing, ?_⟩
  rw [halfMade, get]
  simp only [d, Storage.fileStem_str, usable, path, refused, Bool.not_true, Bool.false_eq_true,
    if_false]

/-- In a folder with some nodes, a change under one key turns what is read under another. -/
def TurnsAnother (change : Disk → Disk) (folder : Path) (nodes : List (String × FileNode))
    (before after : Except Fault Value) : Prop :=
  let d : Disk := ⟨.folder folder, folderOf nodes, []⟩
  d.files.Rooted ∧ d.get (.str "k") = before ∧ (change d).get (.str "k") = after

/-- To store a text makes the folder. Where its path leads out of a missing folder by `..`, files that
were there before can now be read under other keys. Where it ends in a name that is too long, only
the folder above is made, and what could be looked for in vain fails from now on. In a folder that is
there, a text is written over that of another key where the temporary file is a link to its file or
one of its names. Where the other file is a link to the key's file it is stored and removed with this,
and where the way to the folder leads over a link under the name of the key's file, there is no such
way any more once that is replaced or removed. -/
theorem reading_changes_when_folder_is_made :
    let long := String.ofList (List.replicate 256 'n')
    let up : Disk := ⟨.folder ["a", "..", "b"], folderOfOne (utf8Bytes "old"), []⟩
    let deep : Disk := ⟨.folder ["a", long], ⟨[]⟩, []⟩
    let store := fun d : Disk => (d.set (.str "j") (.str "new")).1
    let remove := fun d : Disk => (d.remove (.str "j")).1
    let old := FileNode.file (utf8Bytes "old")
    let back := FileNode.link false ["..", "b"]
    (up.files.Rooted ∧ (up.set (.str "j") (.str "new")).2 = none ∧
      up.get (.str "k") = .ok .null ∧ (store up).get (.str "k") = .ok (.str "old")) ∧
    (deep.files.Rooted ∧ deep.get (.str "k") = .ok .null ∧ (store deep).get (.str "k") =
      .error (fileFault .get ["a", long, "k.json"] ⟨.nameTooLong, ["a", long, "k.json"], none⟩)) ∧
    TurnsAnother store ["b"] [("k.json", old), ("j.tmp", .link false ["k.json"])]
      (.ok (.str "old")) (.ok (.str "new")) ∧
    TurnsAnother store ["b"]
      [("k.json", .shared 0 (utf8Bytes "old")), ("j.tmp", .shared 0 (utf8Bytes "old"))]
      (.ok (.str "old")) (.ok (.str "new")) ∧
    TurnsAnother store ["b"] [("k.json", .link false ["j.json"])] (.ok .null) (.ok (.str "new")) ∧
    TurnsAnother remove ["b"] [("j.json", old), ("k.json", .link false ["j.json"])]
      (.ok (.str "old")) (.ok .null) ∧
    TurnsAnother store ["b", "j.json"] [("j.json", back), ("k.json", old)] (.ok (.str "old"))
      (.error (fileFault .get ["b", "j.json", "k.json"]
        ⟨.notFolder, ["b", "j.json", "k.json"], none⟩)) ∧
    TurnsAnother remove ["b", "j.json"] [("j.json", back), ("k.json", old)] (.ok (.str "old"))
      (.ok .null) := by
  intro long up deep store remove old back
  have usable : Storage.isUsable ["a", long] = true := by
    simp only [Storage.isUsable, List.all_cons, List.all_nil, long, String.toList_ofList]
    decide +kernel
  have reading := get_below_long_name long (by decide +kernel) usable (by decide +kernel)
    (by decide +kernel)
  exact ⟨⟨rooted_folderOfOne _, rfl, rfl, rfl⟩, ⟨FileTree.rooted_empty, reading⟩,
    ⟨rooted_folderOf _, rfl, rfl⟩, ⟨rooted_folderOf _, rfl, rfl⟩, ⟨rooted_folderOf _, rfl, rfl⟩,
    ⟨rooted_folderOf _, rfl, rfl⟩, ⟨rooted_folderOf _, rfl, rfl⟩, ⟨rooted_folderOf _, rfl, rfl⟩⟩

end Disk

end EventTracker
