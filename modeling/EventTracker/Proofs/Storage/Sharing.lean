import EventTracker.Proofs.Storage.Interruption

/-!
# Keys beside each other

Many keys share one storage. If at first no access under any of them is refused, none ever
is, and an access under one key leaves what is stored under the others as it is. In a
folder this asks for more than different names: it must be there, or no `..` may lead to
it, since to make it could open the way to files that were there before. And no links may
stand there in the places of the files, since one file is touched under two keys then.
-/

namespace EventTracker

variable {ι : Type} {i : ι}

namespace FileTree

variable {t t' : FileTree} {folder : Path} {names : ι → String}

/-- A folder for the files of some keys: it is there or can be made, and then the temporary files can
be written under names of their own, and the files can be written where no links stand. -/
def Room (folder : Path) (names : ι → String) (t : FileTree) : Prop :=
  ∃ made, t.ensureFolder folder = (made, none) ∧ ∀ i,
    made.TakesOwn (Storage.temporaryPath folder (Storage.stemOf (names i))) ∧
      made.TakesFile (Storage.entryPath folder (Storage.stemOf (names i)))

/-- A folder that can be made, if it is not there, without opening the way to files that were there
before. If it is there, the files of some keys and their temporary files are no links in it, and the
temporary ones have no other names. -/
structure Closed (folder : Path) (names : ι → String) (t : FileTree) : Prop where
  rooted : t.Rooted
  way : t.isFolder folder = true ∨ ".." ∉ folder
  temporary : ∀ i, t.Shows folder (Storage.temporaryName (names i)) Sole
  entry : ∀ i, t.Shows folder (Storage.entryName (names i)) Direct

theorem Linkless.closed (linkless : t.Linkless) (rooted : t.Rooted)
    (way : t.isFolder folder = true ∨ ".." ∉ folder) : t.Closed folder names :=
  ⟨rooted, way, fun _ => (linkless.finds folder _).shows,
    fun _ => (linkless.finds folder _).direct.shows⟩

/-- A folder with room, in a tree whose nodes stand in folders. It is there, or no `..` leads to
it. -/
structure Hosts (folder : Path) (names : ι → String) (t : FileTree) : Prop where
  rooted : t.Rooted
  way : t.isFolder folder = true ∨ ".." ∉ folder
  room : t.Room folder names

namespace Room

variable (room : t.Room folder names)

include room

/-- In a folder that is there the files can be written. In one that is not, no file is found. -/
theorem cases : (t.isFolder folder = true ∧ ∀ i,
      t.TakesOwn (Storage.temporaryPath folder (Storage.stemOf (names i))) ∧
        t.TakesFile (Storage.entryPath folder (Storage.stemOf (names i)))) ∨
    t.IsMissing folder ∧ ∀ i,
      (Path.text (folder ++ [Storage.entryName (names i)])).utf8ByteSize ≤ maxPathLength := by
  obtain ⟨made, ensured, takes⟩ := room
  rcases isFolder_or_missing_of_ensureFolder ensured with stands | missing
  · rw [ensureFolder_of_isFolder stands] at ensured
    cases ensured
    exact .inl ⟨stands, takes⟩
  · refine .inr ⟨missing, fun i => ?_⟩
    obtain ⟨-, place, node, found, -⟩ := takes i
    exact (exists_stands_of_locateBy (Storage.entryName_ne_up _) found).2.1

/-- The temporary files have one name each. -/
theorem shows_temporary (i : ι) : t.Shows folder (Storage.temporaryName (names i)) Sole := by
  rcases room.cases with ⟨-, takes⟩ | ⟨missing, -⟩
  · obtain ⟨⟨place, node, found, own⟩, -⟩ := takes i
    exact shows_of_locateEntry (Storage.temporaryName_ne_up _) found own.sole
  · exact missing.shows

/-- No link stands where the files go. -/
theorem shows_entry (i : ι) : t.Shows folder (Storage.entryName (names i)) Direct := by
  rcases room.cases with ⟨-, takes⟩ | ⟨missing, -⟩
  · obtain ⟨-, place, node, found, bare⟩ := takes i
    exact shows_of_locateEntry (Storage.entryName_ne_up _) found bare.direct
  · exact missing.shows

theorem exists_read (i : ι) :
    ∃ content, t.read (Storage.entryPath folder (Storage.stemOf (names i))) = .ok content := by
  rcases room.cases with ⟨-, takes⟩ | ⟨missing, fits⟩
  · exact (takes i).2.exists_read
  · exact ⟨none, missing.read_eq (fits i)⟩

theorem exists_remove (i : ι) :
    ∃ t', t.remove (Storage.entryPath folder (Storage.stemOf (names i))) = .ok t' := by
  rcases room.cases with ⟨-, takes⟩ | ⟨missing, fits⟩
  · exact (takes i).2.exists_remove
  · exact ⟨t, missing.remove_eq (fits i)⟩

/-- The stages that a text goes through to be stored. -/
theorem exists_stages (i : ι) (text : String) :
    ∃ made opened filled moved, t.ensureFolder folder = (made, none) ∧
      made.write (Storage.temporaryPath folder (Storage.stemOf (names i))) [] = .ok opened ∧
      opened.write (Storage.temporaryPath folder (Storage.stemOf (names i))) (utf8Bytes text) =
        .ok filled ∧
      filled.replace (Storage.temporaryPath folder (Storage.stemOf (names i)))
        (Storage.entryPath folder (Storage.stemOf (names i))) = .ok moved ∧
      made.SameWays moved := by
  obtain ⟨made, ensured, takes⟩ := room
  obtain ⟨temporary, entry⟩ := takes i
  obtain ⟨opened, created⟩ := temporary.exists_write []
  obtain ⟨same, -⟩ := temporary.of_write created
  have temporary := temporary.of_sameWays same
  obtain ⟨filled, written⟩ := temporary.exists_write (utf8Bytes text)
  obtain ⟨same', origin, held⟩ := temporary.of_write written
  have same := same.trans same'
  have entry := entry.of_sameWays same
  obtain ⟨moved, replaced⟩ := entry.exists_replace held
  exact ⟨made, opened, filled, moved, ensured, created, written, replaced,
    same.trans (of_replace held entry replaced).1⟩

end Room

namespace Hosts

/-- A folder that is there still has room as long as the folders and links are the same. -/
theorem of_sameWays (rooted : t'.Rooted) (stands : t.isFolder folder = true)
    (takes : ∀ i, t.TakesOwn (Storage.temporaryPath folder (Storage.stemOf (names i))) ∧
      t.TakesFile (Storage.entryPath folder (Storage.stemOf (names i))))
    (same : t.SameWays t') : t'.Hosts folder names :=
  have stands := isFolder_of_sameWays same stands
  ⟨rooted, .inl stands, t', ensureFolder_of_isFolder stands, fun i =>
    ⟨(takes i).1.of_sameWays same, (takes i).2.of_sameWays same⟩⟩

variable (hosts : t.Hosts folder names)

include hosts

theorem finds_temporary (i : ι) : t.Finds folder (Storage.temporaryName (names i)) Sole :=
  (hosts.room.shows_temporary i).finds hosts.rooted hosts.way own_none.sole

theorem finds_entry (i : ι) : t.Finds folder (Storage.entryName (names i)) Direct :=
  (hosts.room.shows_entry i).finds hosts.rooted hosts.way bare_none.direct

/-- A text can be stored, and then the folder is there. -/
theorem exists_moved (i : ι) (text : String) :
    ∃ made opened filled moved, t.ensureFolder folder = (made, none) ∧
      made.write (Storage.temporaryPath folder (Storage.stemOf (names i))) [] = .ok opened ∧
      opened.write (Storage.temporaryPath folder (Storage.stemOf (names i))) (utf8Bytes text) =
        .ok filled ∧
      filled.replace (Storage.temporaryPath folder (Storage.stemOf (names i)))
        (Storage.entryPath folder (Storage.stemOf (names i))) = .ok moved ∧
      moved.Hosts folder names ∧ t.Moved folder (names i) text moved := by
  obtain ⟨made, opened, filled, moved, ensured, created, written, replaced, same⟩ :=
    hosts.room.exists_stages i text
  have steps : t.Moved folder (names i) text moved :=
    ⟨opened, filled, (prepared_ensureFolder ensured).tail (.opens created), written, replaced⟩
  obtain ⟨made', ensured', takes⟩ := hosts.room
  cases ensured'.symm.trans ensured
  obtain ⟨-, place, node, found, -⟩ := takes i
  obtain ⟨-, -, above, stands, -⟩ := exists_stands_of_locateBy (Storage.entryName_ne_up _) found
  have rooted := (steps.worked (hosts.finds_temporary i) (hosts.finds_entry i)).rooted hosts.rooted
  exact ⟨made, opened, filled, moved, ensured, created, written, replaced,
    of_sameWays rooted (isFolder_iff.2 ⟨above, stands⟩) takes same, steps⟩

/-- A text can be removed. -/
theorem exists_removed (i : ι) :
    ∃ t', t.remove (Storage.entryPath folder (Storage.stemOf (names i))) = .ok t' ∧
      t'.Hosts folder names ∧ t.Worked folder [Storage.entryName (names i)] t' := by
  rcases hosts.room.cases with ⟨stands, takes⟩ | ⟨missing, fits⟩
  · obtain ⟨t', removed⟩ := (takes i).2.exists_remove
    obtain ⟨same, -⟩ := of_remove (takes i).2 removed
    refine ⟨t', removed, ?_⟩
    suffices worked : t.Worked folder [Storage.entryName (names i)] t' from
      ⟨of_sameWays (worked.rooted hosts.rooted) stands takes same, worked⟩
    obtain ⟨rfl, -⟩ | ⟨place, node, found, file, rfl⟩ := exists_of_remove removed
    · exact .refl _ _ _
    · obtain ⟨-, -, above, stood, ends⟩ :=
        exists_stands_of_locateBy (Storage.entryName_ne_up _) found
      obtain ⟨rfl, held⟩ := ends (.inr rfl)
      have bare := bare_of_direct (hosts.room.shows_entry i above stood) fun folder =>
        file (Option.some.inj (held.trans folder))
      exact (Worked.refl _ _ t).touch stood (touches_erase bare)
  · exact ⟨t, missing.remove_eq (fits i), hosts, .refl _ _ t⟩

end Hosts

/-- Where a text was stored there is room for it, if neither name is that of a link and the temporary
file has no other name. -/
theorem takes_of_stored {made opened filled moved : FileTree} {key : String}
    {first content : List UInt8} (ensured : t.ensureFolder folder = (made, none))
    (created : made.write (Storage.temporaryPath folder (Storage.stemOf key)) first = .ok opened)
    (written : opened.write (Storage.temporaryPath folder (Storage.stemOf key)) content =
      .ok filled)
    (replaced : filled.replace (Storage.temporaryPath folder (Storage.stemOf key))
      (Storage.entryPath folder (Storage.stemOf key)) = .ok moved)
    (sole : t.Finds folder (Storage.temporaryName key) Sole)
    (direct : t.Finds folder (Storage.entryName key) Direct) :
    made.TakesOwn (Storage.temporaryPath folder (Storage.stemOf key)) ∧
      made.TakesFile (Storage.entryPath folder (Storage.stemOf key)) := by
  have steps : t.Prepared folder key .null made := prepared_ensureFolder ensured
  have worked := Prepared.worked steps sole
  obtain ⟨place, stands, own, -, there⟩ :=
    worked.exists_of_write sole (Storage.temporaryName_ne_up key) created
  obtain ⟨is, fits, -⟩ := exists_stands_of_locateBy (Storage.temporaryName_ne_up key) there
  refine ⟨⟨_, _, locate_in_folder stands is fits (.inr rfl), own⟩, ?_⟩
  have same := (FileTree.of_write created).1.trans (FileTree.of_write written).1
  obtain ⟨_, _, target, node, -, -, found, file, -⟩ := exists_of_replace replaced
  obtain ⟨is, fits, above, stands', ends⟩ :=
    exists_stands_of_locateBy (Storage.entryName_ne_up key) found
  cases (same.locate_folder stands).symm.trans stands'
  obtain ⟨rfl, held⟩ := ends (.inr rfl)
  refine ⟨_, _, locate_in_folder stands is fits (.inr rfl), ?_⟩
  exact bare_of_direct (worked.direct direct stands) fun folder =>
    file (held.trans (same.folder folder))

end FileTree

namespace Disk

variable {d d' : Disk} {place : Option Path} {folder : Path} {names : ι → Text}

/-- What is stored under a key: a value in memory, or the content of the key's file. -/
def stored (d : Disk) (key : Text) : Option Value :=
  match d.storage with
  | .memory items _ _ => items.get? (.str key)
  | .folder folder =>
    match Storage.fileStem (.str key) with
    | .ok stem =>
      match d.files.read (Storage.entryPath folder stem) with
      | .ok (some content) => some (.bytes content)
      | _ => none
    | .error _ => none

/-- A storage in memory, or in a folder and under keys that can name files, in which no access under
the keys is refused. -/
def Hosts (place : Option Path) (names : ι → Text) (d : Disk) : Prop :=
  match place with
  | none => ∃ items writes, d.storage = .memory items [] writes
  | some folder => d.storage = .folder folder ∧ Storage.isUsable folder = true ∧
    ∃ plain : ι → String, names = (fun i => .plain (plain i)) ∧ d.files.Hosts folder plain

/-- What a text is stored as. -/
def kept (place : Option Path) (text : String) : Value :=
  match place with
  | none => .str text
  | some _ => .bytes (utf8Bytes text)

theorem stored_eq_some_iff (folder_of : d.storage = .folder folder) {key : String}
    {content : List UInt8} : d.stored (.plain key) = some (.bytes content) ↔
      d.files.read (Storage.entryPath folder (Storage.stemOf key)) = .ok (some content) := by
  rw [stored, folder_of]
  simp only [Storage.fileStem_str]
  split <;> simp_all

theorem stored_eq_none (folder_of : d.storage = .folder folder) {key : String}
    (absent : d.files.read (Storage.entryPath folder (Storage.stemOf key)) = .ok none) :
    d.stored (.plain key) = none := by
  rw [stored, folder_of]
  simp only [Storage.fileStem_str, absent]

/-- In a folder, what is stored under a key stays when its file is not touched. -/
theorem stored_of_worked {plain : ι → String} (place : d.storage = .folder folder)
    (hosts : d.files.Hosts folder plain) {files : FileTree} {touched : List String}
    (worked : d.files.Worked folder touched files) (log : List LogRecord) (j : ι)
    (untouched : Storage.entryName (plain j) ∉ touched) :
    stored { d with files, log } (.plain (plain j)) = d.stored (.plain (plain j)) := by
  have direct := hosts.finds_entry j
  have read (content : List UInt8) :
      files.read (Storage.entryPath folder (Storage.stemOf (plain j))) = .ok (some content) ↔
        d.files.read (Storage.entryPath folder (Storage.stemOf (plain j))) = .ok (some content) :=
    ⟨worked.read_before direct (Storage.entryName_ne_up _) untouched hosts.rooted hosts.way,
      worked.read direct (Storage.entryName_ne_up _) untouched⟩
  rw [stored, stored, place]
  simp only [Storage.fileStem_str]
  split
  case h_1 content found => rw [(read content).1 found]
  case h_2 others =>
    split
    case h_1 content found => exact absurd ((read content).2 found) (others content)
    case h_2 => rfl

namespace Hosts

variable (hosts : d.Hosts place names)

include hosts

theorem withLog (log : List LogRecord) : Disk.Hosts place names { d with log } := by
  cases place with
  | none => exact hosts
  | some folder => exact hosts

/-- What is read is decided by what is stored. -/
theorem get_eq {d' : Disk} (hosts' : d'.Hosts place names)
    (same : d'.stored (names i) = d.stored (names i)) :
    d'.get (.str (names i)) = d.get (.str (names i)) := by
  cases place with
  | none =>
    obtain ⟨items, writes, memory⟩ := hosts
    obtain ⟨items', writes', memory'⟩ := hosts'
    rw [stored, stored, memory, memory'] at same
    rw [get_memory memory List.not_mem_nil, get_memory memory' List.not_mem_nil]
    simp only at same
    rw [same]
  | some folder =>
    obtain ⟨place, usable, plain, rfl, hosts⟩ := hosts
    obtain ⟨place', -, plain', names, hosts'⟩ := hosts'
    obtain rfl : plain = plain' := funext fun i => Text.plain.inj (congrFun names i)
    obtain ⟨content, read⟩ := hosts.room.exists_read i
    obtain ⟨content', read'⟩ := hosts'.room.exists_read i
    obtain rfl : content' = content := by
      cases content with
      | none =>
        cases content' with
        | none => rfl
        | some content' =>
          rw [(stored_eq_some_iff place').2 read', stored_eq_none place read] at same
          cases same
      | some content =>
        rw [(stored_eq_some_iff place).2 read, stored_eq_some_iff place', read'] at same
        exact Except.ok.inj same
    rw [get, get, place, place']
    simp only [Storage.fileStem_str, usable, read, read']

/-- A text is stored under a key, and what is stored under the others stays. -/
theorem exists_set (distinct : Function.Injective names) (i : ι) (text : String) :
    ∃ d', d.set (.str (names i)) (.str text) = (d', none) ∧ d'.Hosts place names ∧
      d'.stored (names i) = some (kept place text) ∧
      ∀ j ≠ i, d'.stored (names j) = d.stored (names j) := by
  cases place with
  | none =>
    obtain ⟨items, writes, memory⟩ := hosts
    refine ⟨_, set_memory memory List.not_mem_nil _ _, ⟨_, _, rfl⟩, ?_, fun j other => ?_⟩
    · exact Mapping.get?_insert _ _ _
    · rw [stored, stored, memory]
      have apart : names i ≠ names j := fun same => other (distinct same).symm
      simp only [Mapping.get?_insert_text, if_neg apart]
  | some folder =>
    obtain ⟨place, usable, plain, rfl, hosts⟩ := hosts
    obtain ⟨made, opened, filled, moved, ensured, created, written, replaced, hosted, steps⟩ :=
      hosts.exists_moved i text
    have result : ∃ log, d.set (.str (plain i)) (.str text) =
        ({ d with files := moved, log }, none) := by
      rw [set_eq_writeFile place usable (Storage.fileStem_str _), writeFile]
      simp only [ensured, created, written, replaced]
      exact ⟨_, rfl⟩
    obtain ⟨log, result⟩ := result
    refine ⟨_, result, ⟨place, usable, plain, rfl, hosted⟩, ?_, fun j other => ?_⟩
    · have read := (steps.read (hosts.finds_temporary i) (hosts.finds_entry i)).1
      exact (stored_eq_some_iff (d := { d with files := moved, log }) place).2 read
    · have apart : plain j ≠ plain i := fun same => other (distinct (congrArg Text.plain same))
      have untouched : Storage.entryName (plain j) ∉
          [Storage.temporaryName (plain i), Storage.entryName (plain i)] := by
        simpa using ⟨Storage.entryName_ne_temporaryName _ _,
          fun same => apart (Storage.entryName_injective same)⟩
      have worked := steps.worked (hosts.finds_temporary i) (hosts.finds_entry i)
      exact stored_of_worked place hosts worked log j untouched

/-- What is stored under a key is removed, and what is stored under the others stays. -/
theorem exists_remove (distinct : Function.Injective names) (i : ι) :
    ∃ d', d.remove (.str (names i)) = (d', none) ∧ d'.Hosts place names ∧
      d'.stored (names i) = none ∧ ∀ j ≠ i, d'.stored (names j) = d.stored (names j) := by
  cases place with
  | none =>
    obtain ⟨items, writes, memory⟩ := hosts
    refine ⟨_, remove_memory memory List.not_mem_nil _, ⟨_, _, rfl⟩, ?_, fun j other => ?_⟩
    · exact Mapping.get?_erase _ _
    · rw [stored, stored, memory]
      have apart : names i ≠ names j := fun same => other (distinct same).symm
      simp only [Mapping.get?_erase_text, if_neg apart]
  | some folder =>
    obtain ⟨place, usable, plain, rfl, hosts⟩ := hosts
    obtain ⟨files, removed, hosted, worked⟩ := hosts.exists_removed i
    refine ⟨_, remove_of_removed place usable (Storage.fileStem_str _) removed,
      ⟨place, usable, plain, rfl, hosted⟩, ?_, fun j other => ?_⟩
    · have gone : files.read (Storage.entryPath folder (Storage.stemOf (plain i))) = .ok none :=
        FileTree.read_of_remove_eq_none (Storage.entryName_ne_up _) removed
      exact stored_eq_none (d := { d with files }) place gone
    · have apart : plain j ≠ plain i := fun same => other (distinct (congrArg Text.plain same))
      have untouched : Storage.entryName (plain j) ∉ [Storage.entryName (plain i)] := by
        simpa using fun same => apart (Storage.entryName_injective same)
      exact stored_of_worked place hosts worked d.log j untouched

/-- Whatever is written and removed under a key, no access is refused, and what is stored under the
others stays. -/
theorem of_reaches (distinct : Function.Injective names)
    (reaches : d.Reaches (.str (names i)) d') :
    d'.Hosts place names ∧ ∀ j ≠ i, d'.stored (names j) = d.stored (names j) := by
  induction reaches with
  | start => exact ⟨hosts, fun _ _ => rfl⟩
  | set text _ ih =>
    obtain ⟨after, result, hosted, -, stays⟩ := ih.1.exists_set distinct i text
    rw [result]
    exact ⟨hosted, fun j other => (stays j other).trans (ih.2 j other)⟩
  | remove _ ih =>
    obtain ⟨after, result, hosted, -, stays⟩ := ih.1.exists_remove distinct i
    rw [result]
    exact ⟨hosted, fun j other => (stays j other).trans (ih.2 j other)⟩
  | record log _ ih => exact ⟨ih.1.withLog log, ih.2⟩

end Hosts

/-! ## Accesses that are not refused -/

/-- No access under a key is refused. What is stored need not be a text. -/
structure Grants (d : Disk) (key : Text) : Prop where
  reads : ∀ refusal, d.get (.str key) ≠ .error (.refused refusal)
  writes : ∀ text : String, (d.set (.str key) (.str text)).2 = none
  removes : (d.remove (.str key)).2 = none

theorem grants_of_results {key : Text} (got : (d.get (.str key)).toBool = true)
    (stored : ∀ text : String, (d.set (.str key) (.str text)).2 = none)
    (removed : (d.remove (.str key)).2 = none) : d.Grants key where
  reads refusal refused := by
    rw [refused] at got
    cases got
  writes := stored
  removes := removed

/-- A folder with room for the files of the keys grants the accesses. -/
theorem grants_of_room {plain : ι → String} (place : d.storage = .folder folder)
    (usable : Storage.isUsable folder = true) (room : d.files.Room folder plain) (i : ι) :
    d.Grants (plain i) where
  reads refusal refused := by
    obtain ⟨content, read⟩ := room.exists_read i
    cases content with
    | none =>
      rw [get_of_missing place usable (Storage.fileStem_str _) read] at refused
      cases refused
    | some content =>
      rw [get, place] at refused
      simp only [Storage.fileStem_str, usable, read, Bool.not_true, Bool.false_eq_true,
        if_false] at refused
      split at refused <;> cases refused
  writes text := by
    obtain ⟨made, opened, filled, moved, ensured, created, written, replaced, -⟩ :=
      room.exists_stages i text
    rw [set_eq_writeFile place usable (Storage.fileStem_str _), writeFile]
    simp only [ensured, created, written, replaced]
  removes := by
    obtain ⟨files, removed⟩ := room.exists_remove i
    rw [remove_of_removed place usable (Storage.fileStem_str _) removed]

/-- The folder, if there is one, is closed for the files of some keys. -/
def Closed (names : ι → Text) (d : Disk) : Prop :=
  ∀ (folder : Path) (plain : ι → String), d.storage = .folder folder →
    names = (fun i => .plain (plain i)) → d.files.Closed folder plain

theorem Grants.off_eq_nil {items : Mapping} {off : List StorageAccess} {writes : Nat} {key : Text}
    (grants : d.Grants key) (memory : d.storage = .memory items off writes) : off = [] := by
  have get : .get ∉ off := fun mem =>
    grants.reads _ (by rw [Disk.get, memory]; simp only [if_pos mem]; rfl)
  have set : .set ∉ off := fun mem => by
    have := grants.writes ""
    rw [set_memory_off memory mem] at this
    cases this
  have remove : .remove ∉ off := fun mem => by
    have := grants.removes
    rw [remove_memory_off memory mem] at this
    cases this
  cases off with
  | nil => rfl
  | cons access rest => cases access <;> simp_all

/-- In a folder nothing is stored under a text with surrogates. -/
theorem Grants.exists_plain {key : Text} (grants : d.Grants key)
    (place : d.storage = .folder folder) : ∃ plain : String, key = .plain plain := by
  cases key with
  | plain key => exact ⟨key, rfl⟩
  | rough key =>
    have done := grants.writes ""
    rw [set_of_rough place] at done
    cases done

/-- A disk on which no access under some keys is refused, and whose folder is closed. -/
theorem exists_hosts (grants : ∀ i, d.Grants (names i)) (closed : d.Closed names) (i : ι) :
    ∃ place, d.Hosts place names := by
  cases storage : d.storage with
  | memory items off writes =>
    obtain rfl := (grants i).off_eq_nil storage
    exact ⟨none, items, writes, storage⟩
  | folder folder =>
    choose plain names using fun i => (grants i).exists_plain storage
    obtain rfl := funext names
    obtain ⟨rooted, way, temporary, entry⟩ := closed folder plain storage rfl
    have usable : Storage.isUsable folder = true := by
      by_contra unusable
      have := (grants i).writes ""
      rw [set, storage] at this
      simp only [Storage.fileStem_str, if_neg unusable] at this
      cases this
    have stages (j : ι) := by
      have done := (grants j).writes ""
      rw [set_eq_writeFile storage usable (Storage.fileStem_str _)] at done
      exact stages_of_writeFile (Prod.ext rfl done)
    obtain ⟨-, made, -, -, -, -, -, ensured, -⟩ := stages i
    refine ⟨some folder, storage, usable, plain, rfl, rooted, way, made, ensured, fun j => ?_⟩
    obtain ⟨text, made', opened, filled, moved, log, -, ensured', created, written, replaced, -⟩ :=
      stages j
    cases ensured'.symm.trans ensured
    exact FileTree.takes_of_stored ensured created written replaced
      ((temporary j).finds rooted way FileTree.own_none.sole)
      ((entry j).finds rooted way FileTree.bare_none.direct)

end Disk

end EventTracker
