import EventTracker.Proofs.Storage.Folder
import Mathlib.Data.List.Induction
import Mathlib.Logic.Relation

/-!
# Trees with the same files

To store an entry, folders are made on the way to that of the storage, and then files of some
names are touched there. All other files stay, and so do the folders and links. So what was
read in a folder that stood is read there. A folder that was made is empty, if no `..` leads
to it and every node of the tree stands in a folder.
-/

namespace EventTracker.FileTree

variable {t t' t'' : FileTree} {folder place above p way : Path} {node : Option FileNode}
  {content : List UInt8} {names : List String} {name : String} {links : Nat} {through : Bool}

/-- The files of a tree stand in another, those of some names aside, and so do its folders and links.
The other may have more folders, but nothing else under other names. -/
structure SameFilesBut (names : List String) (t t' : FileTree) : Prop where
  ways : ∀ place node, node.leads = true → t.node? place = some node → t'.node? place = some node
  files : ∀ place name node, name ∉ names → node ≠ .folder →
    (t'.node? (place ++ [name]) = some node ↔ t.node? (place ++ [name]) = some node)

theorem SameFilesBut.refl (names : List String) (t : FileTree) : t.SameFilesBut names t :=
  ⟨fun _ _ _ stands => stands, fun _ _ _ _ _ => Iff.rfl⟩

theorem SameFilesBut.trans (first : t.SameFilesBut names t')
    (later : t'.SameFilesBut names t'') : t.SameFilesBut names t'' where
  ways place node leads stands := later.ways place node leads (first.ways place node leads stands)
  files place name node other file :=
    (later.files place name node other file).trans (first.files place name node other file)

theorem sameFilesBut_put_folder (names : List String) (free : t.node? place = none) :
    t.SameFilesBut names (t.put place .folder) where
  ways other node _ stands := by
    rw [node?_put, if_neg]
    · exact stands
    · rintro rfl
      rw [free] at stands
      cases stands
  files above name node _ file := by
    rw [node?_put]
    split
    case isTrue here =>
      rw [← here, free]
      exact ⟨fun same => absurd (Option.some.inj same).symm file, nofun⟩
    case isFalse => exact Iff.rfl

theorem append_singleton_ne {other : String} {place' : Path} (differs : other ≠ name) :
    place ++ [name] ≠ place' ++ [other] := fun same =>
  differs (by simpa using (List.append_inj' same rfl).2.symm)

/-! ## Trees whose nodes stand in folders -/

/-- The root and the folders of a tree. -/
def Stands (t : FileTree) (place : Path) : Prop := place = [] ∨ t.node? place = some .folder

/-- What stands anywhere but at the root stands in a folder. -/
def Rooted (t : FileTree) : Prop :=
  ∀ place name node, t.node? (place ++ [name]) = some node → t.Stands place

theorem rooted_empty : (⟨[]⟩ : FileTree).Rooted := nofun

namespace Rooted

variable (rooted : t.Rooted)

include rooted

theorem dropLast (stands : t.Stands place) : t.Stands place.dropLast := by
  rcases List.eq_nil_or_concat place with rfl | ⟨above, last, rfl⟩
  · exact stands
  · rw [List.concat_eq_append] at stands ⊢
    rw [List.dropLast_concat]
    rcases stands with root | folder
    · simp at root
    · exact rooted _ _ _ folder

/-- A folder that a way leads to stands, and all else that it leads to stands in a folder. -/
theorem of_leads {start : Path} (stands : t.Stands start)
    (leads : t.Leads through links start names (.ok (place, node))) :
    node = some .folder ∧ t.Stands place ∨
      node ≠ some .folder ∧ ∃ above name, place = above ++ [name] ∧ t.Stands above := by
  generalize ends : (Except.ok (place, node) : Found) = stop at leads
  induction leads with
  | here =>
    cases ends
    exact .inl ⟨rfl, stands⟩
  | up _ ih => exact ih (rooted.dropLast stands) ends
  | long => cases ends
  | down _ here _ ih => exact ih (.inr here) ends
  | @follow _ _ _ _ _ root _ _ _ _ _ ih =>
    cases root with
    | true => exact ih (.inl rfl) ends
    | false => exact ih stands ends
  | link =>
    cases ends
    exact .inr ⟨nofun, _, _, rfl, stands⟩
  | last _ _ bare =>
    cases ends
    exact .inr ⟨bare.ne_folder, _, _, rfl, stands⟩
  | blocked => cases ends

theorem stands_of_locate (found : t.locate p = .ok (place, some .folder)) : t.Stands place := by
  obtain ⟨-, _, -, leads⟩ := locateBy_eq_ok_iff.1 found
  exact ((rooted.of_leads (.inl rfl) leads).resolve_right fun other => other.1 rfl).2

/-- Where nothing stands, nothing stands below. -/
theorem node?_below (free : t.node? (above ++ [name]) = none) (below : String) :
    t.node? (above ++ [name] ++ [below]) = none := by
  rw [← Option.not_isSome_iff_eq_none, Option.isSome_iff_exists]
  rintro ⟨node, held⟩
  rcases rooted _ _ _ held with root | folder
  · simp at root
  · rw [free] at folder
    cases folder

theorem put_folder (stands : t.Stands above) (free : t.node? (above ++ [name]) = none) :
    (t.put (above ++ [name]) .folder).Rooted := by
  have kept {above' : Path} (stands : t.Stands above') :
      (t.put (above ++ [name]) .folder).Stands above' := by
    refine stands.imp id fun folder => ?_
    rw [node?_put, if_neg]
    · exact folder
    · rintro rfl
      rw [free] at folder
      cases folder
  intro above' file node found
  rw [node?_put] at found
  split at found
  case isTrue here =>
    obtain ⟨rfl, -⟩ := List.append_inj' here rfl
    exact kept stands
  case isFalse => exact kept (rooted _ _ _ found)

end Rooted

/-! ## Folders that are made on the way to one -/

/-- A folder is made on the way to another one, or at its end. -/
def MakesWay (folder : Path) (t t' : FileTree) : Prop :=
  ∃ way, way <+: folder ∧ t.makeFolder way = .ok t'

/-- Folders on the way to one have been made. -/
def WayMade (folder : Path) : FileTree → FileTree → Prop := Relation.ReflTransGen (MakesWay folder)

/-- A folder is made where nothing stood, in another one. -/
theorem exists_place_of_makeFolder (made : t.makeFolder p = .ok t') :
    ∃ place, t.locateEntry p = .ok (place, none) ∧ t.node? place = none ∧
      t' = t.put place .folder := by
  obtain ⟨place, found, rfl⟩ := exists_of_makeFolder made
  exact ⟨place, found, node?_of_bare found bare_none, rfl⟩

theorem MakesWay.isMissing (makes : t.MakesWay folder t')
    (fits : folder.text.utf8ByteSize ≤ maxPathLength) : t.IsMissing folder := by
  obtain ⟨way, ⟨rest, rfl⟩, made⟩ := makes
  obtain ⟨place, found, -⟩ := exists_of_makeFolder made
  have missing : t.IsMissing way := .inl ⟨place, locate_of_entry found bare_none.direct⟩
  cases rest with
  | nil => rwa [List.append_nil]
  | cons next more => exact .inr (missing.locate_append fits)

theorem IsMissing.not_stands (missing : t.IsMissing folder) :
    t.locate folder ≠ .ok (place, some .folder) := by
  intro stands
  rcases missing with ⟨place', nothing⟩ | nothing <;> cases stands.symm.trans nothing

theorem fits_of_locate {located : Path × Option FileNode}
    (found : t.locateBy through p = .ok located) : p.text.utf8ByteSize ≤ maxPathLength :=
  (locateBy_eq_ok_iff.1 found).1

/-- No folder is made on the way to one that stands. -/
theorem WayMade.eq_of_stands (made : t.WayMade folder t')
    (stands : t.locate folder = .ok (place, some .folder)) : t' = t := by
  rcases Relation.ReflTransGen.cases_head made with rfl | ⟨first, makes, -⟩
  · rfl
  · exact absurd stands (makes.isMissing (fits_of_locate stands)).not_stands

theorem WayMade.sameFilesBut (made : t.WayMade folder t') (names : List String) :
    t.SameFilesBut names t' := by
  induction made with
  | refl => exact .refl names _
  | tail _ makes ih =>
    obtain ⟨way, -, made⟩ := makes
    obtain ⟨place, -, free, rfl⟩ := exists_place_of_makeFolder made
    exact ih.trans (sameFilesBut_put_folder names free)

theorem MakesWay.rooted (makes : t.MakesWay folder t') (rooted : t.Rooted) : t'.Rooted := by
  obtain ⟨way, -, made⟩ := makes
  obtain ⟨place, found, free, rfl⟩ := exists_place_of_makeFolder made
  obtain ⟨-, _, -, leads⟩ := locateBy_eq_ok_iff.1 found
  obtain ⟨folder, -⟩ | ⟨-, above, name, rfl, stands⟩ := rooted.of_leads (.inl rfl) leads
  · cases folder
  · exact rooted.put_folder stands free

theorem WayMade.rooted (made : t.WayMade folder t') (rooted : t.Rooted) : t'.Rooted := by
  induction made with
  | refl => exact rooted
  | tail _ makes ih => exact makes.rooted ih

/-- Once a folder is made where a way ended at nothing, the way leads to it. -/
theorem Leads.of_put_folder {start : Path} (free : t.node? place = none)
    (leads : t.Leads false links start names (.ok (place, none))) :
    (t.put place .folder).Leads true links start names (.ok (place, some .folder)) := by
  have kept {other : Path} {node : FileNode} (held : t.node? other = some node) :
      (t.put place .folder).node? other = some node := by
    rw [node?_put, if_neg, held]
    rintro rfl
    rw [free] at held
    cases held
  generalize ends : (Except.ok (place, none) : Found) = stop at leads
  induction leads with
  | here => cases ends
  | up _ ih => exact .up (ih ends)
  | long => cases ends
  | down is stands _ ih => exact .down is (kept stands) (ih ends)
  | follow is stands _ _ ih => exact .follow is (kept stands) (.inr rfl) (ih ends)
  | link => cases ends
  | last is =>
    cases ends
    exact .down is (by rw [node?_put, if_pos rfl]) (.here _)
  | blocked => cases ends

/-- Where the way to a folder leads once a folder on it is made: it is there and nothing is in it, it
is missing, or one of its names is too long. -/
theorem MakesWay.exists_leads (makes : t.MakesWay folder t') (rooted : t.Rooted)
    (down : ".." ∉ folder) : ∃ hops ≤ maxLinks, ∃ found, t'.Leads true hops [] folder found ∧
      ((∃ place, found = .ok (place, some .folder) ∧ ∀ name, t'.node? (place ++ [name]) = none) ∨
        ((∃ place, found = .ok (place, none)) ∨ found = .error .missing) ∨
        found = .error .nameTooLong ∧ ∃ name ∈ folder, maxNameLength < name.utf8ByteSize) := by
  obtain ⟨way, ⟨rest, rfl⟩, made⟩ := makes
  obtain ⟨place, found, free, rfl⟩ := exists_place_of_makeFolder made
  obtain ⟨-, hops, enough, leads⟩ := locateBy_eq_ok_iff.1 found
  obtain ⟨folder, -⟩ | ⟨-, above, name, rfl, -⟩ := rooted.of_leads (.inl rfl) leads
  · cases folder
  have empty (name' : String) :
      (t.put (above ++ [name]) .folder).node? (above ++ [name] ++ [name']) = none := by
    rw [node?_put, if_neg (by simp), rooted.node?_below free]
  have first := leads.of_put_folder free
  cases rest with
  | nil =>
    rw [List.append_nil]
    exact ⟨hops, enough, _, first, .inl ⟨_, rfl, empty⟩⟩
  | cons next more =>
    by_cases long : maxNameLength < next.utf8ByteSize
    · have up : next ≠ ".." := fun up => down (up ▸ by simp)
      exact ⟨hops, enough, _, first.append (.long up long), .inr (.inr ⟨rfl, next, by simp, long⟩)⟩
    have is : IsName next := ⟨fun up => down (up ▸ by simp), Nat.not_lt.1 long⟩
    cases more with
    | nil => exact ⟨hops, enough, _, first.append (.last is (empty next) bare_none),
        .inr (.inl (.inl ⟨_, rfl⟩))⟩
    | cons later more => exact ⟨hops, enough, _,
        first.append (.blocked is (empty next) bare_none (List.cons_ne_nil _ _)),
        .inr (.inl (.inr rfl))⟩

/-- If no `..` leads to a folder, it is empty once it is made. -/
theorem WayMade.node?_eq_none (made : t.WayMade folder t') (rooted : t.Rooted)
    (down : ".." ∉ folder) (absent : t.isFolder folder = false)
    (stands : t'.locate folder = .ok (place, some .folder)) (name : String) :
    t'.node? (place ++ [name]) = none := by
  rcases Relation.ReflTransGen.cases_tail made with rfl | ⟨before, first, makes⟩
  · rw [isFolder_iff.2 ⟨place, stands⟩] at absent
    cases absent
  · obtain ⟨hops, -, found, leads, ends⟩ := makes.exists_leads (WayMade.rooted first rooted) down
    obtain ⟨-, hops', -, leads'⟩ := locateBy_eq_ok_iff.1 stands
    cases leads.unique leads'
    obtain ⟨place', same, empty⟩ | (⟨place', nothing⟩ | nothing) | ⟨nothing, -⟩ := ends
    · cases same
      exact empty name
    · cases nothing
    · cases nothing
    · cases nothing

/-! ## Files that are touched in a folder -/

/-- What is found under a name stands in the folder, unless a link there was followed. -/
theorem exists_stands_of_locateBy (down : name ≠ "..")
    (found : t.locateBy through (folder ++ [name]) = .ok (place, node)) :
    IsName name ∧ (Path.text (folder ++ [name])).utf8ByteSize ≤ maxPathLength ∧
      ∃ above, t.locate folder = .ok (above, some .folder) ∧
        (Direct (t.node? (above ++ [name])) ∨ through = false →
          place = above ++ [name] ∧ node = t.node? place) := by
  obtain ⟨is, fits, hops, enough, above, _, leads, -, ends⟩ := exists_folder_of_locateBy down found
  have within := Nat.le_trans (Path.size_text_le folder name) fits
  exact ⟨is, fits, above, locateBy_eq_ok_iff.2 ⟨within, hops, enough, leads⟩, ends⟩

/-- If a folder stands, what is in it under a name is so. -/
def Shows (folder : Path) (name : String) (fine : Option FileNode → Prop) (t : FileTree) : Prop :=
  ∀ place, t.locate folder = .ok (place, some .folder) → fine (t.node? (place ++ [name]))

/-- It is so, too, if the folder stands once folders on the way to it are made. -/
def Finds (folder : Path) (name : String) (fine : Option FileNode → Prop) (t : FileTree) : Prop :=
  ∀ made, t.WayMade folder made → made.Shows folder name fine

theorem Finds.shows {fine : Option FileNode → Prop} (finds : t.Finds folder name fine) :
    t.Shows folder name fine :=
  finds t .refl

theorem shows_of_locateEntry {fine : Option FileNode → Prop} (down : name ≠ "..")
    (found : t.locateEntry (folder ++ [name]) = .ok (place, node)) (is : fine node) :
    t.Shows folder name fine := by
  intro above stands
  obtain ⟨-, -, above', stands', ends⟩ := exists_stands_of_locateBy down found
  cases stands.symm.trans stands'
  obtain ⟨rfl, rfl⟩ := ends (.inr rfl)
  exact is

theorem IsMissing.shows {fine : Option FileNode → Prop} (missing : t.IsMissing folder) :
    t.Shows folder name fine :=
  fun _ stands => absurd stands missing.not_stands

/-- If a folder stands or no `..` leads to it, nothing comes to light in it when it is made. -/
theorem Shows.finds {fine : Option FileNode → Prop} (shows : t.Shows folder name fine)
    (rooted : t.Rooted) (way : t.isFolder folder = true ∨ ".." ∉ folder) (nothing : fine none) :
    t.Finds folder name fine := by
  intro made steps place stands
  cases stood : t.isFolder folder with
  | true =>
    obtain ⟨place', stood⟩ := isFolder_iff.1 stood
    cases steps.eq_of_stands stood
    exact shows place stands
  | false =>
    have down := way.resolve_left fun stands => absurd (stood.symm.trans stands) (by decide)
    rw [steps.node?_eq_none rooted down stood stands]
    exact nothing

/-- Nothing is touched but files of some names in a folder. -/
structure Touches (place : Path) (names : List String) (t t' : FileTree) : Prop where
  ways : t.SameWays t'
  others : ∀ other, (∀ name ∈ names, other ≠ place ++ [name]) → t'.node? other = t.node? other

theorem Touches.trans (first : Touches place names t t') (later : Touches place names t' t'') :
    Touches place names t t'' :=
  ⟨first.ways.trans later.ways, fun other apart =>
    (later.others other apart).trans (first.others other apart)⟩

theorem Touches.mono {more : List String} (touches : Touches place names t t')
    (subset : names ⊆ more) : Touches place more t t' :=
  ⟨touches.ways, fun other apart => touches.others other fun name mem => apart name (subset mem)⟩

theorem Touches.node?_eq (touches : Touches place names t t') (other : name ∉ names) :
    t'.node? (place ++ [name]) = t.node? (place ++ [name]) :=
  touches.others _ fun _ mem => append_singleton_ne (ne_of_mem_of_not_mem mem other)

theorem touches_put (bare : Bare (t.node? (place ++ [name]))) (content : List UInt8) :
    Touches place [name] t (t.put (place ++ [name]) (.file content)) :=
  ⟨sameWays_put bare content, fun other apart => by
    rw [node?_put, if_neg (apart name (List.mem_singleton_self name)).symm]⟩

theorem touches_erase (bare : Bare (t.node? (place ++ [name]))) :
    Touches place [name] t (t.erase (place ++ [name])) :=
  ⟨sameWays_erase bare, fun _ apart =>
    node?_erase_of_ne t (apart name (List.mem_singleton_self name)).symm⟩

theorem Touches.rooted (touches : Touches place names t t') (rooted : t.Rooted)
    (stands : t.Stands place) : t'.Rooted := by
  have kept {above : Path} (stands : t.Stands above) : t'.Stands above :=
    stands.imp id touches.ways.folder
  intro above name node held
  by_cases here : ∃ name' ∈ names, above ++ [name] = place ++ [name']
  · obtain ⟨name', -, same⟩ := here
    obtain ⟨rfl, -⟩ := List.append_inj' same rfl
    exact kept stands
  · refine kept (rooted above name node ?_)
    rw [← touches.others _ fun name' mem same => here ⟨name', mem, same⟩]
    exact held

theorem Touches.sameFilesBut (touches : Touches place names t t') : t.SameFilesBut names t' where
  ways other node leads := (touches.ways.ways other node leads).2
  files above name node other _ := by
    rw [touches.others _ fun _ mem => append_singleton_ne (ne_of_mem_of_not_mem mem other)]

/-- Folders on the way to one were made, and then, if it stands, files of some names were touched
in it. -/
def Worked (folder : Path) (names : List String) (t t' : FileTree) : Prop :=
  ∃ made, t.WayMade folder made ∧ (t' = made ∨
    ∃ place, made.locate folder = .ok (place, some .folder) ∧ Touches place names made t')

namespace Worked

theorem refl (folder : Path) (names : List String) (t : FileTree) : t.Worked folder names t :=
  ⟨t, .refl, .inl rfl⟩

variable (worked : t.Worked folder names t')

include worked

theorem mono {more : List String} (subset : names ⊆ more) : t.Worked folder more t' := by
  obtain ⟨made, way, same | ⟨place, stands, touches⟩⟩ := worked
  · exact ⟨made, way, .inl same⟩
  · exact ⟨made, way, .inr ⟨place, stands, touches.mono subset⟩⟩

theorem make (makes : t'.MakesWay folder t'') : t.Worked folder names t'' := by
  obtain ⟨made, way, rfl | ⟨place, stands, touches⟩⟩ := worked
  · exact ⟨t'', way.tail makes, .inl rfl⟩
  · have stands := touches.ways.locate_folder stands
    exact absurd stands (makes.isMissing (fits_of_locate stands)).not_stands

theorem touch (stands : t'.locate folder = .ok (place, some .folder))
    (touches : Touches place names t' t'') : t.Worked folder names t'' := by
  obtain ⟨made, way, rfl | ⟨place', stands', touches'⟩⟩ := worked
  · exact ⟨t', way, .inr ⟨place, stands, touches⟩⟩
  · cases (touches'.ways.locate_folder stands').symm.trans stands
    exact ⟨made, way, .inr ⟨place, stands', touches'.trans touches⟩⟩

/-- What is in the folder is still so, if files that are touched stay so. -/
theorem finds {fine : Option FileNode → Prop} (finds : t.Finds folder name fine)
    (kept : ∀ {t t' : FileTree} {place : Path}, t.SameWays t' → fine (t.node? place) →
      fine (t'.node? place))
    (stands : t'.locate folder = .ok (place, some .folder)) :
    fine (t'.node? (place ++ [name])) := by
  obtain ⟨made, way, rfl | ⟨place', stands', touches⟩⟩ := worked
  · exact finds t' way place stands
  · cases (touches.ways.locate_folder stands').symm.trans stands
    exact kept touches.ways (finds made way place stands')

theorem direct (direct : t.Finds folder name Direct)
    (stands : t'.locate folder = .ok (place, some .folder)) :
    Direct (t'.node? (place ++ [name])) :=
  worked.finds direct SameWays.direct stands

theorem sole (sole : t.Finds folder name Sole)
    (stands : t'.locate folder = .ok (place, some .folder)) :
    Sole (t'.node? (place ++ [name])) :=
  worked.finds sole SameWays.sole stands

theorem rooted (rooted : t.Rooted) : t'.Rooted := by
  obtain ⟨made, way, rfl | ⟨place, stands, touches⟩⟩ := worked
  · exact way.rooted rooted
  · have rooted := way.rooted rooted
    exact touches.rooted rooted (rooted.stands_of_locate stands)

theorem sameFilesBut : t.SameFilesBut names t' := by
  obtain ⟨made, way, rfl | ⟨place, stands, touches⟩⟩ := worked
  · exact way.sameFilesBut names
  · exact (way.sameFilesBut names).trans touches.sameFilesBut

/-- In a folder that stood, what stands under other names stays. -/
theorem of_stands (stands : t.locate folder = .ok (place, some .folder)) :
    t'.locate folder = .ok (place, some .folder) ∧
      ∀ name ∉ names, t'.node? (place ++ [name]) = t.node? (place ++ [name]) := by
  obtain ⟨made, way, rfl | ⟨place', stands', touches⟩⟩ := worked
  · cases way.eq_of_stands stands
    exact ⟨stands, fun _ _ => rfl⟩
  · cases way.eq_of_stands stands
    cases stands.symm.trans stands'
    exact ⟨touches.ways.locate_folder stands, fun name other => touches.node?_eq other⟩

/-- A folder that did not stand is empty, but for the files that were touched, if no `..` leads
to it. -/
theorem node?_eq_none (rooted : t.Rooted) (down : ".." ∉ folder)
    (absent : t.isFolder folder = false)
    (stands : t'.locate folder = .ok (place, some .folder)) (other : name ∉ names) :
    t'.node? (place ++ [name]) = none := by
  obtain ⟨made, way, rfl | ⟨place', stands', touches⟩⟩ := worked
  · exact way.node?_eq_none rooted down absent stands name
  · cases (touches.ways.locate_folder stands').symm.trans stands
    rw [touches.node?_eq other, way.node?_eq_none rooted down absent stands' name]

end Worked

/-! ## What is read in a folder -/

/-- A file that is read under a name stands in the folder, unless a link does. -/
theorem exists_of_read (down : name ≠ "..")
    (read : t.read (folder ++ [name]) = .ok (some content)) :
    IsName name ∧ (Path.text (folder ++ [name])).utf8ByteSize ≤ maxPathLength ∧
      ∃ place, t.locate folder = .ok (place, some .folder) ∧
        (Direct (t.node? (place ++ [name])) → ∃ stands,
          t.node? (place ++ [name]) = some stands ∧ stands.content? = some content) := by
  obtain ⟨place', stands, found, holds⟩ := read_eq_some_iff.1 read
  obtain ⟨is, fits, above, located, ends⟩ := exists_stands_of_locateBy down found
  refine ⟨is, fits, above, located, fun direct => ?_⟩
  obtain ⟨rfl, held⟩ := ends (.inl direct)
  exact ⟨stands, held.symm, holds⟩

theorem read_of_node? (found : t.locate folder = .ok (place, some .folder)) (is : IsName name)
    (fits : (Path.text (folder ++ [name])).utf8ByteSize ≤ maxPathLength)
    (direct : Direct (t.node? (place ++ [name]))) {stands : FileNode}
    (held : t.node? (place ++ [name]) = some stands) (holds : stands.content? = some content) :
    t.read (folder ++ [name]) = .ok (some content) :=
  read_eq_some_iff.2 ⟨_, stands, held ▸ locate_in_folder found is fits (.inl direct), holds⟩

namespace Worked

variable (worked : t.Worked folder names t') (direct : t.Finds folder name Direct)
  (down : name ≠ "..") (other : name ∉ names)

include worked direct down other

/-- A file that was read is read, unless it has one of the names. -/
theorem read (read : t.read (folder ++ [name]) = .ok (some content)) :
    t'.read (folder ++ [name]) = .ok (some content) := by
  obtain ⟨is, fits, place, stands, held⟩ := exists_of_read down read
  obtain ⟨stands', same⟩ := worked.of_stands stands
  obtain ⟨node, held, holds⟩ := held (direct.shows place stands)
  exact read_of_node? stands' is fits (worked.direct direct stands') ((same name other).trans held)
    holds

/-- A file that is read was read before, if its folder was there or no `..` leads to it. -/
theorem read_before (rooted : t.Rooted) (way : t.isFolder folder = true ∨ ".." ∉ folder)
    (read : t'.read (folder ++ [name]) = .ok (some content)) :
    t.read (folder ++ [name]) = .ok (some content) := by
  obtain ⟨is, fits, place, stands', held⟩ := exists_of_read down read
  obtain ⟨node, held, holds⟩ := held (worked.direct direct stands')
  cases stood : t.isFolder folder with
  | true =>
    obtain ⟨place', stands⟩ := isFolder_iff.1 stood
    obtain ⟨stands'', same⟩ := worked.of_stands stands
    cases stands''.symm.trans stands'
    exact read_of_node? stands is fits (direct.shows place stands)
      ((same name other).symm.trans held) holds
  | false =>
    have down := way.resolve_left fun stands => absurd (stood.symm.trans stands) (by decide)
    rw [worked.node?_eq_none rooted down stood stands' other] at held
    cases held

end Worked

/-! ## Trees without links -/

/-- A tree in which every file has one name, and no link stands. -/
def Linkless (t : FileTree) : Prop := ∀ place, Sole (t.node? place)

theorem Linkless.of_wayMade (linkless : t.Linkless) (made : t.WayMade folder t') : t'.Linkless := by
  induction made with
  | refl => exact linkless
  | tail _ makes ih =>
    obtain ⟨way, -, made⟩ := makes
    obtain ⟨place, -, -, rfl⟩ := exists_place_of_makeFolder made
    intro other
    rw [node?_put]
    split
    · exact ⟨nofun, nofun⟩
    · exact ih other

/-- What stands at a place is listed. -/
theorem mem_of_node? {stands : FileNode} (held : t.node? place = some stands) :
    (place, stands) ∈ t.nodes := by
  obtain ⟨front, here, back, split, same⟩ := Entries.exists_eq_append_of_find? held
  obtain rfl := of_decide_eq_true same
  rw [split]
  exact List.mem_append_right _ List.mem_cons_self

theorem linkless_of_nodes (sole : ∀ entry ∈ t.nodes, Sole (some entry.2)) : t.Linkless := by
  intro place
  cases held : t.node? place with
  | none => exact own_none.sole
  | some stands => exact sole _ (mem_of_node? held)

theorem Linkless.finds (linkless : t.Linkless) (folder : Path) (name : String) :
    t.Finds folder name Sole :=
  fun _ made _ _ => linkless.of_wayMade made _

theorem Finds.direct (finds : t.Finds folder name Sole) : t.Finds folder name Direct :=
  fun t' made place stands => (finds t' made place stands).1

end EventTracker.FileTree
