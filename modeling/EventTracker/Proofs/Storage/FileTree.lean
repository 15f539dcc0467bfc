import EventTracker.Proofs.Storage.Ways
import EventTracker.Proofs.Value.Entries

/-!
# Files after they were written, moved and removed

A path leads to the same place as long as the folders and links are the same, and files are
written, moved and removed without touching these. So what was written under one name and
moved to another is read under the other name, after a removal nothing is read, and a path
that a file could be written to can be written to again.
-/

namespace EventTracker.FileTree

variable {t t' : FileTree} {through : Bool} {p place : Path} {node : Option FileNode}
  {content : List UInt8}

theorem node?_put (t : FileTree) (place other : Path) (node : FileNode) :
    (t.put place node).node? other = if place = other then some node else t.node? other := by
  simp only [node?, put, Entries.find?_put keyEquality_decide, decide_eq_true_eq]

theorem node?_erase_self (t : FileTree) (place : Path) : (t.erase place).node? place = none := by
  refine Entries.find?_of_absent (Entries.has_eq_false_iff.2 fun entry mem => ?_)
  simpa using (List.mem_filter.1 mem).2

theorem node?_erase_of_ne (t : FileTree) {place other : Path} (ne : place ≠ other) :
    (t.erase place).node? other = t.node? other := by
  have respects : ∀ a b : Path, decide (a = b) = true →
      (!decide (a = place)) = !decide (b = place) := by
    intro a b same
    rw [decide_eq_true_eq] at same
    rw [same]
  exact Entries.find?_filter_of_kept respects (by simpa using ne.symm) t.nodes

/-- What has been moved stands at its new place, nothing at the old one, and all else as before. -/
theorem node?_move (t : FileTree) {origin place other : Path} (moved : FileNode)
    (apart : place ≠ other) (apart' : origin ≠ other) :
    ((t.erase origin).put place moved).node? other = t.node? other := by
  rw [node?_put, if_neg apart, node?_erase_of_ne t apart']

/-! ## Files of one name -/

/-- Nothing, or a file that has no other name. -/
def Own (node : Option FileNode) : Prop :=
  ∀ stands, node = some stands → ∃ content, stands = .file content

/-- Nothing, a folder, or a file that has no other name. -/
def Sole (node : Option FileNode) : Prop :=
  Direct node ∧ ∀ number content, node ≠ some (.shared number content)

theorem Sole.own (sole : Sole node) (other : node ≠ some .folder) : Own node := by
  rintro stands rfl
  cases stands with
  | folder => exact absurd rfl other
  | link rooted target => exact absurd rfl (sole.1 rooted target)
  | shared number content => exact absurd rfl (sole.2 number content)
  | file content => exact ⟨content, rfl⟩

theorem own_none : Own none := fun _ stands => by cases stands

theorem own_file (content : List UInt8) : Own (some (.file content)) := fun _ same =>
  ⟨content, (Option.some.inj same).symm⟩

theorem Own.bare (own : Own node) : Bare node := by
  intro stands held
  obtain ⟨content, rfl⟩ := own stands held
  rfl

theorem Own.sole (own : Own node) : Sole node :=
  ⟨own.bare.direct, fun number content held => by
    obtain ⟨content', same⟩ := own _ held
    cases same⟩

theorem Own.cases (own : Own node) : node = none ∨ ∃ content, node = some (.file content) := by
  obtain _ | stands := node
  · exact .inl rfl
  · obtain ⟨content, rfl⟩ := own stands rfl
    exact .inr ⟨content, rfl⟩

/-! ## The folders and links of a tree -/

/-- Trees with the same folders and links, in which the files that have one name still have one. -/
structure SameWays (t t' : FileTree) : Prop where
  ways : ∀ place node, node.leads = true →
    (t'.node? place = some node ↔ t.node? place = some node)
  own : ∀ place, Own (t.node? place) → Own (t'.node? place)

namespace SameWays

theorem refl (t : FileTree) : t.SameWays t := ⟨fun _ _ _ => Iff.rfl, fun _ => id⟩

theorem trans {t'' : FileTree} (first : t.SameWays t') (later : t'.SameWays t'') :
    t.SameWays t'' :=
  ⟨fun place node leads => (later.ways place node leads).trans (first.ways place node leads),
    fun place => later.own place ∘ first.own place⟩

variable (same : t.SameWays t')

include same

theorem bare (bare : Bare (t.node? place)) : Bare (t'.node? place) := by
  intro stands held
  cases leads : stands.leads with
  | false => rfl
  | true => exact leads ▸ bare stands ((same.ways place stands leads).1 held)

theorem folder (stands : t.node? place = some .folder) : t'.node? place = some .folder :=
  (same.ways place .folder rfl).2 stands

theorem direct (direct : Direct (t.node? place)) : Direct (t'.node? place) :=
  fun rooted target held => direct rooted target ((same.ways place _ rfl).1 held)

theorem sole (sole : Sole (t.node? place)) : Sole (t'.node? place) := by
  by_cases stands : t.node? place = some .folder
  · rw [same.folder stands]
    exact ⟨nofun, nofun⟩
  · exact (same.own place (sole.own stands)).sole

/-- A way leads to the same place: to a folder or a link, or to what stands there now. -/
theorem leads {links : Nat} {folder : Path} {names : List String}
    (leads : t.Leads through links folder names (.ok (place, node))) :
    (Bare node → node = t.node? place ∧
      t'.Leads through links folder names (.ok (place, t'.node? place))) ∧
    (¬ Bare node → t'.Leads through links folder names (.ok (place, node))) := by
  generalize ends : (Except.ok (place, node) : Found) = stop at leads
  induction leads with
  | here folder =>
    cases ends
    exact ⟨fun bare => absurd rfl bare.ne_folder, fun _ => .here _⟩
  | up _ ih => exact ⟨fun bare => ⟨((ih ends).1 bare).1, .up ((ih ends).1 bare).2⟩,
      fun leads => .up ((ih ends).2 leads)⟩
  | long => cases ends
  | down is stands _ ih =>
    exact ⟨fun bare => ⟨((ih ends).1 bare).1, .down is (same.folder stands) ((ih ends).1 bare).2⟩,
      fun leads => .down is (same.folder stands) ((ih ends).2 leads)⟩
  | follow is stands on _ ih =>
    have stands := (same.ways _ _ rfl).2 stands
    exact ⟨fun bare => ⟨((ih ends).1 bare).1, .follow is stands on ((ih ends).1 bare).2⟩,
      fun leads => .follow is stands on ((ih ends).2 leads)⟩
  | link is stands entry =>
    cases ends
    exact ⟨fun bare => absurd rfl (bare.direct _ _),
      fun _ => .link is ((same.ways _ _ rfl).2 stands) entry⟩
  | last is stands bare =>
    cases ends
    exact ⟨fun _ => ⟨stands.symm, .last is rfl (same.bare (stands ▸ bare))⟩,
      fun leads => absurd bare leads⟩
  | blocked => cases ends

/-- A path to no folder and no link leads to what stands at the same place. -/
theorem locate_bare (found : t.locateBy through p = .ok (place, node)) (bare : Bare node) :
    t.node? place = node ∧ t'.locateBy through p = .ok (place, t'.node? place) := by
  obtain ⟨fits, hops, enough, leads⟩ := locateBy_eq_ok_iff.1 found
  obtain ⟨stands, leads⟩ := (same.leads leads).1 bare
  exact ⟨stands.symm, locateBy_eq_ok_iff.2 ⟨fits, hops, enough, leads⟩⟩

theorem locate_folder (found : t.locate p = .ok (place, some .folder)) :
    t'.locate p = .ok (place, some .folder) := by
  obtain ⟨fits, hops, enough, leads⟩ := locateBy_eq_ok_iff.1 found
  have leads := (same.leads leads).2 fun bare => bare.ne_folder rfl
  exact locateBy_eq_ok_iff.2 ⟨fits, hops, enough, leads⟩

end SameWays

theorem sameWays_put (bare : Bare (t.node? place)) (content : List UInt8) :
    t.SameWays (t.put place (.file content)) where
  ways other node leads := by
    rw [node?_put]
    split
    case isTrue here =>
      subst here
      refine ⟨fun held => ?_, fun held => absurd (bare node held) (by rw [leads]; decide)⟩
      cases held
      cases leads
    case isFalse => exact Iff.rfl
  own other own := by
    rw [node?_put]
    split
    · exact own_file content
    · exact own

theorem sameWays_erase (bare : Bare (t.node? place)) : t.SameWays (t.erase place) where
  ways other node leads := by
    by_cases here : place = other
    · subst here
      rw [node?_erase_self]
      exact ⟨nofun, fun held => absurd (bare node held) (by rw [leads]; decide)⟩
    · rw [node?_erase_of_ne t here]
  own other own := by
    by_cases here : place = other
    · subst here
      rw [node?_erase_self]
      exact own_none
    · rwa [node?_erase_of_ne t here]

/-! ## Paths to folders -/

theorem node?_of_bare (found : t.locateBy through p = .ok (place, node)) (bare : Bare node) :
    t.node? place = node :=
  ((SameWays.refl t).locate_bare found bare).1

/-- A path that goes on to no folder leads to a file, or to nothing. -/
theorem bare_of_locate (found : t.locate p = .ok (place, node)) (other : node ≠ some .folder) :
    Bare node := by
  obtain ⟨-, hops, -, leads⟩ := locateBy_eq_ok_iff.1 found
  exact bare_of_direct leads.direct other

/-- What stands at the end of a path is found by going on, too, unless it is a link. -/
theorem locate_of_entry (found : t.locateEntry p = .ok (place, node)) (direct : Direct node) :
    t.locate p = .ok (place, node) := by
  obtain ⟨fits, hops, enough, leads⟩ := locateBy_eq_ok_iff.1 found
  refine locateBy_eq_ok_iff.2 ⟨fits, hops, enough, leads.goes_on fun place node same => ?_⟩
  cases same
  exact direct

theorem locate_of_entry_missing (missing : t.locateEntry p = .error .missing) :
    t.locate p = .error .missing := by
  obtain ⟨fits, hops, enough, leads⟩ := locateBy_eq_missing_iff.1 missing
  exact locateBy_eq_missing_iff.2 ⟨fits, hops, enough, leads.goes_on nofun⟩

theorem exists_entry {stands : FileNode} (found : t.locate p = .ok (place, some stands)) :
    ∃ place' stands', t.locateEntry p = .ok (place', some stands') := by
  obtain ⟨fits, hops, enough, leads⟩ := locateBy_eq_ok_iff.1 found
  obtain ⟨hops', fewer, place', stands', leads⟩ := leads.exists_entry
  exact ⟨place', stands', locateBy_eq_ok_iff.2 ⟨fits, hops', Nat.le_trans fewer enough, leads⟩⟩

theorem isFolder_iff : t.isFolder p = true ↔ ∃ place, t.locate p = .ok (place, some .folder) := by
  unfold isFolder
  split
  case h_1 place found => simp [found]
  case h_2 others => simpa using others

theorem isFolder_of_sameWays (same : t.SameWays t') (stands : t.isFolder p = true) :
    t'.isFolder p = true := by
  obtain ⟨place, found⟩ := isFolder_iff.1 stands
  exact isFolder_iff.2 ⟨place, same.locate_folder found⟩

/-- Where something stands no folder is made. -/
theorem makeFolder_of_stands {stands : FileNode} (found : t.locate p = .ok (place, some stands)) :
    t.makeFolder p = .error .exists := by
  obtain ⟨place', stands', found⟩ := exists_entry found
  rw [makeFolder, found]

/-- Nothing is to be made of a folder that stands. -/
theorem ensureFolder_of_isFolder (stands : t.isFolder p = true) : t.ensureFolder p = (t, none) := by
  obtain ⟨place, found⟩ := isFolder_iff.1 stands
  have made := makeFolder_of_stands found
  rw [← List.reverse_reverse p] at made stands
  rw [ensureFolder]
  cases above : p.reverse with
  | nil => rfl
  | cons name above =>
    rw [above] at made stands
    rw [ensureFolderReversed]
    simp only [made, stands, if_true]

/-! ## Operations -/

theorem exists_of_makeFolder (made : t.makeFolder p = .ok t') :
    ∃ place, t.locateEntry p = .ok (place, none) ∧ t' = t.put place .folder := by
  unfold makeFolder at made
  split at made
  case h_1 => cases made
  case h_2 => cases made
  case h_3 place found => exact ⟨place, found, (Except.ok.inj made).symm⟩

theorem read_eq_some_iff : t.read p = .ok (some content) ↔
    ∃ place stands, t.locate p = .ok (place, some stands) ∧ stands.content? = some content := by
  unfold read
  split
  case h_1 missing => simp [missing]
  case h_2 failure failed => simp [failed]
  case h_3 place nothing => simp [nothing]
  case h_4 place stands found =>
    rw [found]
    cases held : stands.content? with
    | none => simp [held]
    | some content' =>
      refine ⟨fun same => ⟨place, stands, rfl, held.trans ?_⟩, fun ⟨_, _, same, held'⟩ => ?_⟩
      · exact congrArg some (Option.some.inj (Except.ok.inj same))
      · cases same
        exact congrArg Except.ok (held.symm.trans held')

/-- Filling a file touches neither folders nor links. -/
theorem refilled_eq_iff {number : Nat} {content : List UInt8} {old node : FileNode}
    (leads : node.leads = true) : old.refilled number content = node ↔ old = node := by
  cases old with
  | shared other content' =>
    exact ⟨fun same => absurd (same ▸ leads) nofun, fun same => absurd (same ▸ leads) nofun⟩
  | _ => exact Iff.rfl

theorem node?_refilled (t : FileTree) (number : Nat) (content : List UInt8) (place : Path) :
    (⟨t.nodes.map fun (other, node) => (other, node.refilled number content)⟩ :
      FileTree).node? place = (t.node? place).map (·.refilled number content) :=
  Entries.find?_map_values _ _ _

/-- What is filled is a file with all its names, or a file of one name. -/
theorem fill_cases (t : FileTree) (place : Path) (content : List UInt8) (node : Option FileNode) :
    (∃ number old, node = some (.shared number old) ∧ ∀ other,
      (t.fill place content node).node? other = (t.node? other).map (·.refilled number content)) ∨
    t.fill place content node = t.put place (.file content) := by
  obtain _ | stands := node
  · exact .inr rfl
  · cases stands with
    | shared number old => exact .inl ⟨number, old, rfl, t.node?_refilled number content⟩
    | _ => exact .inr rfl

/-- Filling a file leaves the folders and links, and what stands there is filled. -/
theorem of_fill (stands : t.node? place = node) (bare : Bare node) (content : List UInt8) :
    t.SameWays (t.fill place content node) ∧
      ∃ filled, (t.fill place content node).node? place = some filled ∧
        filled.content? = some content := by
  rcases t.fill_cases place content node with ⟨number, old, rfl, filled⟩ | put
  · refine ⟨⟨fun other node leads => ?_, fun other own => ?_⟩, .shared number content, ?_, rfl⟩
    · simp only [filled, Option.map_eq_some_iff, refilled_eq_iff leads, exists_eq_right]
    · rw [filled]
      rcases own.cases with nothing | ⟨content', held⟩
      · rw [nothing]
        exact own_none
      · rw [held]
        exact own_file content'
    · rw [filled, stands, Option.map_some, FileNode.refilled, if_pos rfl]
  · rw [put]
    exact ⟨sameWays_put (stands ▸ bare) content, _, by rw [node?_put, if_pos rfl], rfl⟩

theorem exists_of_write (written : t.write p content = .ok t') :
    ∃ place node, t.locate p = .ok (place, node) ∧ Bare node ∧ t' = t.fill place content node := by
  unfold write at written
  split at written
  case h_1 => cases written
  case h_2 => cases written
  case h_3 place node other found =>
    exact ⟨place, node, found, bare_of_locate found other, (Except.ok.inj written).symm⟩

/-- A file that was written is read, over links if it was written over them. -/
theorem of_write (written : t.write p content = .ok t') :
    t.SameWays t' ∧ ∃ place stands, t'.locate p = .ok (place, some stands) ∧
      stands.content? = some content := by
  obtain ⟨place, node, found, bare, rfl⟩ := exists_of_write written
  obtain ⟨same, filled, there, holds⟩ := of_fill (node?_of_bare found bare) bare content
  exact ⟨same, place, filled, there ▸ (same.locate_bare found bare).2, holds⟩

theorem exists_of_replace {source target : Path} (moved : t.replace source target = .ok t') :
    ∃ origin stands place node, t.locateEntry source = .ok (origin, some stands) ∧
      stands ≠ .folder ∧ t.locateEntry target = .ok (place, node) ∧ node ≠ some .folder ∧
      (stands.sameFile node = true ∧ t' = t ∨
        stands.sameFile node = false ∧ t' = (t.erase origin).put place stands) := by
  unfold replace at moved
  simp only at moved
  split at moved
  case h_1 => cases moved
  case h_2 => cases moved
  case h_3 => cases moved
  case h_4 origin stands other held =>
    split at moved
    case h_1 => cases moved
    case h_2 => cases moved
    case h_3 place node other' found =>
      refine ⟨origin, stands, place, node, held, other, found, other', ?_⟩
      split at moved
      case isTrue file => exact .inl ⟨file, (Except.ok.inj moved).symm⟩
      case isFalse apart =>
        exact .inr ⟨eq_false_of_ne_true apart, (Except.ok.inj moved).symm⟩

theorem exists_of_remove (removed : t.remove p = .ok t') :
    t' = t ∧ (t.locateEntry p = .error .missing ∨ ∃ place, t.locateEntry p = .ok (place, none)) ∨
      ∃ place stands, t.locateEntry p = .ok (place, some stands) ∧ stands ≠ .folder ∧
        t' = t.erase place := by
  unfold remove at removed
  split at removed
  case h_1 missing => exact .inl ⟨(Except.ok.inj removed).symm, .inl missing⟩
  case h_2 => cases removed
  case h_3 place nothing => exact .inl ⟨(Except.ok.inj removed).symm, .inr ⟨place, nothing⟩⟩
  case h_4 => cases removed
  case h_5 place stands other found =>
    exact .inr ⟨place, stands, found, other, (Except.ok.inj removed).symm⟩

/-! ## Paths that take files -/

/-- What is written to a path at whose end nothing stands, or a file of one name, stands there. -/
theorem write_of_own (found : t.locateEntry p = .ok (place, node)) (own : Own node)
    (content : List UInt8) : t.write p content = .ok (t.put place (.file content)) ∧
      t.SameWays (t.put place (.file content)) ∧
      (t.put place (.file content)).locateEntry p = .ok (place, some (.file content)) := by
  have stands := node?_of_bare found own.bare
  have same : t.SameWays (t.put place (.file content)) :=
    sameWays_put (stands ▸ own.bare) content
  obtain ⟨-, there⟩ := same.locate_bare found own.bare
  rw [node?_put, if_pos rfl] at there
  refine ⟨?_, same, there⟩
  rw [write, locate_of_entry found own.bare.direct]
  rcases own.cases with rfl | ⟨old, rfl⟩ <;> rfl

/-- A file of one name is moved over what is neither a folder nor a link. -/
theorem replace_of_file {source target origin : Path}
    (held : t.locateEntry source = .ok (origin, some (.file content)))
    (found : t.locateEntry target = .ok (place, node)) (bare : Bare node) :
    t.replace source target = .ok ((t.erase origin).put place (.file content)) := by
  have apart : (FileNode.file content).sameFile node = false := rfl
  rw [replace, held, found]
  obtain _ | stands := node
  · rfl
  · cases stands with
    | folder => exact absurd rfl bare.ne_folder
    | _ => simp only [apart, Bool.false_eq_true, if_false]

theorem exists_content_of_bare {stands : FileNode} (bare : Bare (some stands)) :
    ∃ content, stands.content? = some content := by
  cases stands with
  | folder => cases bare _ rfl
  | link rooted target => cases bare _ rfl
  | file content => exact ⟨content, rfl⟩
  | shared number content => exact ⟨content, rfl⟩

/-- A path that a file can be moved to: the folders on the way stand, and neither a folder nor a
link at its end. -/
def TakesFile (t : FileTree) (p : Path) : Prop :=
  ∃ place node, t.locateEntry p = .ok (place, node) ∧ Bare node

/-- A path that a file can be written to which has no other name. -/
def TakesOwn (t : FileTree) (p : Path) : Prop :=
  ∃ place node, t.locateEntry p = .ok (place, node) ∧ Own node

/-- A file that was moved to such a path is read there. -/
theorem of_replace {source target origin : Path}
    (held : t.locateEntry source = .ok (origin, some (.file content)))
    (takes : t.TakesFile target) (moved : t.replace source target = .ok t') :
    t.SameWays t' ∧ t'.read target = .ok (some content) := by
  obtain ⟨origin', stands, place, node, held', -, found, -, moved⟩ := exists_of_replace moved
  obtain ⟨rfl, rfl⟩ : origin = origin' ∧ FileNode.file content = stands := by
    cases held.symm.trans held'
    exact ⟨rfl, rfl⟩
  obtain ⟨place', node', found', bare⟩ := takes
  cases found'.symm.trans found
  obtain ⟨file, -⟩ | ⟨-, rfl⟩ := moved
  · cases file
  have erased : t.SameWays (t.erase origin) :=
    sameWays_erase (node?_of_bare held (bare_file content) ▸ bare_file content)
  have same := erased.trans (sameWays_put (erased.bare (node?_of_bare found bare ▸ bare)) content)
  obtain ⟨-, there⟩ := same.locate_bare (locate_of_entry found bare.direct) bare
  rw [node?_put, if_pos rfl] at there
  exact ⟨same, read_eq_some_iff.2 ⟨place, _, there, rfl⟩⟩

/-- After a removal nothing is read. -/
theorem of_remove (takes : t.TakesFile p) (removed : t.remove p = .ok t') :
    t.SameWays t' ∧ t'.read p = .ok none := by
  obtain ⟨place, node, found, bare⟩ := takes
  obtain ⟨rfl, nothing⟩ | ⟨place', stands, found', -, rfl⟩ := exists_of_remove removed
  · obtain missing | ⟨place', nothing⟩ := nothing
    · cases found.symm.trans missing
    · have located := locate_of_entry nothing bare_none.direct
      exact ⟨.refl _, by rw [read, located]⟩
  · cases found.symm.trans found'
    have same : t.SameWays (t.erase place) :=
      sameWays_erase (node?_of_bare found bare ▸ bare)
    obtain ⟨-, there⟩ := same.locate_bare (locate_of_entry found bare.direct) bare
    rw [node?_erase_self, ← locate] at there
    exact ⟨same, by rw [read, there]⟩

namespace TakesFile

theorem of_sameWays (takes : t.TakesFile p) (same : t.SameWays t') : t'.TakesFile p := by
  obtain ⟨place, node, found, bare⟩ := takes
  obtain ⟨stands, there⟩ := same.locate_bare found bare
  exact ⟨place, _, there, same.bare (stands ▸ bare)⟩

/-- At the end of such a path nothing stands, or a file. -/
theorem cases (takes : t.TakesFile p) : ∃ place, t.locateEntry p = .ok (place, none) ∨
    ∃ stands content, stands.content? = some content ∧ Direct (some stands) ∧
      t.locateEntry p = .ok (place, some stands) := by
  obtain ⟨place, _ | stands, found, bare⟩ := takes
  · exact ⟨place, .inl found⟩
  · obtain ⟨content, holds⟩ := exists_content_of_bare bare
    exact ⟨place, .inr ⟨stands, content, holds, bare.direct, found⟩⟩

theorem exists_read (takes : t.TakesFile p) : ∃ content, t.read p = .ok content := by
  obtain ⟨place, found | ⟨stands, content, holds, file, found⟩⟩ := takes.cases
  · exact ⟨none, by rw [read, locate_of_entry found bare_none.direct]⟩
  · exact ⟨some content, read_eq_some_iff.2 ⟨place, stands, locate_of_entry found file, holds⟩⟩

theorem exists_replace {source origin : Path} (takes : t.TakesFile p)
    (held : t.locateEntry source = .ok (origin, some (.file content))) :
    ∃ t', t.replace source p = .ok t' := by
  obtain ⟨place, node, found, bare⟩ := takes
  exact ⟨_, replace_of_file held found bare⟩

theorem exists_remove (takes : t.TakesFile p) : ∃ t', t.remove p = .ok t' := by
  obtain ⟨place, node, found, bare⟩ := takes
  rw [remove, found]
  obtain _ | stands := node
  · exact ⟨t, rfl⟩
  · cases stands with
    | folder => exact absurd rfl bare.ne_folder
    | _ => exact ⟨t.erase place, rfl⟩

end TakesFile

namespace TakesOwn

theorem of_sameWays (takes : t.TakesOwn p) (same : t.SameWays t') : t'.TakesOwn p := by
  obtain ⟨place, node, found, own⟩ := takes
  obtain ⟨stands, there⟩ := same.locate_bare found own.bare
  exact ⟨place, _, there, same.own place (stands ▸ own)⟩

theorem exists_write (takes : t.TakesOwn p) (content : List UInt8) :
    ∃ t', t.write p content = .ok t' := by
  obtain ⟨place, node, found, own⟩ := takes
  exact ⟨_, (write_of_own found own content).1⟩

/-- What is written to such a path stands there. -/
theorem of_write (takes : t.TakesOwn p) (written : t.write p content = .ok t') :
    t.SameWays t' ∧ ∃ place, t'.locateEntry p = .ok (place, some (.file content)) := by
  obtain ⟨place, node, found, own⟩ := takes
  obtain ⟨done, same, there⟩ := write_of_own found own content
  cases written.symm.trans done
  exact ⟨same, place, there⟩

end TakesOwn

end EventTracker.FileTree
