import EventTracker.Storage.FileTree

/-!
# Ways through a tree

What a path leads to is told step by step: `FileTree.Leads` is the way from a folder along
names, over a number of links. It says of a path what `FileTree.locateFrom` finds if it has
that many links left. A way that goes on from a folder is two ways in a row, and no way
goes on from a file or from nothing.
-/

namespace EventTracker.FileTree

/-- A name that is looked up in a folder. -/
structure IsName (name : String) : Prop where
  down : name ≠ ".."
  short : name.utf8ByteSize ≤ maxNameLength

/-- What no way goes on from: a file, or nothing. -/
def Bare (node : Option FileNode) : Prop := ∀ stands, node = some stands → stands.leads = false

/-- What is no symbolic link. -/
def Direct (node : Option FileNode) : Prop := ∀ rooted target, node ≠ some (.link rooted target)

theorem bare_none : Bare none := fun _ stands => by cases stands

theorem bare_file (content : List UInt8) : Bare (some (.file content)) := fun stands same => by
  cases same
  rfl

theorem Bare.ne_folder {node : Option FileNode} (bare : Bare node) : node ≠ some .folder := by
  rintro rfl
  cases bare .folder rfl

theorem Bare.direct {node : Option FileNode} (bare : Bare node) : Direct node := by
  rintro rooted target rfl
  cases bare _ rfl

theorem bare_of_direct {node : Option FileNode} (direct : Direct node)
    (other : node ≠ some .folder) : Bare node := by
  rintro stands rfl
  cases stands with
  | folder => exact absurd rfl other
  | link rooted target => exact absurd rfl (direct rooted target)
  | file content => rfl
  | shared number content => rfl

/-- What a way comes to. -/
abbrev Found := Except FileFailure (Path × Option FileNode)

/-- What a name is found to be in a folder that stands. -/
theorem node_cases (node : Option FileNode) :
    node = some .folder ∨ (∃ rooted target, node = some (.link rooted target)) ∨ Bare node := by
  by_cases folder : node = some .folder
  · exact .inl folder
  · by_cases link : ∃ rooted target, node = some (.link rooted target)
    · exact .inr (.inl link)
    · have direct : Direct node := fun rooted target held => link ⟨rooted, target, held⟩
      exact .inr (.inr (bare_of_direct direct folder))

/-- The way from a folder along names, over a number of links. A link that it ends in is followed if
the way goes on through it. -/
inductive Leads (t : FileTree) (through : Bool) : Nat → Path → List String → Found → Prop
  | here (folder : Path) : Leads t through 0 folder [] (.ok (folder, some .folder))
  | up {links : Nat} {folder : Path} {rest : List String} {found : Found}
      (later : Leads t through links folder.dropLast rest found) :
      Leads t through links folder (".." :: rest) found
  | long {folder : Path} {name : String} {rest : List String} (down : name ≠ "..")
      (long : maxNameLength < name.utf8ByteSize) :
      Leads t through 0 folder (name :: rest) (.error .nameTooLong)
  | down {links : Nat} {folder : Path} {name : String} {rest : List String} {found : Found}
      (is : IsName name) (stands : t.node? (folder ++ [name]) = some .folder)
      (later : Leads t through links (folder ++ [name]) rest found) :
      Leads t through links folder (name :: rest) found
  | follow {links : Nat} {folder : Path} {name : String} {rest : List String} {found : Found}
      {rooted : Bool} {target : Path} (is : IsName name)
      (stands : t.node? (folder ++ [name]) = some (.link rooted target))
      (on : rest ≠ [] ∨ through = true)
      (later : Leads t through links (if rooted then [] else folder) (target ++ rest) found) :
      Leads t through (links + 1) folder (name :: rest) found
  | link {folder : Path} {name : String} {rooted : Bool} {target : Path} (is : IsName name)
      (stands : t.node? (folder ++ [name]) = some (.link rooted target)) (entry : through = false) :
      Leads t through 0 folder [name] (.ok (folder ++ [name], some (.link rooted target)))
  | last {folder : Path} {name : String} {node : Option FileNode} (is : IsName name)
      (stands : t.node? (folder ++ [name]) = node) (bare : Bare node) :
      Leads t through 0 folder [name] (.ok (folder ++ [name], node))
  | blocked {folder : Path} {name : String} {rest : List String} {node : Option FileNode}
      (is : IsName name) (stands : t.node? (folder ++ [name]) = node) (bare : Bare node)
      (on : rest ≠ []) :
      Leads t through 0 folder (name :: rest)
        (.error (if node.isSome then .notFolder else .missing))

variable {t : FileTree} {through : Bool} {links : Nat} {folder place : Path} {names : List String}
  {name : String} {rest : List String} {rooted : Bool} {target : Path} {node : Option FileNode}
  {found : Found}

/-! ## One name on a way -/

/-- How a way goes on over a link, with a number of links left. -/
def onward (t : FileTree) (through : Bool) : Nat → Path → List String → Found
  | 0 => fun _ _ => .error .loop
  | links + 1 => t.locateFrom through links

theorem locateFrom_eq_walk (t : FileTree) (through : Bool) (links : Nat) :
    t.locateFrom through links = t.walk through (t.onward through links) := by
  cases links <;> rfl

theorem locateFrom_nil : t.locateFrom through links folder [] = .ok (folder, some .folder) := by
  rw [locateFrom_eq_walk, walk]

theorem locateFrom_up : t.locateFrom through links folder (".." :: rest) =
    t.locateFrom through links folder.dropLast rest := by
  rw [locateFrom_eq_walk, walk, if_pos rfl]

theorem locateFrom_long (down : name ≠ "..") (long : maxNameLength < name.utf8ByteSize) :
    t.locateFrom through links folder (name :: rest) = .error .nameTooLong := by
  rw [locateFrom_eq_walk, walk, if_neg down, if_pos long]

section Name

variable (is : IsName name)

include is

theorem locateFrom_down (stands : t.node? (folder ++ [name]) = some .folder) :
    t.locateFrom through links folder (name :: rest) =
      t.locateFrom through links (folder ++ [name]) rest := by
  rw [locateFrom_eq_walk, walk, if_neg is.down, if_neg (Nat.not_lt.2 is.short)]
  simp only [stands]

theorem locateFrom_follow (stands : t.node? (folder ++ [name]) = some (.link rooted target))
    (on : rest ≠ [] ∨ through = true) :
    t.locateFrom through links folder (name :: rest) =
      t.onward through links (if rooted then [] else folder) (target ++ rest) := by
  rw [locateFrom_eq_walk, walk, if_neg is.down, if_neg (Nat.not_lt.2 is.short)]
  simp only [stands]
  rw [if_neg]
  rintro ⟨rfl, rfl⟩
  simp at on

theorem locateFrom_link (stands : t.node? (folder ++ [name]) = some (.link rooted target)) :
    t.locateFrom false links folder [name] =
      .ok (folder ++ [name], some (.link rooted target)) := by
  rw [locateFrom_eq_walk, walk, if_neg is.down, if_neg (Nat.not_lt.2 is.short)]
  simp only [stands, and_self, if_true]

theorem locateFrom_last (stands : t.node? (folder ++ [name]) = node) (bare : Bare node) :
    t.locateFrom through links folder [name] = .ok (folder ++ [name], node) := by
  rw [locateFrom_eq_walk, walk, if_neg is.down, if_neg (Nat.not_lt.2 is.short)]
  obtain _ | stands' := node
  · simp only [stands, if_true]
  · have file := bare stands' rfl
    cases stands' with
    | folder => cases file
    | link rooted target => cases file
    | file content => simp only [stands, if_true]
    | shared number content => simp only [stands, if_true]

theorem locateFrom_blocked (stands : t.node? (folder ++ [name]) = node) (bare : Bare node)
    (on : rest ≠ []) : t.locateFrom through links folder (name :: rest) =
      .error (if node.isSome then .notFolder else .missing) := by
  rw [locateFrom_eq_walk, walk, if_neg is.down, if_neg (Nat.not_lt.2 is.short)]
  obtain _ | stands' := node
  · simp only [stands, if_neg on]
  · have file := bare stands' rfl
    cases stands' with
    | folder => cases file
    | link rooted target => cases file
    | file content => simp only [stands, if_neg on]
    | shared number content => simp only [stands, if_neg on]

end Name

/-! ## What is found -/

/-- With as many links left as the way takes, it is what is found. -/
theorem Leads.locateFrom_eq (leads : t.Leads through links folder names found) {left : Nat}
    (enough : links ≤ left) : t.locateFrom through left folder names = found := by
  induction leads generalizing left with
  | here folder => exact locateFrom_nil
  | up _ ih => rw [locateFrom_up, ih enough]
  | long down long => exact locateFrom_long down long
  | down is stands _ ih => rw [locateFrom_down is stands, ih enough]
  | follow is stands on _ ih =>
    obtain ⟨left, rfl⟩ := Nat.exists_eq_succ_of_ne_zero (Nat.ne_of_gt (Nat.lt_of_lt_of_le
      (Nat.succ_pos _) enough))
    rw [locateFrom_follow is stands on]
    exact ih (Nat.le_of_succ_le_succ enough)
  | link is stands entry =>
    subst entry
    exact locateFrom_link is stands
  | last is stands bare => exact locateFrom_last is stands bare
  | blocked is stands bare on => exact locateFrom_blocked is stands bare on

/-- What is found is the end of a way, if it is so of what follows a link. -/
theorem exists_leads_of_onward (sound : ∀ {folder : Path} {names : List String},
      t.onward through links folder names = found →
        ∃ hops, hops + 1 ≤ links ∧ t.Leads through hops folder names found)
    (comes : t.locateFrom through links folder names = found) :
    ∃ hops ≤ links, t.Leads through hops folder names found := by
  induction names generalizing folder with
  | nil =>
    rw [locateFrom_nil] at comes
    exact ⟨0, Nat.zero_le _, comes ▸ .here folder⟩
  | cons name rest ih =>
    by_cases up : name = ".."
    · subst up
      rw [locateFrom_up] at comes
      obtain ⟨hops, enough, leads⟩ := ih comes
      exact ⟨hops, enough, .up leads⟩
    by_cases long : maxNameLength < name.utf8ByteSize
    · rw [locateFrom_long up long] at comes
      exact ⟨0, Nat.zero_le _, comes ▸ .long up long⟩
    have is : IsName name := ⟨up, Nat.not_lt.1 long⟩
    rcases node_cases (t.node? (folder ++ [name])) with stands | ⟨rooted, target, stands⟩ | bare
    · rw [locateFrom_down is stands] at comes
      obtain ⟨hops, enough, leads⟩ := ih comes
      exact ⟨hops, enough, .down is stands leads⟩
    · by_cases entry : rest = [] ∧ through = false
      · obtain ⟨rfl, rfl⟩ := entry
        rw [locateFrom_link is stands] at comes
        exact ⟨0, Nat.zero_le _, comes ▸ .link is stands rfl⟩
      · have on : rest ≠ [] ∨ through = true := by
          simpa [Classical.or_iff_not_imp_left] using entry
        rw [locateFrom_follow is stands on] at comes
        obtain ⟨hops, enough, leads⟩ := sound comes
        exact ⟨hops + 1, enough, .follow is stands on leads⟩
    · by_cases on : rest = []
      · subst on
        rw [locateFrom_last is rfl bare] at comes
        exact ⟨0, Nat.zero_le _, comes ▸ .last is rfl bare⟩
      · rw [locateFrom_blocked is rfl bare on] at comes
        exact ⟨0, Nat.zero_le _, comes ▸ .blocked is rfl bare on⟩

/-- What is found is the end of a way, unless there are too many links on it. -/
theorem exists_leads (comes : t.locateFrom through links folder names = found)
    (ends : found ≠ .error .loop) : ∃ hops ≤ links, t.Leads through hops folder names found := by
  induction links generalizing folder names with
  | zero => exact exists_leads_of_onward (fun comes => absurd comes.symm ends) comes
  | succ links ih =>
    refine exists_leads_of_onward (fun comes => ?_) comes
    obtain ⟨hops, enough, leads⟩ := ih comes
    exact ⟨hops, Nat.succ_le_succ enough, leads⟩

/-- A way comes to one end. -/
theorem Leads.unique {links' : Nat} {found' : Found}
    (leads : t.Leads through links folder names found)
    (leads' : t.Leads through links' folder names found') : found = found' := by
  rw [← leads.locateFrom_eq (Nat.le_max_left links links'),
    leads'.locateFrom_eq (Nat.le_max_right links links')]

/-- What a path is found to be is the end of the way from the root, unless the path is too long. -/
theorem locateBy_eq_iff {p : Path} (ends : found ≠ .error .loop)
    (fits : found ≠ .error .nameTooLong) :
    t.locateBy through p = found ↔ p.text.utf8ByteSize ≤ maxPathLength ∧
      ∃ hops ≤ maxLinks, t.Leads through hops [] p found := by
  rw [locateBy]
  split
  case isTrue long =>
    exact ⟨fun same => absurd same.symm fits, fun within => absurd long (Nat.not_lt.2 within.1)⟩
  case isFalse short =>
    exact ⟨fun comes => ⟨Nat.not_lt.1 short, exists_leads comes ends⟩,
      fun ⟨_, hops, enough, leads⟩ => leads.locateFrom_eq enough⟩

theorem locateBy_eq_ok_iff {p : Path} {located : Path × Option FileNode} :
    t.locateBy through p = .ok located ↔ p.text.utf8ByteSize ≤ maxPathLength ∧
      ∃ hops ≤ maxLinks, t.Leads through hops [] p (.ok located) :=
  locateBy_eq_iff nofun nofun

theorem locateBy_eq_missing_iff {p : Path} :
    t.locateBy through p = .error .missing ↔ p.text.utf8ByteSize ≤ maxPathLength ∧
      ∃ hops ≤ maxLinks, t.Leads through hops [] p (.error .missing) :=
  locateBy_eq_iff nofun nofun

/-! ## Ways in a row -/

/-- From a folder that a way leads to, another way goes on. -/
theorem Leads.append {before : Bool} {links' : Nat}
    (first : t.Leads before links folder names (.ok (place, some .folder)))
    (later : t.Leads through links' place (name :: rest) found) :
    t.Leads through (links + links') folder (names ++ name :: rest) found := by
  generalize ends : (Except.ok (place, some FileNode.folder) : Found) = stop at first
  induction first with
  | here folder =>
    cases ends
    rwa [Nat.zero_add]
  | up _ ih => exact .up (ih ends)
  | long => cases ends
  | down is stands _ ih => exact .down is stands (ih ends)
  | @follow links _ _ more _ _ target is stands _ _ ih =>
    have ih := ih ends
    rw [List.append_assoc] at ih
    rw [Nat.add_right_comm]
    exact .follow is stands (.inl (by simp)) ih
  | link => cases ends
  | last _ _ bare =>
    obtain ⟨rfl, rfl⟩ := Prod.mk.inj (Except.ok.inj ends)
    exact absurd rfl bare.ne_folder
  | blocked => cases ends

/-- From what is no folder no way goes on. -/
theorem Leads.append_bare {before : Bool}
    (first : t.Leads before links folder names (.ok (place, node))) (bare : Bare node) :
    t.Leads through links folder (names ++ name :: rest)
      (.error (if node.isSome then .notFolder else .missing)) := by
  generalize ends : (Except.ok (place, node) : Found) = stop at first
  induction first with
  | here folder =>
    obtain ⟨rfl, rfl⟩ := Prod.mk.inj (Except.ok.inj ends)
    exact absurd rfl bare.ne_folder
  | up _ ih => exact .up (ih ends)
  | long => cases ends
  | down is stands _ ih => exact .down is stands (ih ends)
  | follow is stands _ _ ih =>
    have ih := ih ends
    rw [List.append_assoc] at ih
    exact .follow is stands (.inl (by simp)) ih
  | @link _ _ rooted target =>
    obtain ⟨rfl, rfl⟩ := Prod.mk.inj (Except.ok.inj ends)
    exact absurd rfl (bare.direct rooted target)
  | last is stands _ =>
    obtain ⟨rfl, rfl⟩ := Prod.mk.inj (Except.ok.inj ends)
    exact .blocked is stands bare (List.cons_ne_nil _ _)
  | blocked => cases ends

/-- A way that fails does so however it was to go on. -/
theorem Leads.append_error {before : Bool} {failure : FileFailure}
    (first : t.Leads before links folder names (.error failure)) :
    t.Leads through links folder (names ++ name :: rest) (.error failure) := by
  generalize ends : (Except.error failure : Found) = stop at first
  induction first with
  | here => cases ends
  | up _ ih => exact .up (ih ends)
  | long down long =>
    cases ends
    exact .long down long
  | down is stands _ ih => exact .down is stands (ih ends)
  | follow is stands _ _ ih =>
    have ih := ih ends
    rw [List.append_assoc] at ih
    exact .follow is stands (.inl (by simp)) ih
  | link => cases ends
  | last => cases ends
  | blocked is stands bare =>
    cases ends
    exact .blocked is stands bare (by simp)

/-- A way that goes on after some names leads to a folder by these. -/
theorem Leads.exists_of_append {located : Path × Option FileNode}
    (leads : t.Leads through links folder (names ++ name :: rest) (.ok located)) :
    ∃ before after above, t.Leads true before folder names (.ok (above, some .folder)) ∧
      t.Leads through after above (name :: rest) (.ok located) ∧ links = before + after := by
  generalize way : names ++ name :: rest = path at leads
  generalize ends : (Except.ok located : Found) = stop at leads
  induction leads generalizing names with
  | here => simp at way
  | long => cases ends
  | blocked => cases ends
  | @up links folder path _ later ih =>
    cases names with
    | nil =>
      cases way
      subst ends
      exact ⟨0, links, folder, .here folder, .up later, (Nat.zero_add _).symm⟩
    | cons first more =>
      cases way
      obtain ⟨before, after, above, leads, goes, sum⟩ := ih rfl ends
      exact ⟨before, after, above, .up leads, goes, sum⟩
  | @down links folder _ path _ is stands later ih =>
    cases names with
    | nil =>
      cases way
      subst ends
      exact ⟨0, links, folder, .here folder, .down is stands later, (Nat.zero_add _).symm⟩
    | cons first more =>
      cases way
      obtain ⟨before, after, above, leads, goes, sum⟩ := ih rfl ends
      exact ⟨before, after, above, .down is stands leads, goes, sum⟩
  | @follow links folder _ path _ rooted target is stands on later ih =>
    cases names with
    | nil =>
      cases way
      subst ends
      exact ⟨0, links + 1, folder, .here folder, .follow is stands on later, (Nat.zero_add _).symm⟩
    | cons first more =>
      cases way
      obtain ⟨before, after, above, leads, goes, rfl⟩ := ih (List.append_assoc _ _ _) ends
      exact ⟨before + 1, after, above, .follow is stands (.inr rfl) leads, goes,
        Nat.add_right_comm _ _ _⟩
  | link is stands entry =>
    obtain ⟨rfl, rfl, rfl⟩ : names = [] ∧ _ ∧ rest = [] := by
      cases names with
      | nil => exact ⟨rfl, List.cons.inj way⟩
      | cons first more => simp at way
    exact ⟨0, 0, _, .here _, .link is stands entry, rfl⟩
  | last is stands bare =>
    obtain ⟨rfl, rfl, rfl⟩ : names = [] ∧ _ ∧ rest = [] := by
      cases names with
      | nil => exact ⟨rfl, List.cons.inj way⟩
      | cons first more => simp at way
    exact ⟨0, 0, _, .here _, .last is stands bare, rfl⟩

/-- The end of one name: the folder that it leads to, what no way goes on from, or a link. -/
theorem Leads.singleton_cases (down : name ≠ "..")
    (leads : t.Leads through links folder [name] (.ok (place, node))) :
    IsName name ∧ (Direct (t.node? (folder ++ [name])) ∨ through = false →
      place = folder ++ [name] ∧ node = t.node? place) := by
  cases leads with
  | up => exact absurd rfl down
  | down is stands later =>
    cases later
    exact ⟨is, fun _ => ⟨rfl, stands.symm⟩⟩
  | follow is stands on later =>
    refine ⟨is, fun direct => ?_⟩
    rcases direct with direct | entry
    · exact absurd stands (direct _ _)
    · simp [entry] at on
  | link is stands => exact ⟨is, fun _ => ⟨rfl, stands.symm⟩⟩
  | last is stands => exact ⟨is, fun _ => ⟨rfl, stands.symm⟩⟩

/-- Where one name leads to from a folder, if a link there is not followed. -/
theorem leads_singleton (is : IsName name)
    (direct : Direct (t.node? (folder ++ [name])) ∨ through = false) :
    t.Leads through 0 folder [name] (.ok (folder ++ [name], t.node? (folder ++ [name]))) := by
  rcases node_cases (t.node? (folder ++ [name])) with stands | ⟨rooted, target, stands⟩ | bare
  · rw [stands]
    exact .down is stands (.here _)
  · rw [stands]
    refine .link is stands (direct.resolve_left fun direct => direct _ _ stands)
  · exact .last is rfl bare

/-! ## Links at the end -/

/-- What is found at the end is found by a way that goes on, too, unless it is a link. -/
theorem Leads.goes_on (leads : t.Leads false links folder names found)
    (direct : ∀ place node, found = .ok (place, node) → Direct node) :
    t.Leads true links folder names found := by
  induction leads with
  | here folder => exact .here folder
  | up _ ih => exact .up (ih direct)
  | long down long => exact .long down long
  | down is stands _ ih => exact .down is stands (ih direct)
  | follow is stands _ _ ih => exact .follow is stands (.inr rfl) (ih direct)
  | link => exact absurd rfl (direct _ _ rfl _ _)
  | last is stands bare => exact .last is stands bare
  | blocked is stands bare on => exact .blocked is stands bare on

/-- What stands at the end of a way that goes on stands there, or a link that leads to it. -/
theorem Leads.exists_entry {stands : FileNode}
    (leads : t.Leads true links folder names (.ok (place, some stands))) :
    ∃ hops ≤ links, ∃ place' stands',
      t.Leads false hops folder names (.ok (place', some stands')) := by
  generalize ends : (Except.ok (place, some stands) : Found) = stop at leads
  induction leads with
  | here folder => exact ⟨0, Nat.le_refl _, folder, .folder, .here folder⟩
  | up _ ih =>
    obtain ⟨hops, enough, place', stands', leads⟩ := ih ends
    exact ⟨hops, enough, place', stands', .up leads⟩
  | long => cases ends
  | down is stands _ ih =>
    obtain ⟨hops, enough, place', stands', leads⟩ := ih ends
    exact ⟨hops, enough, place', stands', .down is stands leads⟩
  | @follow links folder name rest _ rooted target is stands _ _ ih =>
    by_cases on : rest = []
    · subst on
      exact ⟨0, Nat.zero_le _, _, _, .link is stands rfl⟩
    · obtain ⟨hops, enough, place', stands', leads⟩ := ih ends
      exact ⟨hops + 1, Nat.succ_le_succ enough, place', stands', .follow is stands (.inl on) leads⟩
  | link _ _ entry => cases entry
  | last is stands bare =>
    obtain ⟨rfl, rfl⟩ := Prod.mk.inj (Except.ok.inj ends)
    exact ⟨0, Nat.le_refl _, _, _, .last is stands bare⟩
  | blocked => cases ends

/-- A way that goes on through links does not end in one. -/
theorem Leads.direct (leads : t.Leads true links folder names (.ok (place, node))) :
    Direct node := by
  generalize ends : (Except.ok (place, node) : Found) = stop at leads
  induction leads with
  | here =>
    obtain ⟨rfl, rfl⟩ := Prod.mk.inj (Except.ok.inj ends)
    nofun
  | up _ ih => exact ih ends
  | long => cases ends
  | down _ _ _ ih => exact ih ends
  | follow _ _ _ _ ih => exact ih ends
  | link _ _ entry => cases entry
  | last _ _ bare =>
    obtain ⟨rfl, rfl⟩ := Prod.mk.inj (Except.ok.inj ends)
    exact bare.direct
  | blocked => cases ends

end EventTracker.FileTree
