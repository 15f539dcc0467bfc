import EventTracker.Proofs.Storage.FileTree
import Mathlib.Data.Nat.Find

/-!
# Files that are read as they were written

A temporary file is written, over links if it is one, and moved to another name of its
folder. What is read under that name is what was written, or nothing can be read: where
links lead in a circle, or where the way to the folder led over the name itself. After a
name is removed nothing is read under it.
-/

namespace EventTracker.FileTree

variable {t t' : FileTree} {folder start place : Path} {first second name : String}
  {moved : FileNode} {content : List UInt8} {names rest more : List String} {links left : Nat}
  {rooted : Bool} {target : Path}

/-- A node of a folder that was moved to another name there, to the place of no folder. -/
structure Renamed (folder : Path) (first second : String) (moved : FileNode) (t t' : FileTree) :
    Prop where
  held : t.node? (folder ++ [first]) = some moved
  file : moved ≠ .folder
  room : t.node? (folder ++ [second]) ≠ some .folder
  stands : t'.node? (folder ++ [second]) = some moved
  others : ∀ place, place ≠ folder ++ [first] → place ≠ folder ++ [second] →
    t'.node? place = t.node? place

/-- What a way is found to come to: a file with a content, if the way does not go on from there, or a
failure that is told. -/
def Settles (content : List UInt8) (rest : List String) (found : Found) : Prop :=
  (rest = [] ∧ ∃ place stands, found = .ok (place, some stands) ∧ stands.content? = some content) ∨
    found = .error .notFolder ∨ found = .error .loop

theorem Settles.of_append {found : Found} (settles : Settles content (more ++ rest) found) :
    Settles content rest found :=
  settles.imp (fun ⟨empty, ends⟩ => ⟨(List.append_eq_nil_iff.1 empty).2, ends⟩) id

theorem Settles.ends {found : Found} (settles : Settles content rest found) :
    Settles content [] found :=
  settles.imp (fun ⟨_, ends⟩ => ⟨rfl, ends⟩) id

/-- From a file no way goes on. -/
theorem settles_of_bare (is : IsName name) {stands : FileNode}
    (held : t.node? (folder ++ [name]) = some stands) (bare : Bare (some stands))
    (holds : stands.content? = some content) :
    Settles content rest (t.locateFrom true left folder (name :: rest)) := by
  by_cases on : rest = []
  · subst on
    rw [locateFrom_last is held bare]
    exact .inl ⟨rfl, _, _, rfl, holds⟩
  · rw [locateFrom_blocked is held bare on]
    exact .inr (.inl rfl)

/-- A way that leads to a file leads nowhere else, and does not go on. -/
theorem eq_of_leads_append {stands stands' : FileNode} {place' : Path} {links' : Nat}
    (leads : t.Leads true links start names (.ok (place, some stands)))
    (holds : stands.content? = some content)
    (leads' : t.Leads true links' start (names ++ more) (.ok (place', some stands'))) :
    more = [] ∧ stands' = stands := by
  cases more with
  | nil =>
    rw [List.append_nil] at leads'
    cases leads.unique leads'
    exact ⟨rfl, rfl⟩
  | cons name rest =>
    obtain ⟨before, -, above, first, -, -⟩ := leads'.exists_of_append
    cases leads.unique first
    cases holds

namespace Renamed

variable (renamed : Renamed folder first second moved t t')

include renamed

/-- Where a folder stood it still stands. -/
theorem node?_of_folder (stood : t.node? place = some .folder) : t'.node? place = some .folder := by
  rw [renamed.others, stood]
  · rintro rfl
    exact renamed.file (Option.some.inj (renamed.held.symm.trans stood))
  · rintro rfl
    exact renamed.room stood

/-- Once all ways over the new name settle, those settle that lead to the file of the moved link, as
they did before. -/
theorem settles_of_leads (again : ∀ left ≤ links, ∀ rest,
      Settles content rest (t'.locateFrom true left folder (second :: rest)))
    (link : moved = .link rooted target) {most : Nat} {source : Path × Option FileNode}
    (leads : t.Leads true most (if rooted then [] else folder) target (.ok source))
    (least : ∀ fewer < most,
      ¬ t.Leads true fewer (if rooted then [] else folder) target (.ok source))
    (holds : ∃ stands, source.2 = some stands ∧ stands.content? = some content)
    {hops : Nat} (goes : t.Leads true hops start names (.ok source)) (few : hops ≤ most)
    (within : left ≤ links) (rest : List String) :
    Settles content rest (t'.locateFrom true left start (names ++ rest)) := by
  obtain ⟨place, node⟩ := source
  obtain ⟨stands, rfl, holds⟩ := holds
  generalize ends : (Except.ok (place, some stands) : Found) = stop at goes
  induction goes generalizing left with
  | here =>
    cases ends
    cases holds
  | up _ ih =>
    rw [List.cons_append, locateFrom_up]
    exact ih few within ends
  | long => cases ends
  | down is stood _ ih =>
    rw [List.cons_append, locateFrom_down is (renamed.node?_of_folder stood)]
    exact ih few within ends
  | @follow hops start name more _ rooted' target' is stood _ later ih =>
    subst ends
    rw [List.cons_append]
    by_cases old : start ++ [name] = folder ++ [second]
    · obtain ⟨rfl, same⟩ := List.append_inj' old rfl
      cases same
      exact (again left within (more ++ rest)).of_append
    by_cases origin : start ++ [name] = folder ++ [first]
    · -- a way that leads over the link is no shorter than the one from it
      obtain ⟨rfl, -⟩ := List.append_inj' origin rfl
      rw [origin, renamed.held, link] at stood
      cases stood
      obtain ⟨rfl, -⟩ := eq_of_leads_append leads holds later
      rw [List.append_nil] at later
      exact absurd later (least hops few)
    rw [locateFrom_follow is ((renamed.others _ origin old).trans stood) (.inr rfl)]
    cases left with
    | zero => exact .inr (.inr rfl)
    | succ left =>
      rw [onward, ← List.append_assoc]
      exact ih (Nat.le_of_succ_le few) (Nat.le_of_succ_le within) rfl
  | link _ _ entry => cases entry
  | @last start name node is stood bare =>
    cases ends
    rw [List.singleton_append]
    by_cases old : start ++ [name] = folder ++ [second]
    · obtain ⟨rfl, same⟩ := List.append_inj' old rfl
      cases same
      exact again left within rest
    by_cases origin : start ++ [name] = folder ++ [first]
    · rw [origin, renamed.held, link] at stood
      cases stood
      exact absurd rfl (bare.direct _ _)
    exact settles_of_bare is ((renamed.others _ origin old).trans stood) bare holds
  | blocked => cases ends

/-- Ways over the new name settle, whatever the moved node is. -/
theorem settles (is : IsName second) {stands : FileNode} (holds : stands.content? = some content)
    (leads : t.Leads true links folder [first] (.ok (place, some stands))) (down : first ≠ "..")
    (left : Nat) (rest : List String) :
    Settles content rest (t'.locateFrom true left folder (second :: rest)) := by
  cases leads with
  | up => exact absurd rfl down
  | down _ stood =>
    exact absurd (Option.some.inj (renamed.held.symm.trans stood)) renamed.file
  | link _ _ entry => cases entry
  | last _ stood bare =>
    cases renamed.held.symm.trans stood
    exact settles_of_bare is renamed.stands bare holds
  | @follow hops _ _ _ _ rooted target _ stood _ later =>
    rw [List.append_nil] at later
    have link := Option.some.inj (renamed.held.symm.trans stood)
    obtain ⟨most, leads, least⟩ : ∃ most,
        t.Leads true most (if rooted then [] else folder) target (.ok (place, some stands)) ∧
        ∀ fewer < most,
          ¬ t.Leads true fewer (if rooted then [] else folder) target
            (.ok (place, some stands)) := by
      classical
      have some : ∃ most,
          t.Leads true most (if rooted then [] else folder) target (.ok (place, some stands)) :=
        ⟨hops, later⟩
      exact ⟨Nat.find some, Nat.find_spec some, fun fewer less => Nat.find_min some less⟩
    have new : t'.node? (folder ++ [second]) = some (.link rooted target) := link ▸ renamed.stands
    -- a way over the new name goes on over the link, with one link less
    induction left using Nat.strongRecOn generalizing rest with
    | ind left ih =>
      rw [locateFrom_follow is new (.inr rfl)]
      cases left with
      | zero => exact .inr (.inr rfl)
      | succ left =>
        have again (left' : Nat) (within : left' ≤ left) := ih left' (Nat.lt_succ_of_le within)
        exact renamed.settles_of_leads again
          link leads least ⟨stands, rfl, holds⟩ leads (Nat.le_refl _) (Nat.le_refl _) rest

/-- The way to the folder, and on over the new name, settles. -/
theorem settles_of_folder (is : IsName second) {stands : FileNode}
    (holds : stands.content? = some content)
    (source : t.Leads true links folder [first] (.ok (place, some stands))) (down : first ≠ "..")
    {hops : Nat} (leads : t.Leads true hops start names (.ok (folder, some .folder))) (left : Nat) :
    Settles content [] (t'.locateFrom true left start (names ++ [second])) := by
  generalize ends : (Except.ok (folder, some FileNode.folder) : Found) = stop at leads
  have turn := renamed.settles is holds source down
  induction leads generalizing left with
  | here start =>
    cases ends
    exact turn left []
  | up _ ih =>
    rw [List.cons_append, locateFrom_up]
    exact ih left ends
  | long => cases ends
  | down is stood _ ih =>
    rw [List.cons_append, locateFrom_down is (renamed.node?_of_folder stood)]
    exact ih left ends
  | @follow hops start name more _ rooted target is stood _ later ih =>
    subst ends
    rw [List.cons_append]
    by_cases old : start ++ [name] = folder ++ [second]
    · obtain ⟨rfl, same⟩ := List.append_inj' old rfl
      cases same
      exact (turn left (more ++ [second])).ends
    by_cases origin : start ++ [name] = folder ++ [first]
    · -- the link that was moved leads to a file
      obtain ⟨rfl, same⟩ := List.append_inj' origin rfl
      cases same
      have follows : t.Leads true _ start (first :: more) (.ok (start, some .folder)) :=
        .follow is stood (.inr rfl) later
      obtain ⟨-, same⟩ := eq_of_leads_append source holds follows
      cases same
      cases holds
    rw [locateFrom_follow is ((renamed.others _ origin old).trans stood) (.inr rfl)]
    cases left with
    | zero => exact .inr (.inr rfl)
    | succ left =>
      rw [onward, ← List.append_assoc]
      exact ih left rfl
  | link _ _ entry => cases entry
  | last _ _ bare =>
    cases ends
    exact absurd rfl bare.ne_folder
  | blocked => cases ends

end Renamed

/-! ## What is read -/

variable {t'' : FileTree} {p other : Path} {node : Option FileNode} {stands : FileNode}

/-- Names of one file are no links. -/
theorem exists_of_sameFile (same : stands.sameFile node = true) :
    Direct (some stands) ∧ ∃ stands', node = some stands' ∧ Direct (some stands') := by
  cases stands with
  | shared number content =>
    cases node with
    | none => cases same
    | some stands' =>
      cases stands' with
      | shared number' content' => exact ⟨nofun, _, rfl, nofun⟩
      | _ => cases same
  | _ => cases same

/-- Each name of a file that was filled holds the content. -/
theorem content?_of_fill (stood : t.node? place = node) {stands stands' : FileNode}
    (held : (t.fill place content node).node? place = some stands)
    (held' : (t.fill place content node).node? other = some stands')
    (same : stands.sameFile (some stands') = true) : stands'.content? = some content := by
  rcases t.fill_cases place content node with ⟨number, old, rfl, filled⟩ | put
  · rw [filled, stood, Option.map_some, FileNode.refilled, if_pos rfl] at held
    cases held
    rw [filled] at held'
    obtain ⟨before, -, rfl⟩ := Option.map_eq_some_iff.1 held'
    cases before with
    | shared number' content' =>
      obtain rfl : number = number' := of_decide_eq_true same
      exact congrArg some (if_pos rfl)
    | _ => cases same
  · rw [put, node?_put, if_pos rfl] at held
    cases held
    cases same

/-- In the folder that a path leads to, a name is found there, unless it is that of a link. -/
theorem exists_folder_of_locateBy {through : Bool} (down : name ≠ "..")
    (found : t.locateBy through (folder ++ [name]) = .ok (place, node)) :
    IsName name ∧ (Path.text (folder ++ [name])).utf8ByteSize ≤ maxPathLength ∧
      ∃ before ≤ maxLinks, ∃ above after,
        t.Leads true before [] folder (.ok (above, some .folder)) ∧
        t.Leads through after above [name] (.ok (place, node)) ∧
        (Direct (t.node? (above ++ [name])) ∨ through = false →
          place = above ++ [name] ∧ node = t.node? place) := by
  obtain ⟨fits, hops, enough, leads⟩ := locateBy_eq_ok_iff.1 found
  obtain ⟨before, after, above, first, later, rfl⟩ := leads.exists_of_append
  obtain ⟨is, ends⟩ := later.singleton_cases down
  exact ⟨is, fits, before, Nat.le_of_add_right_le enough, above, after, first, later, ends⟩

/-- What is written to a temporary file, which is then moved to another name, is what is read under
that name, if anything can be read there. -/
theorem read_of_replace (down : first ≠ "..") (down' : second ≠ "..")
    (written : t.write (folder ++ [first]) content = .ok t')
    (replaced : t'.replace (folder ++ [first]) (folder ++ [second]) = .ok t'')
    {read : Option (List UInt8)} (reads : t''.read (folder ++ [second]) = .ok read) :
    t''.read (folder ++ [second]) = .ok (some content) := by
  obtain ⟨origin, moved, place, node, held, file, found, room, done⟩ := exists_of_replace replaced
  obtain ⟨-, -, before, enough, above, _, folderLeads, -, ends⟩ :=
    exists_folder_of_locateBy down held
  obtain ⟨rfl, held'⟩ := ends (.inr rfl)
  obtain ⟨is, fits, _, _, _, _, folderLeads', _, ends⟩ := exists_folder_of_locateBy down' found
  cases folderLeads.unique folderLeads'
  obtain ⟨rfl, found'⟩ := ends (.inr rfl)
  obtain ⟨-, place', source, located, holds⟩ := of_write written
  obtain ⟨-, -, _, _, _, _, folderLeads', sourceLeads, -⟩ := exists_folder_of_locateBy down located
  cases folderLeads.unique folderLeads'
  rcases done with ⟨sameFile, rfl⟩ | ⟨-, rfl⟩
  · -- both are names of the file that was written
    obtain ⟨direct, node', rfl, direct'⟩ := exists_of_sameFile sameFile
    obtain ⟨place, opened, stood, bare, rfl⟩ := exists_of_write written
    obtain ⟨stood, there⟩ := (of_write written).1.locate_bare stood bare
    obtain ⟨rfl, filled⟩ :=
      Prod.mk.inj (Except.ok.inj (there.symm.trans (locate_of_entry held direct)))
    exact read_eq_some_iff.2 ⟨_, node', locate_of_entry found direct',
      content?_of_fill stood filled found'.symm sameFile⟩
  have renamed : Renamed above first second moved t'
      ((t'.erase (above ++ [first])).put (above ++ [second]) moved) := {
    held := held'.symm
    file := file
    room := found' ▸ room
    stands := by rw [node?_put, if_pos rfl]
    others := fun other ne ne' => node?_move t' moved ne'.symm ne.symm }
  have settles := renamed.settles_of_folder is holds sourceLeads down folderLeads maxLinks
  rw [FileTree.read, locate, locateBy, if_neg (Nat.not_lt.2 fits)] at reads ⊢
  obtain ⟨-, place, stands, located, holds⟩ | failed | failed := settles
  · rw [located]
    simp only [holds]
  · rw [failed] at reads
    cases reads
  · rw [failed] at reads
    cases reads

/-- Once a name is removed from a folder, the way to it ends at nothing, or before if it led over the
name itself. -/
theorem leads_of_erase (is : IsName name) (file : t.node? (folder ++ [name]) ≠ some .folder)
    (leads : t.Leads true links start names (.ok (folder, some .folder))) :
    ∃ hops ≤ links, ∃ found, (found = .ok (folder ++ [name], none) ∨ found = .error .missing) ∧
      (t.erase (folder ++ [name])).Leads true hops start (names ++ [name]) found := by
  generalize ends : (Except.ok (folder, some FileNode.folder) : Found) = stop at leads
  induction leads with
  | here start =>
    cases ends
    exact ⟨0, Nat.le_refl _, _, .inl rfl, .last is (node?_erase_self _ _) bare_none⟩
  | up _ ih =>
    obtain ⟨hops, few, found, nothing, leads⟩ := ih ends
    exact ⟨hops, few, found, nothing, .up leads⟩
  | long => cases ends
  | down is' stood _ ih =>
    obtain ⟨hops, few, found, nothing, leads⟩ := ih ends
    refine ⟨hops, few, found, nothing, .down is' ?_ leads⟩
    rw [node?_erase_of_ne, stood]
    rintro same
    exact file (same ▸ stood)
  | @follow links start next more _ rooted target is' stood on _ ih =>
    by_cases here : folder ++ [name] = start ++ [next]
    · have gone : (t.erase (folder ++ [name])).node? (start ++ [next]) = none :=
        here ▸ node?_erase_self _ _
      exact ⟨0, Nat.zero_le _, _, .inr rfl, .blocked is' gone bare_none (by simp)⟩
    · obtain ⟨hops, few, found, nothing, leads⟩ := ih ends
      rw [List.append_assoc] at leads
      exact ⟨hops + 1, Nat.succ_le_succ few, found, nothing,
        .follow is' ((node?_erase_of_ne t here).trans stood) (.inr rfl) leads⟩
  | link _ _ entry => cases entry
  | last _ _ bare =>
    cases ends
    exact absurd rfl bare.ne_folder
  | blocked => cases ends

/-- After the name of a file is removed nothing is read under it, also where the way to the folder led
over it. -/
theorem read_of_remove_eq_none (down : name ≠ "..")
    (removed : t.remove (folder ++ [name]) = .ok t') : t'.read (folder ++ [name]) = .ok none := by
  obtain ⟨rfl, missing | ⟨place, nothing⟩⟩ | ⟨place, stands, found, file, rfl⟩ :=
    exists_of_remove removed
  · rw [FileTree.read, locate_of_entry_missing missing]
  · rw [FileTree.read, locate_of_entry nothing bare_none.direct]
  obtain ⟨is, fits, before, enough, above, _, leads, -, ends⟩ := exists_folder_of_locateBy down found
  obtain ⟨rfl, stood⟩ := ends (.inr rfl)
  have other : t.node? (above ++ [name]) ≠ some .folder := fun folder =>
    file (Option.some.inj (stood.trans folder))
  obtain ⟨hops, few, found, nothing, leads⟩ := leads_of_erase is other leads
  have located := leads.locateFrom_eq (Nat.le_trans few enough)
  rw [FileTree.read, locate, locateBy, if_neg (Nat.not_lt.2 fits), located]
  rcases nothing with rfl | rfl <;> rfl

end EventTracker.FileTree
