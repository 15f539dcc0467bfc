import EventTracker.Config
import EventTracker.Proofs.Text.CodePoint
import EventTracker.Proofs.Value.Entries
import Mathlib.Data.List.TakeWhile

/-!
# Configurations over calls that change them

A configuration is made of settings or of environment variables, and calls then change it in
place: a new configuration is made first, and if that succeeds its values are copied, one
setting after another. What carries every result is that a configuration so reached passes
its own checks (`Sound`): the settings that a patch leaves out cannot make it fail, and two
patches in a row come to one.
-/

namespace EventTracker

theorem Table.mem_of_get? {α : Type} {t : Table α} {name : Text} {a : α}
    (found : t.get? name = some a) : (name, a) ∈ t := by
  obtain ⟨front, here, back, split, same⟩ := Entries.exists_eq_append_of_find? found
  rw [split, of_decide_eq_true same]
  exact List.mem_append_right _ List.mem_cons_self

/-- An entry of an overlay is one from before or one of the patch. -/
theorem Table.mem_of_mem_overlay {α : Type} {t patch : Table α} {entry : Text × α}
    (mem : entry ∈ t.overlay patch) : entry ∈ t ∨ entry ∈ patch := by
  have put (key : Text) (value : α) (t : Table α) (mem : entry ∈ t.insert key value) :
      entry ∈ t ∨ entry = (key, value) := by
    induction t with
    | nil => exact .inr (List.mem_singleton.1 mem)
    | cons first rest ih =>
      unfold insert Entries.put at mem
      split at mem
      case isTrue same =>
        rw [of_decide_eq_true same] at mem
        obtain rfl | mem := List.mem_cons.1 mem
        · exact .inr rfl
        · exact .inl (List.mem_cons_of_mem _ mem)
      case isFalse =>
        obtain rfl | mem := List.mem_cons.1 mem
        · exact .inl List.mem_cons_self
        · exact (ih mem).imp_left (List.mem_cons_of_mem _)
  induction patch generalizing t with
  | nil => exact .inl mem
  | cons first patch ih =>
    obtain before | given := ih mem
    · obtain before | rfl := put _ _ _ before
      · exact .inl before
      · exact .inr List.mem_cons_self
    · exact .inr (List.mem_cons_of_mem _ given)

namespace Config

/-! ## Hosts -/

/-- The slashes at the end go, and nothing else. -/
theorem exists_eq_trimHost_append (host : Text) :
    ∃ n, host = trimHost host ++ .plain (String.ofList (List.replicate n '/')) := by
  let back := host.points.reverse
  have slashes : back.takeWhile (· == .char '/') =
      List.replicate (back.takeWhile (· == .char '/')).length (.char '/') := by
    refine List.eq_replicate_of_mem fun p mem => ?_
    exact eq_of_beq (List.mem_takeWhile_imp (p := (· == CodePoint.char '/')) mem)
  refine ⟨(back.takeWhile (· == .char '/')).length, Text.points_injective ?_⟩
  calc host.points
      = (back.takeWhile (· == .char '/') ++ back.dropWhile (· == .char '/')).reverse := by
        rw [List.takeWhile_append_dropWhile, List.reverse_reverse]
    _ = (back.dropWhile (· == .char '/')).reverse ++
        (back.takeWhile (· == .char '/')).reverse := by
        rw [List.reverse_append]
    _ = (back.dropWhile (· == .char '/')).reverse ++
        List.replicate (back.takeWhile (· == .char '/')).length (.char '/') := by
        rw [← List.reverse_replicate, ← slashes]
    _ = _ := by
        rw [Text.points_append, trimHost, Text.points_ofPoints, Text.points_plain,
          String.toList_ofList, CodePoint.ofChars, List.map_replicate]

theorem getLast?_trimHost (host : Text) : (trimHost host).points.getLast? ≠ some (.char '/') := by
  rw [trimHost, Text.points_ofPoints, List.getLast?_reverse]
  intro first
  have apart := List.head?_dropWhile_not (· == CodePoint.char '/') host.points.reverse
  rw [first] at apart
  cases apart

/-- A host without a slash at its end is left as it is. -/
theorem trimHost_of_getLast? {host : Text} (trimmed : host.points.getLast? ≠ some (.char '/')) :
    trimHost host = host := by
  obtain ⟨n, split⟩ := exists_eq_trimHost_append host
  cases n with
  | zero =>
    refine Text.points_injective ?_
    simpa [CodePoint.ofChars] using congrArg Text.points split.symm
  | succ n =>
    refine absurd ?_ trimmed
    rw [split, Text.points_append, Text.points_plain, String.toList_ofList, List.replicate_succ',
      CodePoint.ofChars_append, ← List.append_assoc]
    exact List.getLast?_concat

/-! ## Building and patching -/

/-- The value that a patch gives a setting, or else the configuration's own. -/
def chosen (c : Config) (patch : Table Value) (s : Setting) : Value :=
  (patch.get? s.name).getD (c.get s)

variable {c c' : Config} {patch : Table Value}

theorem ext_get (same : ∀ s, c'.get s = c.get s) : c' = c := by
  have host := Value.str.inj (same .apiHost)
  have debug : c'.debug = c.debug := same .debug
  have persistence : c'.persistenceName = c.persistenceName := same .persistenceName
  have storage : c'.storagePath = c.storagePath := same .storagePath
  have timeout : c'.requestTimeout = c.requestTimeout := same .requestTimeout
  cases c
  cases c'
  congr

/-- A patch succeeds if the host is a text and the timeout passes its check, whether they are the
patch's or the configuration's own, and then it sets what it names. -/
theorem patched_eq_ok_iff :
    c.patched patch = .ok c' ↔
      ∃ host, c.chosen patch .apiHost = .str host ∧
        checkTimeout (c.chosen patch .requestTimeout) = .ok () ∧
        c'.apiHost = trimHost host ∧ ∀ s, s ≠ .apiHost → c'.get s = c.chosen patch s := by
  constructor
  · intro done
    unfold patched at done
    simp only at done
    split at done
    case h_2 => cases done
    case h_1 host text =>
      cases passed : checkTimeout ((patch.get? Setting.requestTimeout.name).getD
          (c.get .requestTimeout)) with
      | error fault =>
        rw [passed] at done
        cases done
      | ok =>
        rw [passed] at done
        cases done
        refine ⟨host, text, passed, rfl, ?_⟩
        intro s other
        cases s with
        | apiHost => exact absurd rfl other
        | debug | persistenceName | storagePath | requestTimeout => rfl
  · rintro ⟨host, text, passed, trimmed, others⟩
    have text : (patch.get? Setting.apiHost.name).getD (c.get .apiHost) = .str host := text
    have passed : checkTimeout ((patch.get? Setting.requestTimeout.name).getD
        (c.get .requestTimeout)) = .ok () := passed
    unfold patched
    simp only
    rw [text, passed]
    refine congrArg Except.ok (ext_get ?_)
    intro s
    cases s with
    | apiHost => rw [get, get, trimmed]
    | debug => exact (others .debug nofun).symm
    | persistenceName => exact (others .persistenceName nofun).symm
    | storagePath => exact (others .storagePath nofun).symm
    | requestTimeout => exact (others .requestTimeout nofun).symm

theorem mem_unknownNames {name : Text} :
    name ∈ unknownNames patch ↔ name ∈ patch.map Prod.fst ∧ Setting.ofName? name = none := by
  unfold unknownNames
  rw [List.mem_filter, Option.isNone_iff_eq_none]

theorem unknownNames_eq_nil_iff :
    unknownNames patch = [] ↔ ∀ name ∈ patch.map Prod.fst, Setting.ofName? name ≠ none := by
  rw [List.eq_nil_iff_forall_not_mem]
  simp only [mem_unknownNames, not_and]

/-- The configuration's own name is no setting's. -/
theorem get?_ownName (known : unknownNames patch = []) : patch.get? ownName = none := by
  refine Entries.find?_of_absent (Entries.has_eq_false_iff.2 ?_)
  intro entry mem
  refine decide_eq_false fun own => ?_
  refine unknownNames_eq_nil_iff.1 known entry.1 (List.mem_map_of_mem mem) ?_
  rw [own]
  rfl

theorem update_eq_ok_iff :
    c.update patch = .ok c' ↔ unknownNames patch = [] ∧ c.patched patch = .ok c' := by
  constructor
  · intro done
    unfold update at done
    split at done
    case isTrue => cases done
    case isFalse =>
      split at done
      case h_1 known => exact ⟨known, done⟩
      case h_2 => cases done
  · rintro ⟨known, done⟩
    unfold update
    rw [get?_ownName known, known]
    exact done

/-- The names and values that a mapping is read as are entries of it. -/
theorem mem_of_mapM {α β : Type} {f : α → Option β} {items : List α} {read : List β}
    (done : items.mapM f = some read) {b : β} (mem : b ∈ read) : ∃ a ∈ items, f a = some b := by
  induction items generalizing read with
  | nil =>
    cases done
    cases mem
  | cons a rest ih =>
    rw [List.mapM_cons] at done
    cases first : f a with
    | none =>
      rw [first] at done
      cases done
    | some b' =>
      cases others : rest.mapM f with
      | none =>
        rw [first, others] at done
        cases done
      | some read' =>
        rw [first, others] at done
        cases done
        cases mem with
        | head => exact ⟨a, List.mem_cons_self, first⟩
        | tail _ mem =>
          obtain ⟨a', mem', found⟩ := ih others mem
          exact ⟨a', List.mem_cons_of_mem _ mem', found⟩

/-- The name and the value of an entry under a text. -/
def namedEntry? (entry : Value × Value) : Option (Text × Value) :=
  match entry.1 with
  | .str name => some (name, entry.2)
  | _ => none

/-- The entries of a mapping by their names; what counts as false has none. -/
def namedEntries? (patch : Value) : Option (Table Value) :=
  let entries? : Option Mapping :=
    if !patch.truthy then some []
    else match patch with
      | .map entries => some entries
      | _ => none
  entries?.bind fun entries => entries.mapM namedEntry?

theorem reconfigure_eq (c : Config) (patch : Value) (more : Table Value) :
    c.reconfigure patch more = (namedEntries? patch).elim (.error (.misuse .wrongType))
      fun table => c.update (table.overlay more) := by
  unfold reconfigure
  simp only
  split
  case h_1 table read =>
    have read : namedEntries? patch = some table := read
    rw [read]
    rfl
  case h_2 read =>
    have read : namedEntries? patch = none := read
    rw [read]
    rfl

theorem mem_of_namedEntries? {patch : Value} {table : Table Value}
    (read : namedEntries? patch = some table) {name : Text} {v : Value}
    (mem : (name, v) ∈ table) : ∃ entries, patch = .map entries ∧ (.str name, v) ∈ entries := by
  obtain ⟨entries, listed, named⟩ := Option.bind_eq_some_iff.1 read
  obtain ⟨⟨key, v'⟩, mem', found⟩ := mem_of_mapM named mem
  refine ⟨entries, ?_, ?_⟩
  · split at listed
    · cases listed
      cases mem'
    · split at listed
      · cases listed
        rfl
      · cases listed
  · cases key with
    | str key =>
      cases found
      exact mem'
    | _ => cases found

/-- Changing settings by a mapping and by name comes to one patch, whose entries are of the one or
the other, or fails whatever there is to change. -/
theorem reconfigure_cases (patch : Value) (more : Table Value) :
    (∃ table, (∀ c : Config, c.reconfigure patch more = c.update table) ∧
      ∀ name v, (name, v) ∈ table → (name, v) ∈ more ∨
        ∃ entries, patch = .map entries ∧ (.str name, v) ∈ entries) ∨
    ∀ c : Config, c.reconfigure patch more = .error (.misuse .wrongType) := by
  simp only [reconfigure_eq]
  cases read : namedEntries? patch with
  | none => exact .inr fun c => rfl
  | some table =>
    refine .inl ⟨table.overlay more, fun c => rfl, fun name v mem => ?_⟩
    obtain own | given := Table.mem_of_mem_overlay mem
    · exact .inr (mem_of_namedEntries? read own)
    · exact .inl given

/-! ## Calls -/

/-- What a configuration is made of. -/
inductive Origin where
  | settings (given : Table Value)
  /-- The system's environment variables, with settings that take precedence. -/
  | environment (surroundings : Table String) (given : Table Value)

/-- The configuration made of an origin. -/
def Origin.result : Origin → Except Fault Config
  | .settings given => build given
  | .environment surroundings given => ofVariables surroundings given

/-- A call that succeeds has copied every setting; one that fails has copied none. -/
theorem Change.call_eq (change : Change) (c : Config) :
    change.call c =
      match change.result c with
      | .ok updated => .ok () updated
      | .error fault => .error fault c := by
  show (match change.result c with
    | .ok updated => Setting.all.forM fun s => modify fun c => copy updated c s
    | .error fault => throw fault : EStateM Fault Config Unit) c = _
  cases change.result c <;> rfl

/-- The configuration that a call leaves, whether it succeeds or fails. -/
def Change.left (change : Change) (c : Config) : Config :=
  match change.call c with
  | .ok _ c' => c'
  | .error _ c' => c'

theorem Change.left_eq (change : Change) (c : Config) :
    change.left c = (change.result c).toOption.getD c := by
  unfold left
  rw [call_eq]
  cases change.result c <;> rfl

/-! ## Configurations that pass their own checks -/

/-- A configuration whose host has no slash at its end, and whose timeout passes its check. -/
structure Sound (c : Config) : Prop where
  host : trimHost c.apiHost = c.apiHost
  timeout : checkTimeout c.requestTimeout = .ok ()

theorem sound_of_patched (done : c.patched patch = .ok c') : c'.Sound := by
  obtain ⟨host, -, passed, trimmed, others⟩ := patched_eq_ok_iff.1 done
  have timeout : c'.requestTimeout = c.chosen patch .requestTimeout := others .requestTimeout nofun
  constructor
  · rw [trimmed]
    exact trimHost_of_getLast? (getLast?_trimHost host)
  · rwa [timeout]

theorem sound_of_build {given : Table Value} (made : build given = .ok c) : c.Sound := by
  unfold build at made
  split at made
  case isTrue => exact sound_of_patched made
  case isFalse => cases made

/-- Environment variables only add to the settings that a configuration is built of. -/
theorem exists_build_of_ofVariables {surroundings : Table String} {given : Table Value}
    (made : ofVariables surroundings given = .ok c) :
    ∃ more, build (Table.overlay more given) = .ok c ∧
      ∀ v, (.plain Setting.requestTimeout.name, v) ∈ more →
        ∃ text d, surroundings.get? "MINIPANEL_REQUEST_TIMEOUT" = some text ∧
          Double.read? text.toList = some d ∧ v = .float d := by
  unfold ofVariables at made
  split at made
  case isTrue => cases made
  case isFalse =>
    -- the variables that hold texts and the flag are other settings'
    have untimed {v flag : Value} {flagged : Bool} : (Text.plain Setting.requestTimeout.name, v) ∉
        (List.filterMap (fun x : String × Setting => (surroundings.get? x.1).map fun text =>
            (Text.plain x.2.name, Value.str (.plain text)))
          [("MINIPANEL_API_HOST", .apiHost), ("MINIPANEL_PERSISTENCE_NAME", .persistenceName),
            ("MINIPANEL_STORAGE_PATH", .storagePath)]) ++
          if flagged then [] else [(.plain Setting.debug.name, flag)] := by
      cases flagged <;> simp [Setting.name]
    simp only at made
    split at made
    case h_1 =>
      exact ⟨_, made, fun v mem => absurd mem untimed⟩
    case h_2 text read =>
      split at made
      case isTrue =>
        exact ⟨_, made, fun v mem => absurd mem untimed⟩
      case isFalse =>
        split at made
        case h_2 => cases made
        case h_1 d number =>
          refine ⟨_, made, fun v mem => ?_⟩
          obtain earlier | timed := List.mem_append.1 mem
          · exact absurd earlier untimed
          · exact ⟨text, d, read, number, (Prod.mk.inj (List.mem_singleton.1 timed)).2⟩

theorem Origin.sound {origin : Origin} (made : origin.result = .ok c) : c.Sound := by
  cases origin with
  | settings given => exact sound_of_build made
  | environment surroundings given =>
    obtain ⟨more, made, -⟩ := exists_build_of_ofVariables made
    exact sound_of_build made

theorem Change.sound_of_result {change : Change} (done : change.result c = .ok c') : c'.Sound := by
  cases change with
  | update patch => exact sound_of_patched (update_eq_ok_iff.1 done).2
  | reconfigure patch more =>
    obtain ⟨table, same, -⟩ | fails := reconfigure_cases patch more
    · have done : c.reconfigure patch more = .ok c' := done
      rw [same] at done
      exact sound_of_patched (update_eq_ok_iff.1 done).2
    · have done : c.reconfigure patch more = .ok c' := done
      rw [fails] at done
      cases done

theorem Sound.left (sound : c.Sound) (change : Change) : (change.left c).Sound := by
  rw [Change.left_eq]
  cases done : change.result c with
  | ok c' => exact Change.sound_of_result done
  | error fault => exact sound

/-- The configuration that calls leave one after another. -/
def after (first : Config) (changes : List Change) : Config :=
  changes.foldl (fun c change => change.left c) first

theorem Sound.after (sound : c.Sound) (changes : List Change) : (c.after changes).Sound := by
  induction changes generalizing c with
  | nil => exact sound
  | cons change changes ih => exact ih (sound.left change)

/-! ## What a patch does -/

/-- What is wrong with a patch whatever it is to change: a name that is no setting's, a host that is
no text, or a timeout that does not pass its check. -/
inductive Faulty (patch : Table Value) : Prop where
  | name {name : Text} (mem : name ∈ patch.map Prod.fst) (unknown : Setting.ofName? name = none)
  | host {v : Value} (given : patch.get? Setting.apiHost.name = some v)
    (noText : ∀ host, v ≠ .str host)
  | timeout {v : Value} {fault : Fault} (given : patch.get? Setting.requestTimeout.name = some v)
    (refused : checkTimeout v = .error fault)

theorem chosen_of_get?_eq_some {s : Setting} {v : Value} (given : patch.get? s.name = some v) :
    c.chosen patch s = v := by
  rw [chosen, given, Option.getD_some]

theorem chosen_of_get?_eq_none {s : Setting} (left : patch.get? s.name = none) :
    c.chosen patch s = c.get s := by
  rw [chosen, left, Option.getD_none]

theorem not_faulty_of_update (done : c.update patch = .ok c') : ¬ Faulty patch := by
  obtain ⟨known, done⟩ := update_eq_ok_iff.1 done
  obtain ⟨host, text, passed, -⟩ := patched_eq_ok_iff.1 done
  intro faulty
  cases faulty with
  | name mem unknown => exact unknownNames_eq_nil_iff.1 known _ mem unknown
  | host given noText =>
    rw [chosen_of_get?_eq_some given] at text
    exact noText host text
  | timeout given refused =>
    rw [chosen_of_get?_eq_some given, refused] at passed
    cases passed

/-- The settings that a patch leaves out are no reason to refuse it. -/
theorem Sound.exists_update_eq_ok (sound : c.Sound) (faultless : ¬ Faulty patch) :
    ∃ c', c.update patch = .ok c' := by
  have known : unknownNames patch = [] :=
    unknownNames_eq_nil_iff.2 fun name mem unknown => faultless (.name mem unknown)
  have text : ∃ host, c.chosen patch .apiHost = .str host := by
    cases given : patch.get? Setting.apiHost.name with
    | none => exact ⟨c.apiHost, chosen_of_get?_eq_none given⟩
    | some v =>
      rw [chosen_of_get?_eq_some given]
      by_contra noText
      exact faultless (.host given fun host same => noText ⟨host, same⟩)
  have passed : checkTimeout (c.chosen patch .requestTimeout) = .ok () := by
    cases given : patch.get? Setting.requestTimeout.name with
    | none =>
      rw [chosen_of_get?_eq_none given]
      exact sound.timeout
    | some v =>
      rw [chosen_of_get?_eq_some given]
      cases checked : checkTimeout v with
      | ok => rfl
      | error fault => exact absurd (.timeout given checked) faultless
  obtain ⟨host, text⟩ := text
  let updated : Config := {
    apiHost := trimHost host
    debug := c.chosen patch .debug
    persistenceName := c.chosen patch .persistenceName
    storagePath := c.chosen patch .storagePath
    requestTimeout := c.chosen patch .requestTimeout }
  refine ⟨updated, update_eq_ok_iff.2 ⟨known, patched_eq_ok_iff.2 ⟨host, text, passed, rfl, ?_⟩⟩⟩
  intro s other
  cases s with
  | apiHost => exact absurd rfl other
  | debug | persistenceName | storagePath | requestTimeout => rfl

/-- What a patch leaves out stays, and what it gives is as given, but for slashes at the end of the
host. -/
theorem Sound.get_of_update (sound : c.Sound) (done : c.update patch = .ok c') (s : Setting) :
    (patch.get? s.name = none → c'.get s = c.get s) ∧
    ∀ v, patch.get? s.name = some v →
      if s = .apiHost then ∃ n, v = .str (c'.apiHost ++ .plain (String.ofList (List.replicate n '/')))
      else c'.get s = v := by
  obtain ⟨host, text, -, trimmed, others⟩ := patched_eq_ok_iff.1 (update_eq_ok_iff.1 done).2
  by_cases isHost : s = .apiHost
  case neg =>
    rw [others s isHost]
    simp only [if_neg isHost]
    exact ⟨chosen_of_get?_eq_none, fun v => chosen_of_get?_eq_some⟩
  case pos =>
    subst isHost
    constructor
    · intro left
      rw [chosen_of_get?_eq_none left] at text
      have same : c.apiHost = host := Value.str.inj text
      rw [get, get, trimmed, ← same, sound.host]
    · intro v given
      rw [chosen_of_get?_eq_some given] at text
      obtain ⟨n, split⟩ := exists_eq_trimHost_append host
      rw [if_pos rfl, text, trimmed]
      exact ⟨n, congrArg Value.str split⟩

theorem get?_overlay {more : Table Value}
    (distinct : Entries.Distinct (fun a b => decide (a = b)) more) (name : Text) :
    (patch.overlay more).get? name = (more.get? name).or (patch.get? name) := by
  rw [Table.get?, Table.overlay, Entries.find?_overlay keyEquality_decide,
    Entries.find?_reverse keyEquality_decide distinct]
  rfl

/-- Two patches in a row come to the first with the second laid over it. -/
theorem update_overlay {more : Table Value} {c'' : Config}
    (distinct : Entries.Distinct (fun a b => decide (a = b)) more)
    (first : c.update patch = .ok c') (second : c'.update more = .ok c'') :
    c.update (patch.overlay more) = .ok c'' := by
  obtain ⟨known, first⟩ := update_eq_ok_iff.1 first
  obtain ⟨known', second⟩ := update_eq_ok_iff.1 second
  obtain ⟨host, text, passed, trimmed, others⟩ := patched_eq_ok_iff.1 first
  obtain ⟨host', text', passed', trimmed', others'⟩ := patched_eq_ok_iff.1 second
  have both (s : Setting) (other : s ≠ .apiHost) :
      c.chosen (patch.overlay more) s = c'.chosen more s := by
    rw [chosen, chosen, get?_overlay distinct, others s other, chosen]
    cases more.get? s.name <;> rfl
  refine update_eq_ok_iff.2 ⟨?_, patched_eq_ok_iff.2 ?_⟩
  · refine unknownNames_eq_nil_iff.2 fun name mem => ?_
    obtain ⟨entry, here, rfl⟩ := List.mem_map.1 mem
    obtain before | given := Table.mem_of_mem_overlay here
    · exact unknownNames_eq_nil_iff.1 known _ (List.mem_map_of_mem before)
    · exact unknownNames_eq_nil_iff.1 known' _ (List.mem_map_of_mem given)
  · have shared : c''.apiHost = trimHost host' ∧ ∀ s, s ≠ .apiHost →
        c''.get s = c.chosen (patch.overlay more) s :=
      ⟨trimmed', fun s other => by rw [others' s other, both s other]⟩
    have passed' : checkTimeout (c.chosen (patch.overlay more) .requestTimeout) = .ok () := by
      rwa [both .requestTimeout nofun]
    cases given : more.get? Setting.apiHost.name with
    | some v =>
      refine ⟨host', ?_, passed', shared⟩
      rw [chosen, get?_overlay distinct, given]
      rwa [chosen_of_get?_eq_some given] at text'
    | none =>
      -- the second patch trims the host that the first one trimmed
      rw [chosen_of_get?_eq_none given] at text'
      have same : c'.apiHost = host' := Value.str.inj text'
      refine ⟨host, ?_, passed', ?_, shared.2⟩
      · rw [chosen, get?_overlay distinct, given]
        exact text
      · rw [shared.1, ← same, trimmed, trimHost_of_getLast? (getLast?_trimHost host)]

theorem call_update_eq_ok_iff {left : Config} :
    (Change.update patch).call c = .ok () left ↔ c.update patch = .ok left := by
  rw [Change.call_eq, Change.result]
  cases c.update patch <;> simp

/-- Changing settings by a mapping and by name is one patch, unless the mapping cannot be read. -/
theorem call_reconfigure (patch : Value) (more : Table Value) (c : Config) :
    (Change.reconfigure patch more).call c =
      (namedEntries? patch).elim (.error (.misuse .wrongType) c)
        fun table => (Change.update (table.overlay more)).call c := by
  rw [Change.call_eq, Change.result, reconfigure_eq]
  cases namedEntries? patch with
  | none => rfl
  | some table => exact (Change.call_eq (.update _) c).symm

/-- Whatever calls came before, a patch changes nothing if it fails, and else it changes exactly the
settings that it names; whether it fails is a matter of the patch; two patches in a row are one; and
so is what is given by a mapping and by name. No configuration has a host with a slash at its
end. -/
theorem update_atomic_exact {origin : Origin} {first : Config} (made : origin.result = .ok first)
    (changes : List Change) (patch : Table Value) :
    let c := first.after changes
    (∀ fault left, (Change.update patch).call c = .error fault left → left = c) ∧
    (∀ left, (Change.update patch).call c = .ok () left → ∀ s : Setting,
      (patch.get? s.name = none → left.get s = c.get s) ∧
      ∀ v, patch.get? s.name = some v →
        if s = .apiHost then ∃ n, v = .str (left.apiHost ++ .plain (String.ofList (List.replicate n '/')))
        else left.get s = v) ∧
    c.apiHost.points.getLast? ≠ some (.char '/') ∧
    ((∃ fault left, (Change.update patch).call c = .error fault left) ↔ Faulty patch) ∧
    (∀ (more : Table Value) (left left' : Config),
      Entries.Distinct (fun a b => decide (a = b)) more →
      (Change.update patch).call c = .ok () left → (Change.update more).call left = .ok () left' →
      (Change.update (patch.overlay more)).call c = .ok () left') ∧
    ∀ given : Value, (Change.reconfigure given patch).call c =
      (namedEntries? given).elim (.error (.misuse .wrongType) c)
        fun table => (Change.update (table.overlay patch)).call c := by
  intro c
  have sound : c.Sound := (Origin.sound made).after changes
  refine ⟨?_, ?_, ?_, ?_, ?_, fun given => call_reconfigure given patch c⟩
  · intro fault left failed
    rw [Change.call_eq] at failed
    split at failed <;> cases failed
    rfl
  · intro left done
    exact sound.get_of_update (call_update_eq_ok_iff.1 done)
  · rw [← sound.host]
    exact getLast?_trimHost _
  · constructor
    · rintro ⟨fault, left, failed⟩
      by_contra faultless
      obtain ⟨c', done⟩ := sound.exists_update_eq_ok faultless
      rw [call_update_eq_ok_iff.2 done] at failed
      cases failed
    · intro faulty
      cases done : (Change.update patch).call c with
      | ok done' left => exact absurd faulty (not_faulty_of_update (call_update_eq_ok_iff.1 done))
      | error fault left => exact ⟨fault, left, rfl⟩
  · intro more left left' distinct done done'
    rw [call_update_eq_ok_iff] at done done' ⊢
    exact update_overlay distinct done done'

/-- A configuration that has been changed, with one call in between that failed, keeps its settings
when a timeout is refused for being a text. -/
theorem update_atomic_exact_text_timeout :
    ∃ first, (Origin.settings [("api_host", .str "https://a.example//")]).result = .ok first ∧
      let c := first.after [.update [("host", .null)], .reconfigure .null [("debug", .bool true)]]
      ∃ fault, (Change.update [("debug", .null), ("request_timeout", .str "5")]).call c =
        .error fault c := by
  let origin : Origin := .settings [("api_host", .str "https://a.example//")]
  have made : origin.result = .ok { standard with apiHost := "https://a.example" } := rfl
  obtain ⟨unchanged, -, -, fails, -⟩ := update_atomic_exact made
    [.update [("host", .null)], .reconfigure .null [("debug", .bool true)]]
    [("debug", .null), ("request_timeout", .str "5")]
  refine ⟨_, made, ?_⟩
  obtain ⟨fault, left, failed⟩ := fails.2 (.timeout rfl rfl)
  have same := unchanged fault left failed
  rw [same] at failed
  exact ⟨fault, failed⟩

end Config

end EventTracker
