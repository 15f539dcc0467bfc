import EventTracker.Proofs.Storage.Reliability
import EventTracker.Proofs.Store.Durability
import EventTracker.Proofs.Store.Partition
import EventTracker.Proofs.Store.Texts

/-!
# An identity that is found again

Over a storage that never fails, what is stored would be loaded as the normal form of the
last bag that could be written. The values of the identity are texts or have been loaded
before, so they are found as they are, and a store that is opened on the same storage
resumes the identity of that bag.
-/

namespace EventTracker

/-- The entries of the identity in a bag. -/
def Mapping.identity (m : Mapping) : Mapping := m.filter fun entry => isReserved entry.1

theorem Mapping.text?_identity (m : Mapping) {key : String} (reserved : key ∈ reservedKeys) :
    m.identity.text? key = m.text? key :=
  Entries.find?_filter_of_kept isReserved_congr (isReserved_iff.2 ⟨key, reserved, rfl⟩) m

/-- Bags with the same entries of the identity agree on its keys. -/
theorem Mapping.text?_of_identity {m m' : Mapping} (same : m'.identity = m.identity) {key : String}
    (reserved : key ∈ reservedKeys) : m'.text? key = m.text? key := by
  rw [← text?_identity m' reserved, same, text?_identity m reserved]

theorem Mapping.identity_overlay {m patch : Mapping}
    (own : ∀ entry ∈ patch, isReserved entry.1 = false) :
    Mapping.identity (m.overlay patch) = m.identity :=
  Entries.filter_overlay_of_dropped isReserved_congr own m

theorem Mapping.identity_erase (m : Mapping) {key : Value} (own : isReserved key = false) :
    Mapping.identity (m.erase key) = m.identity := by
  rw [identity, identity, erase, Entries.erase, List.filter_filter]
  refine List.filter_congr fun entry _ => ?_
  cases same : entry.1.sameKey key with
  | true => rw [isReserved_congr _ _ same, own]; rfl
  | false => exact Bool.and_true _

/-- Reserved keys are no joined forms but their own. -/
theorem narrow_of_reserved {key : String} (reserved : key ∈ reservedKeys) :
    ∀ c ∈ key.toList, c.toNat < 0x10000 := by
  have all : reservedKeys.all (fun key => key.toList.all fun c => c.toNat < 0x10000) = true := rfl
  have chars := List.all_eq_true.1 all key reserved
  exact fun c mem => of_decide_eq_true (List.all_eq_true.1 chars c mem)

theorem find?_normalEntries {entries : Mapping} (texts : Schema.hasTextKeys entries = true)
    {name : String} (narrow : ∀ c ∈ name.toList, c.toNat < 0x10000) :
    Entries.find? Value.sameKey (.str name) (Value.normalEntries entries) =
      (Entries.find? Value.sameKey (.str name) entries).map Value.normal := by
  rw [Value.normalEntries_eq_map]
  rw [Schema.hasTextKeys_iff] at texts
  induction entries with
  | nil => rfl
  | cons entry rest ih =>
    rw [List.forall_mem_cons] at texts
    obtain ⟨⟨t, text⟩, texts⟩ := texts
    have same : (Value.str (Value.keySpelling entry.1).joined).sameKey (.str name) =
        entry.1.sameKey (.str name) := by
      rw [text]
      apply Bool.eq_iff_iff.2
      rw [Value.sameKey_str_iff, Value.sameKey_str_iff, Value.str.injEq, Value.str.injEq]
      exact Text.joined_eq_plain_iff narrow
    rw [List.map_cons, Entries.find?_cons, Entries.find?_cons, ih texts, same]
    split <;> rfl

/-- Under texts, loading what was saved puts the value under a reserved key into its normal form. -/
theorem text?_normalBag {m : Mapping} (keyed : m.TextKeyed) {key : String}
    (reserved : key ∈ reservedKeys) :
    (normalBag m).text? key = (m.text? key).map Value.normal := by
  have narrow := narrow_of_reserved reserved
  have texts : Schema.hasTextKeys m.reverse = true :=
    Schema.hasTextKeys_iff.2 fun entry mem =>
      Schema.hasTextKeys_iff.1 keyed.texts entry (List.mem_reverse.1 mem)
  have reversed : (Value.normalEntries m).reverse = Value.normalEntries m.reverse := by
    rw [Value.normalEntries_eq_map, Value.normalEntries_eq_map, List.map_reverse]
  rw [Mapping.text?, Mapping.text?, Mapping.get?, Mapping.get?, normalBag,
    ← Entries.ofList_eq_latest keyEquality_sameKey, Entries.ofList,
    Entries.find?_overlay keyEquality_sameKey, reversed, find?_normalEntries texts narrow,
    Entries.find?_reverse keyEquality_sameKey keyed.distinct, Entries.find?_nil, Option.or_none]

/-- A bag whose identity is found again: the keys are texts, and the values of the identity are their
own normal forms where no surrogate stands in them. -/
structure Mapping.Resumable (m : Mapping) : Prop where
  keyed : m.TextKeyed
  settled : ∀ entry ∈ m.identity, entry.2.isProper = true → entry.2.normal = entry.2

/-- The identity of a bag as another one resumes it: as JSON gives it back, or, if what is stored was
left untouched, as it is. Where no surrogate stands in it, that is as it is anyway. -/
structure Mapping.Resumes (m m' : Mapping) (untouched : Prop) : Prop where
  found : (∀ key ∈ reservedKeys, m'.text? key = (m.text? key).map Value.normal) ∨
    untouched ∧ ∀ key ∈ reservedKeys, m'.text? key = m.text? key
  proper : ∀ key ∈ reservedKeys, ∀ v, m.text? key = some v → v.isProper = true →
    m'.text? key = some v

namespace Mapping.Resumable

variable {m m' : Mapping}

theorem empty : Resumable [] := ⟨.empty, List.forall_mem_nil _⟩

theorem of_isKeyed (keyed : (Value.map m).IsKeyed) : m.Resumable :=
  ⟨.of_isKeyed keyed, fun entry mem => keyed.2.2 entry (List.mem_filter.1 mem).1⟩

theorem of_identity (resumable : m.Resumable) (keyed : m'.TextKeyed)
    (same : m'.identity = m.identity) : m'.Resumable :=
  ⟨keyed, same ▸ resumable.settled⟩

/-- Entries of the identity may be put on top. -/
theorem overlay (resumable : m.Resumable) {entries : List (String × Value)}
    (reserved : ∀ entry ∈ entries, entry.1 ∈ reservedKeys)
    (normal : ∀ entry ∈ entries, entry.2.isProper = true → entry.2.normal = entry.2) :
    Resumable (m.overlay (entries.map fun (k, v) => (.str k, v))) := by
  have texts : Schema.hasTextKeys (entries.map fun (k, v) => (.str k, v)) = true :=
    Schema.hasTextKeys_map (fun _ => ⟨_, rfl⟩) entries
  refine ⟨resumable.keyed.overlay texts, ?_⟩
  rw [identity, Mapping.overlay,
    Entries.filter_overlay_of_kept isReserved_congr (isReserved_of_texts reserved)]
  intro entry mem
  refine (Entries.forall_overlay (P := fun _ => True)
    (Q := fun v => v.isProper = true → Value.normal v = v)
    (fun entry mem => ⟨trivial, resumable.settled entry mem⟩) (fun entry mem => ⟨trivial, ?_⟩)
    entry mem).2
  obtain ⟨given, here, rfl⟩ := List.mem_map.1 mem
  exact normal given here

theorem normal_of_text? (resumable : m.Resumable) {key : String} (reserved : key ∈ reservedKeys)
    {v : Value} (held : m.text? key = some v) (proper : v.isProper = true) : v.normal = v := by
  rw [← text?_identity m reserved] at held
  obtain ⟨entry, found, rfl⟩ := Option.map_eq_some_iff.1 held
  exact resumable.settled entry (List.mem_of_find?_eq_some found) proper

theorem resumes (resumable : m.Resumable) {untouched : Prop}
    (found : (∀ key ∈ reservedKeys, m'.text? key = (m.text? key).map Value.normal) ∨
      untouched ∧ ∀ key ∈ reservedKeys, m'.text? key = m.text? key) : m.Resumes m' untouched := by
  refine ⟨found, fun key reserved v held proper => ?_⟩
  obtain normal | ⟨-, same⟩ := found
  · rw [normal key reserved, held, Option.map_some,
      resumable.normal_of_text? reserved held proper]
  · exact (same key reserved).trans held

end Mapping.Resumable

namespace Store

/-- Whether a bag can be written. -/
def writable (props : Mapping) : Bool := (storedText? props).isSome

/-- The last bag that could be written, after another one was to be saved. -/
def lastWritten (last props : Mapping) : Mapping := if writable props then props else last

/-- A store over a storage that never fails, whose stored content would be loaded as the normal form
of the last bag that could be written, or as that bag if it is what was there at first. -/
structure Mirrored (first : Value) (last : Mapping) (s : Store) : Prop where
  reliable : s.toDisk.Reliable s.name
  bag : s.props.Resumable
  resumable : last.Resumable
  stored : ∃ content, s.get s.name = .ok content ∧
    ((storedBag? content).getD [] = normalBag last ∨
      content = first ∧ (storedBag? content).getD [] = last)
  latest : writable s.props = true → last = s.props

variable {s s₀ t : Store} {first : Value} {last : Mapping}

theorem Mirrored.lastWritten_eq (mirrored : Mirrored first last s) : lastWritten last s.props = last := by
  unfold lastWritten
  split
  case isTrue able => exact (mirrored.latest able).symm
  case isFalse => rfl

/-- What changes only the log keeps the store mirrored. -/
theorem Mirrored.quiet (mirrored : Mirrored first last s) (disk : ∃ log, t.toDisk = { s.toDisk with log })
    (name : t.name = s.name) (props : t.props = s.props) : Mirrored first last t := by
  obtain ⟨log, disk⟩ := disk
  have got : t.get t.name = s.get s.name := by rw [disk, name]; rfl
  refine ⟨?_, props ▸ mirrored.bag, mirrored.resumable, ?_, props ▸ mirrored.latest⟩
  · rw [disk, name]
    exact mirrored.reliable.of_reaches (.record log .start)
  · rw [got]
    exact mirrored.stored

theorem Mirrored.of_sameBut (mirrored : Mirrored first last s) (same : SameBut s t) :
    Mirrored first last t := by
  refine mirrored.quiet ⟨t.log, ?_⟩ same.name same.props
  rw [Disk.mk.injEq]
  exact ⟨same.storage, same.files, rfl⟩

/-- A bag that can be written is stored when it is saved. -/
theorem mirrored_save_of_writable (reliable : s.toDisk.Reliable s.name) (bag : s.props.Resumable)
    (able : writable s.props = true) : Mirrored first s.props s.save := by
  obtain ⟨text, written⟩ := Option.isSome_iff_exists.1 able
  obtain ⟨disk, stored⟩ : ∃ disk, s.set s.name (.str text) = (disk, none) :=
    ⟨_, Prod.ext rfl (reliable.sets .start text)⟩
  have saved : s.save = s.onDisk disk := by
    unfold save
    rw [written]
    simp only [stored]
  have encoded : Json.encode true (.map s.props) = .ok text := by
    rw [storedText?] at written
    cases encoded : Json.encode true (.map s.props) with
    | error cause => rw [encoded] at written; cases written
    | ok text' => rw [encoded] at written; cases written; rfl
  have reached : s.toDisk.Reaches s.name (s.set s.name (.str text)).1 := .set text .start
  have got := reliable.get_set (Json.uncontrolled_encode encoded)
  rw [stored] at reached got
  rw [saved]
  refine ⟨reliable.of_reaches reached, bag, bag, ⟨.str text, got, .inl ?_⟩, fun _ => rfl⟩
  rw [storedBag?_of_encode encoded]
  rfl

/-- Saving another bag. -/
theorem Mirrored.saveWith (mirrored : Mirrored first last s) {props : Mapping} (bag : props.Resumable) :
    Mirrored first (lastWritten last props) (save { s with props }) := by
  cases able : writable props with
  | true =>
    rw [lastWritten, if_pos able]
    exact mirrored_save_of_writable (s := { s with props }) mirrored.reliable bag able
  | false =>
    have unwritten : storedText? props = none := by
      rwa [writable, Option.isSome_eq_false_iff, Option.isNone_iff_eq_none] at able
    have saved : save { s with props } =
        recordFailure { s with props } "Error saving persistence %s" := by
      unfold save
      simp only [unwritten]
    rw [lastWritten, if_neg (by rw [able]; decide), saved]
    exact ⟨mirrored.reliable.of_reaches (.record _ .start), bag, mirrored.resumable,
      mirrored.stored, fun able' => absurd (able.symm.trans able') (by decide)⟩

theorem Mirrored.clear (mirrored : Mirrored first last s) : Mirrored first [] s.clear := by
  obtain ⟨disk, removed⟩ : ∃ disk, s.remove s.name = (disk, none) :=
    ⟨_, Prod.ext rfl (mirrored.reliable.removes .start)⟩
  have cleared : s.clear = ({ s with props := [] } : Store).onDisk disk := by
    unfold Store.clear
    simp only [removed]
  have reached : s.toDisk.Reaches s.name (s.remove s.name).1 := .remove .start
  have got := mirrored.reliable.get_remove
  rw [removed] at reached got
  rw [cleared]
  exact ⟨mirrored.reliable.of_reaches reached, .empty, .empty, ⟨.null, got, .inl rfl⟩, fun _ => rfl⟩

/-- A store that has been opened mirrors what it has loaded, which can be written. -/
theorem mirrored_load (reliable : s.toDisk.Reliable s.name) (empty : s.props = []) :
    ∃ first, s.get s.name = .ok first ∧ Mirrored first s.load.props s.load ∧
      ∀ entry ∈ s.load.props, Acceptable entry := by
  obtain ⟨content, got⟩ := reliable.gets .start
  have props := load_props s got
  rw [empty] at props
  obtain ⟨acceptable, bag⟩ : (∀ entry ∈ s.load.props, Acceptable entry) ∧
      s.load.props.Resumable := by
    rw [props]
    cases found : storedBag? content with
    | none => exact ⟨List.forall_mem_nil _, .empty⟩
    | some entries => exact ⟨acceptable_of_storedBag? found, .of_isKeyed (isKeyed_of_storedBag? found)⟩
  have read : Mirrored content s.load.props { s with props := s.load.props } :=
    ⟨reliable, bag, bag, ⟨content, got, .inr ⟨rfl, props.symm⟩⟩, fun _ => rfl⟩
  refine ⟨content, got, read.quiet ⟨s.load.log, ?_⟩ s.load_name rfl, acceptable⟩
  rw [Disk.mk.injEq]
  exact ⟨s.load_storage, s.load_files, rfl⟩

/-! ## Calls -/

/-- What a call makes of a store that mirrors the last bag that could be written: one that mirrors
the last one after the call. -/
structure Goes (first : Value) (last : Mapping) (s t : Store) : Prop where
  mirrored : Mirrored first (lastWritten last t.props) t
  name : t.name = s.name
  named : s.distinctId ≠ "" → t.distinctId ≠ ""

theorem Mirrored.goes (mirrored : Mirrored first last s) : Goes first last s s :=
  ⟨mirrored.lastWritten_eq.symm ▸ mirrored, rfl, id⟩

theorem distinctId_of_identity (same : t.props.identity = s.props.identity) :
    t.distinctId = s.distinctId := by
  have reserved : distinctIdKey ∈ reservedKeys := by decide
  have held := Mapping.text?_of_identity same reserved
  rw [distinctId, distinctId, held]

theorem writable_of_acceptable {props : Mapping} (all : ∀ entry ∈ props, Acceptable entry) :
    writable props = true := by
  obtain ⟨text, written, -⟩ := exists_storedText?_eq all
  rw [writable, written]
  rfl

theorem Mirrored.registerEntries (mirrored : Mirrored first last s) {entries : List (String × Value)}
    (reserved : ∀ entry ∈ entries, entry.1 ∈ reservedKeys)
    (normal : ∀ entry ∈ entries, entry.2.isProper = true → entry.2.normal = entry.2) :
    Mirrored first (lastWritten last (s.registerEntries entries).props) (s.registerEntries entries) := by
  rw [registerEntries_props]
  exact mirrored.saveWith (mirrored.bag.overlay reserved normal)

theorem Mirrored.enterAnonymous (mirrored : Mirrored first last s) :
    Mirrored first (lastWritten last s.enterAnonymous.props) s.enterAnonymous := by
  have drawn : Mirrored first last { s with ids := s.ids.device.2 } := mirrored.quiet ⟨s.log, rfl⟩ rfl rfl
  exact (drawn.registerEntries (by simp [reservedKeys]) (by simp [Value.normal])).quiet
    ⟨_, rfl⟩ rfl rfl

theorem writable_enterAnonymous (all : ∀ entry ∈ s.props, Acceptable entry) :
    writable s.enterAnonymous.props = true := by
  have text : ∀ k text : String, Acceptable (.str k, .str text) := fun _ _ =>
    acceptable_iff.2 ⟨rfl, rfl, show 0 + 1 ≤ maxDepth by decide⟩
  refine writable_of_acceptable ?_
  rw [Store.enterAnonymous, record_props, registerEntries_props]
  exact acceptable_overlay all (by simp [text])

theorem enterAnonymous_name (s : Store) : s.enterAnonymous.name = s.name := by
  rw [enterAnonymous]
  exact save_name _

theorem Mirrored.goes_reset (mirrored : Mirrored first last s) : Goes first last s s.reset := by
  have entered := mirrored.clear.enterAnonymous
  have able : writable s.clear.enterAnonymous.props = true :=
    writable_enterAnonymous (by rw [clear_props]; exact List.forall_mem_nil _)
  rw [entered.latest able] at entered
  refine ⟨?_, ?_, fun _ => distinctId_enterAnonymous _⟩
  · rw [lastWritten, reset, if_pos able]
    exact entered
  · rw [reset, enterAnonymous_name, clear_name]

theorem Mirrored.goes_identify (mirrored : Mirrored first last s) (id : Value) :
    Goes first last s (s.identify id).1 := by
  cases id with
  | str text =>
    rw [Store.identify]
    split
    case isTrue => exact mirrored.goes
    case isFalse nonempty =>
      refine ⟨mirrored.registerEntries (by simp [reservedKeys]) ?_, save_name _, fun _ => ?_⟩
      · simpa [Value.normal, Value.isProper] using Text.joined_of_isProper
      rwa [distinctId_registerEntries s text (by decide)]
  | _ => exact mirrored.goes

/-! ## Super-properties -/

/-- Saving a bag with the same identity. -/
theorem Mirrored.goes_save (mirrored : Mirrored first last s) {props : Mapping} (keyed : props.TextKeyed)
    (same : props.identity = s.props.identity) : Goes first last s (save { s with props }) := by
  have saved := mirrored.saveWith (mirrored.bag.of_identity keyed same)
  refine ⟨?_, save_name _, fun named => ?_⟩
  · rw [save_props]
    exact saved
  · have still : (save { s with props }).props.identity = s.props.identity := by
      rw [save_props]
      exact same
    rwa [distinctId_of_identity still]

theorem Mirrored.goes_register (mirrored : Mirrored first last s) {entries : Mapping}
    (texts : Schema.hasTextKeys entries = true)
    (own : ∀ entry ∈ entries, isReserved entry.1 = false) :
    Goes first last s (s.register (.map entries)).1 :=
  mirrored.goes_save (mirrored.bag.keyed.overlay texts) (Mapping.identity_overlay own)

theorem Mirrored.goes_registerOnce (mirrored : Mirrored first last s) {entries : Mapping}
    (texts : Schema.hasTextKeys entries = true)
    (own : ∀ entry ∈ entries, isReserved entry.1 = false) :
    Goes first last s (s.registerOnce (.map entries)).1 := by
  rcases s.registerOnce_cases entries with same | saved
  · rw [same]
    exact mirrored.goes
  · rw [saved]
    exact mirrored.goes_save (mirrored.bag.keyed.overlay (hasTextKeys_filter texts _))
      (Mapping.identity_overlay fun entry mem => own entry (List.mem_filter.1 mem).1)

theorem Mirrored.goes_unregister (mirrored : Mirrored first last s) {key : Value}
    (own : isReserved key = false) : Goes first last s (s.unregister key).1 := by
  rcases s.unregister_cases key with ⟨fault, refused⟩ | saved
  · rw [refused]
    exact mirrored.goes
  · rw [saved]
    exact mirrored.goes_save (mirrored.bag.keyed.filter _) (s.props.identity_erase own)

theorem Goes.of_sameBut (goes : Goes first last s t) (same : SameBut s₀ s) : Goes first last s₀ t := by
  have still := distinctId_of_identity (congrArg Mapping.identity same.props)
  exact ⟨goes.mirrored, goes.name.trans same.name, fun named => goes.named (still ▸ named)⟩

theorem Mirrored.goes_registerSuper (mirrored : Mirrored first last s) {patch : Value}
    (given : patch.TextKeyed) : Goes first last s (s.registerSuper patch).1 := by
  rw [registerSuper]
  rcases s.withoutReserved_cases given with
    ⟨fault, refused⟩ | ⟨warned, entries, kept, same, texts, own⟩
  · rw [refused]
    exact mirrored.goes
  · rw [kept]
    exact ((mirrored.of_sameBut same).goes_register texts own).of_sameBut same

theorem Mirrored.goes_registerSuperOnce (mirrored : Mirrored first last s) {patch : Value}
    (given : patch.TextKeyed) : Goes first last s (s.registerSuperOnce patch).1 := by
  rw [registerSuperOnce]
  rcases s.withoutReserved_cases given with
    ⟨fault, refused⟩ | ⟨warned, entries, kept, same, texts, own⟩
  · rw [refused]
    exact mirrored.goes
  · rw [kept]
    exact ((mirrored.of_sameBut same).goes_registerOnce texts own).of_sameBut same

theorem Mirrored.goes_unregisterSuper (mirrored : Mirrored first last s) (key : Value) :
    Goes first last s (s.unregisterSuper key).1 := by
  rcases s.unregisterSuper_cases key with same | ⟨own, removed⟩
  · exact (mirrored.of_sameBut same).goes.of_sameBut same
  · exact removed ▸ mirrored.goes_unregister own

/-! ## Opening -/

/-- A store that has been opened has an identity, and its bag has been stored. -/
theorem mirrored_opened {desk : Desk} {name : Value} (reliable : desk.toDisk.Reliable name)
    (debug : Bool) :
    let s := (openNew desk name debug).ensureIdentity
    ∃ first, desk.get name = .ok first ∧ Mirrored first s.props s ∧ writable s.props = true ∧
      s.name = name ∧ s.distinctId ≠ "" := by
  obtain ⟨first, got, loaded, acceptable⟩ :=
    mirrored_load (s := { desk with name, props := [], debug }) reliable rfl
  have opened : (openNew desk name debug).name = name := load_name _
  intro s
  refine ⟨first, got, ?_, ?_, ?_, distinctId_ensureIdentity _⟩
  all_goals simp only [s, ensureIdentity]
  · split
    · have entered := Mirrored.enterAnonymous loaded
      rwa [entered.latest (writable_enterAnonymous acceptable)] at entered
    · exact loaded
  · split
    · exact writable_enterAnonymous acceptable
    · exact writable_of_acceptable acceptable
  · split
    · exact (enterAnonymous_name _).trans opened
    · exact opened

/-- What resumes an identity has one. -/
theorem named_of_resumes {u s : Store} {untouched : Prop} (named : u.distinctId ≠ "")
    (resumes : u.props.Resumes s.props untouched) : s.distinctId ≠ "" := by
  have reserved : distinctIdKey ∈ reservedKeys := by decide
  have held := text?_distinctId named
  rw [distinctId]
  obtain normal | ⟨-, same⟩ := resumes.found
  · rw [normal _ reserved, held]
    exact fun joined => named ((Text.joined_eq_plain_iff (List.forall_mem_nil _)).1 joined)
  · rwa [same _ reserved, held]

/-- A store that is opened on the same storage resumes the identity of the last bag that could be
written, and leaves it at that. -/
theorem Mirrored.resumes {u : Store} (mirrored : Mirrored first u.props s)
    (named : u.distinctId ≠ "") {desk : Desk} (disk : desk.toDisk = s.toDisk) (debug : Bool) :
    (openNew desk s.name debug).ensureIdentity = openNew desk s.name debug ∧
      u.props.Resumes (openNew desk s.name debug).props (desk.get s.name = .ok first) := by
  obtain ⟨content, got, loaded⟩ := mirrored.stored
  have got : desk.get s.name = .ok content := disk ▸ got
  have props : (openNew desk s.name debug).props = (storedBag? content).getD [] :=
    load_props { desk with name := s.name, props := [], debug } got
  have resumes : u.props.Resumes (openNew desk s.name debug).props (desk.get s.name = .ok first) := by
    refine mirrored.resumable.resumes ?_
    rw [props]
    obtain normal | ⟨rfl, same⟩ := loaded
    · exact .inl fun key reserved => normal ▸ text?_normalBag mirrored.resumable.keyed reserved
    · exact .inr ⟨got, fun key _ => by rw [same]⟩
  refine ⟨?_, resumes⟩
  rw [ensureIdentity, if_neg (named_of_resumes named resumes)]

end Store

end EventTracker
