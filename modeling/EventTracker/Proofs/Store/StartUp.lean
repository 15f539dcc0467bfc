import EventTracker.Proofs.Storage.Interruption
import EventTracker.Proofs.Store.Texts

/-!
# Starting up

Opening a store and making sure of its identity succeeds, whatever is stored under its
name. An object with an identity is taken over as it is, and nothing is written; one
without gets the identity of a new device; and where no object can be read, that identity
is all that the bag holds.
-/

namespace EventTracker

namespace Store

/-- The identity of a device, as entries. -/
def deviceEntries (id : String) : Mapping :=
  [(.str distinctIdKey, .str (deviceMark ++ id : String)), (.str deviceIdKey, .str id)]

/-- Whether a bag says whose events it is for. -/
def Named (entries : Mapping) : Prop :=
  ∃ id : Text, id ≠ "" ∧ entries.text? distinctIdKey = some (.str id)

instance (entries : Mapping) : Decidable (Named entries) :=
  let isName (v : Value) : Bool := match v with
    | .str id => id != .plain ""
    | _ => false
  decidable_of_iff ((entries.text? distinctIdKey).any isName = true) (by
    rw [Option.any_eq_true]
    constructor
    · rintro ⟨v, held, named⟩
      cases v with
      | str id => exact ⟨id, by simpa [isName] using named, held⟩
      | _ => cases named
    · rintro ⟨id, nonempty, held⟩
      exact ⟨.str id, held, by simpa [isName] using nonempty⟩)

end Store

/-- What is stored under a name is a JSON object. In memory that may be a text or bytes; a file holds
UTF-8, in which every line end is read as a line feed. -/
inductive Disk.HoldsObject (d : Disk) (name : Text) (entries : Mapping) : Prop where
  | inMemory {items : Mapping} {off : List StorageAccess} {writes : Nat} {stored : Value}
    (memory : d.storage = .memory items off writes) (on : .get ∉ off)
    (held : items.get? (.str name) = some stored)
    (reads : Store.readStored stored = some (.map entries))
  | inFile {folder : Path} {stem : String} {content : List UInt8} {text : String}
    (place : d.storage = .folder folder) (usable : Storage.isUsable folder = true)
    (named : Storage.fileStem (.str name) = .ok stem)
    (held : d.files.read (Storage.entryPath folder stem) = .ok (some content))
    (decodes : textOfUtf8? content = some text)
    (reads : Json.parse (unifyLineEnds text.toList) = .ok (.map entries))

/-! ## What is found -/

theorem Disk.get_folder_cases {d : Disk} {folder : Path} {name : String} {stored : Value}
    (place : d.storage = .folder folder) (got : d.get (.str name) = .ok stored) :
    stored = .null ∨ ∃ text : String, stored = .str text := by
  rw [get, place] at got
  simp only [Storage.fileStem_str] at got
  split at got
  · cases got
  · split at got
    · cases got
    · cases got
      exact .inl rfl
    · split at got
      · cases got
      · cases got
        exact .inr ⟨_, rfl⟩

/-- No file has a name in which a surrogate stands. -/
theorem Disk.get_folder_rough {d : Disk} {folder : Path} {name : RoughText}
    (place : d.storage = .folder folder) : d.get (.str (.rough name)) = .error (.misuse .surrogate) := by
  rw [get, place]
  rfl

theorem Disk.holdsObject_iff {d : Disk} {name : Text} {entries : Mapping} :
    d.HoldsObject name entries ↔
      (d.get (.str name)).toOption.bind Store.storedBag? = some entries := by
  simp only [Option.bind_eq_some_iff, toOption_eq_some_iff, Store.storedBag?_eq_some_iff]
  constructor
  · rintro (⟨memory, on, held, reads⟩ | ⟨place, usable, named, held, decodes, reads⟩)
    · exact ⟨_, by rw [get_memory memory on, held]; rfl, reads⟩
    · cases name with
      | rough name => cases named
      | plain name =>
        cases named
        refine ⟨_, (get_eq_text_iff place).2 ⟨usable, _, _, held, decodes, rfl⟩, ?_⟩
        rw [Store.readStored, Storage.readBack, Text.points_plain, String.toList_ofList,
          ← Json.parse, reads]
        rfl
  · rintro ⟨stored, got, reads⟩
    cases place : d.storage with
    | memory items off writes =>
      by_cases on : .get ∈ off
      · rw [get, place] at got
        simp [on] at got
      · rw [get_memory place on] at got
        cases held : items.get? (.str name) with
        | none =>
          rw [held] at got
          cases got
          cases reads
        | some value =>
          rw [held] at got
          cases got
          exact .inMemory place on held reads
    | folder folder =>
      cases name with
      | rough name => cases (get_folder_rough place).symm.trans got
      | plain name =>
        obtain rfl | ⟨text, rfl⟩ := get_folder_cases place got
        · cases reads
        · obtain ⟨usable, content, decoded, held, decodes, rfl⟩ := (get_eq_text_iff place).1 got
          refine .inFile place usable rfl held decodes ?_
          rw [Store.readStored, Storage.readBack, Text.points_plain, String.toList_ofList,
            ← Json.parse] at reads
          exact toOption_eq_some_iff.1 reads

/-! ## Starting -/

namespace Store

variable {s : Store}

theorem ensureIdentity_of_named (named : Named s.props) : s.ensureIdentity = s := by
  obtain ⟨id, nonempty, held⟩ := named
  have known : s.distinctId = id := by
    rw [distinctId, held]
  rw [ensureIdentity, if_neg (known ▸ nonempty)]

theorem ensureIdentity_of_not_named (unnamed : ¬ Named s.props) :
    s.ensureIdentity = s.enterAnonymous := by
  rw [ensureIdentity, if_pos]
  unfold distinctId
  split
  case h_1 id held =>
    by_contra nonempty
    exact unnamed ⟨id, nonempty, held⟩
  case h_2 => rfl

theorem enterAnonymous_props (s : Store) :
    s.enterAnonymous.props = s.props.overlay (deviceEntries s.ids.device.1) :=
  registerEntries_props { s with ids := s.ids.device.2 } _

theorem enterAnonymous_ids (s : Store) : s.enterAnonymous.ids = s.ids.device.2 :=
  registerEntries_ids { s with ids := s.ids.device.2 } _

/-- The entries of a device override those under the same keys, and no other. -/
theorem text?_overlay_deviceEntries (m : Mapping) (id : String) (name : Text) :
    (m.overlay (deviceEntries id)).text? name =
      if name = distinctIdKey then some (.str (deviceMark ++ id : String))
      else if name = deviceIdKey then some (.str id) else m.text? name := by
  rw [Mapping.text?, Mapping.get?, Mapping.overlay, Entries.find?_overlay keyEquality_sameKey]
  have apart : Text.plain distinctIdKey ≠ deviceIdKey := by decide
  have patch : Entries.find? Value.sameKey (.str name) (deviceEntries id).reverse =
      if name = deviceIdKey then some (.str id)
      else if name = distinctIdKey then some (.str (deviceMark ++ id : String)) else none := by
    simp [deviceEntries, Entries.find?_cons, Entries.find?_nil, eq_comm]
  rw [patch]
  by_cases distinct : name = distinctIdKey
  · rw [if_neg (distinct ▸ apart), if_pos distinct, if_pos distinct]
    rfl
  · rw [if_neg distinct, if_neg distinct]
    by_cases device : name = deviceIdKey
    · rw [if_pos device, if_pos device]
      rfl
    · rw [if_neg device, if_neg device]
      rfl

theorem named_overlay_deviceEntries (m : Mapping) (id : String) :
    Named (m.overlay (deviceEntries id)) :=
  ⟨.plain (deviceMark ++ id), by simp [deviceMark], by rw [text?_overlay_deviceEntries, if_pos rfl]⟩

/-- Starting up succeeds, whatever is stored, and there is an identity then. A stored object with an
identity is the bag as it is, and nothing else changes: no id is drawn and nothing is written. In
one without, only the two entries of a new device are set; and where no object is stored, or none
can be read, they are the bag. -/
theorem starts_up (desk : Desk) (name : Text) (debug : Bool) :
    ∃ s, (openNew desk (.str name) debug).ensureIdentity = s ∧ Named s.props ∧
      (∀ entries, desk.HoldsObject name entries → Named entries →
        s = { desk with name := .str name, props := entries, debug }) ∧
      (∀ entries, desk.HoldsObject name entries → ¬ Named entries →
        s.ids = desk.ids.device.2 ∧
          s.props = entries.overlay (deviceEntries desk.ids.device.1) ∧
          ∀ other, s.props.text? other =
            if other = distinctIdKey then some (.str (deviceMark ++ desk.ids.device.1 : String))
            else if other = deviceIdKey then some (.str desk.ids.device.1)
            else entries.text? other) ∧
      ((∀ entries, ¬ desk.HoldsObject name entries) →
        s.ids = desk.ids.device.2 ∧ s.props = deviceEntries desk.ids.device.1) := by
  let opened := openNew desk (.str name) debug
  have props : opened.props = ((desk.get (.str name)).toOption.bind storedBag?).getD [] :=
    openNew_props desk (.str name) debug
  have ids : opened.ids = desk.ids := load_ids _
  refine ⟨opened.ensureIdentity, rfl, ?_, fun entries holds named => ?_,
    fun entries holds unnamed => ?_, fun nothing => ?_⟩
  · by_cases named : Named opened.props
    · rwa [ensureIdentity_of_named named]
    · rw [ensureIdentity_of_not_named named, enterAnonymous_props]
      exact named_overlay_deviceEntries _ _
  · rw [Disk.holdsObject_iff.1 holds, Option.getD_some] at props
    rw [ensureIdentity_of_named (props ▸ named)]
    obtain ⟨stored, got, found⟩ := Option.bind_eq_some_iff.1 (Disk.holdsObject_iff.1 holds)
    exact load_eq_of_storedBag? _ (toOption_eq_some_iff.1 got) found
  · rw [Disk.holdsObject_iff.1 holds, Option.getD_some] at props
    rw [ensureIdentity_of_not_named (props ▸ unnamed), enterAnonymous_props, enterAnonymous_ids,
      props, ids]
    exact ⟨rfl, rfl, text?_overlay_deviceEntries entries _⟩
  · have empty : (desk.get (.str name)).toOption.bind storedBag? = none :=
      Option.eq_none_iff_forall_ne_some.2 fun entries found =>
        nothing entries (Disk.holdsObject_iff.2 found)
    rw [empty, Option.getD_none] at props
    have unnamed : ¬ Named opened.props := by
      rw [props]
      rintro ⟨id, -, held⟩
      cases held
    rw [ensureIdentity_of_not_named unnamed, enterAnonymous_props, enterAnonymous_ids, props, ids]
    exact ⟨rfl, rfl⟩

/-- Starting up on a file with an identity, on one with an empty identity behind a line end of two
characters, and on one that is no text. -/
theorem starts_up_files :
    let desk (content : List UInt8) : Desk := {
      storage := .folder ["s"]
      files := ⟨[(["s"], .folder), (["s", "m.json"], .file content)]⟩
      log := []
      ids := ⟨.succ, 0, ["d"]⟩
      clock := .ticking 0 }
    let user := desk (utf8Bytes "\r\x7b\"distinct_id\":\"u\"\x7d")
    let unnamed := desk (utf8Bytes "\r\n\x7b\"distinct_id\":\"\",\"plan\":\"free\"\x7d")
    (openNew user (.str "m") false).ensureIdentity = { user with
        name := .str "m", props := [(.str "distinct_id", .str "u")], debug := false } ∧
      (openNew unnamed (.str "m") false).ensureIdentity.props =
        [(.str "distinct_id", .str "$device:d"), (.str "plan", .str "free"),
          (.str "$device_id", .str "d")] ∧
      (openNew (desk [0xFF]) (.str "m") false).ensureIdentity.props =
        [(.str "distinct_id", .str "$device:d"), (.str "$device_id", .str "d")] := by
  intro desk user unnamed
  have held (content : List UInt8) :
      (desk content).files.read (Storage.entryPath ["s"] (Storage.stemOf "m")) =
        .ok (some content) := by
    rfl
  have reads {text : String} {bag : Mapping} (body : String) (normal : (Value.map bag).normal = .map bag)
      (encoded : Json.encode false (.map bag) = .ok body)
      (behind : unifyLineEnds text.toList = ['\n'] ++ body.toList) :
      Json.parse (unifyLineEnds text.toList) = .ok (.map bag) := by
    rw [behind, Json.parse_blanks_encode (List.forall_mem_singleton.2 rfl) encoded, normal]
  have userHeld : user.HoldsObject "m" [(.str "distinct_id", .str "u")] :=
    .inFile rfl rfl rfl (held _) (textOfUtf8?_utf8Bytes _)
      (reads "\x7b\"distinct_id\":\"u\"\x7d" rfl rfl rfl)
  have unnamedHeld : unnamed.HoldsObject "m"
      [(.str "distinct_id", .str ""), (.str "plan", .str "free")] :=
    .inFile rfl rfl rfl (held _) (textOfUtf8?_utf8Bytes _)
      (reads "\x7b\"distinct_id\":\"\",\"plan\":\"free\"\x7d" rfl rfl rfl)
  have empty : ¬ Named [(.str "distinct_id", .str ""), (.str "plan", .str "free")] := by
    rintro ⟨id, nonempty, held⟩
    cases held
    exact nonempty rfl
  have broken : ∀ entries, ¬ (desk [0xFF]).HoldsObject "m" entries := by
    intro entries holds
    cases Disk.holdsObject_iff.1 holds
  obtain ⟨_, rfl, -, resumed, -, -⟩ := starts_up user "m" false
  obtain ⟨_, rfl, -, -, anonymous, -⟩ := starts_up unnamed "m" false
  obtain ⟨_, rfl, -, -, -, fresh⟩ := starts_up (desk [0xFF]) "m" false
  exact ⟨resumed _ userHeld ⟨"u", by decide, rfl⟩, (anonymous _ unnamedHeld empty).2.1,
    (fresh broken).2⟩

end Store

end EventTracker
