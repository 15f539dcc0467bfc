import EventTracker.Proofs.Store.Basic
import EventTracker.Proofs.Text.CodePoint
import EventTracker.Proofs.Value.Entries
import EventTracker.Proofs.Value.Key

/-!
# Identity and super-properties share one bag

The store's bag is the disjoint union of what two machines hold that know nothing of each
other: an identity record, which only `identify` and `reset` change, and an ordered map
of super-properties, which only its own calls change and `reset` empties. Each call takes
a store that agrees with both machines to one that agrees with both of their next states.
-/

namespace EventTracker

/-! ## Reserved keys -/

theorem isReserved_iff {key : Value} : isReserved key = true ↔ ∃ s ∈ reservedKeys, key = .str s := by
  cases key <;> simp [isReserved]

theorem isReserved_of_sameKey {a b : Value} (same : a.sameKey b = true)
    (reserved : isReserved b = true) : isReserved a = true := by
  obtain ⟨s, mem, rfl⟩ := isReserved_iff.1 reserved
  exact isReserved_iff.2 ⟨s, mem, Value.sameKey_str_iff.1 same⟩

theorem isReserved_congr (a b : Value) (same : a.sameKey b = true) : isReserved a = isReserved b := by
  apply Bool.eq_iff_iff.2
  constructor
  · exact isReserved_of_sameKey (Value.sameKey_symm a b ▸ same)
  · exact isReserved_of_sameKey same

theorem not_isReserved_congr (a b : Value) (same : a.sameKey b = true) :
    (!isReserved a) = !isReserved b := by
  rw [isReserved_congr a b same]

/-! ## The two machines -/

/-- A mapping that a caller can give: its keys can be keys, and no two of them are the same. -/
structure Patch where
  entries : Mapping
  hashable : ∀ entry ∈ entries, entry.1.hashable = true
  distinct : Entries.Distinct Value.sameKey entries

/-- The entries of a patch that are not those of the identity. -/
def Patch.own (patch : Patch) : Mapping := patch.entries.filter fun entry => !isReserved entry.1

/-- What callers can ask of the identity and of the super-properties. -/
inductive BagCall where
  | identify (id : Value)
  | reset
  | register (patch : Patch)
  | registerOnce (patch : Patch)
  | unregister (key : Value)

/-- The store after a call. -/
def BagCall.perform (s : Store) : BagCall → Store
  | .identify id => (s.identify id).1
  | .reset => s.reset
  | .register patch => (s.registerSuper (.map patch.entries)).1
  | .registerOnce patch => (s.registerSuperOnce (.map patch.entries)).1
  | .unregister key => (s.unregisterSuper key).1

/-- Who events belong to: the device id that was drawn last, and the user identified since then. -/
structure IdentityRecord where
  device : String
  user? : Option Text
  /-- What device ids are drawn from. -/
  ids : IdSource

namespace IdentityRecord

/-- The record of a new anonymous device. -/
def anonymous (ids : IdSource) : IdentityRecord := ⟨ids.device.1, none, ids.device.2⟩

def distinctId (r : IdentityRecord) : Text := r.user?.getD (deviceMark ++ r.device)

/-- How a record stands in the bag. -/
def entries (r : IdentityRecord) : Mapping :=
  (.str distinctIdKey, .str r.distinctId) :: (.str deviceIdKey, .str r.device) ::
    (r.user?.map fun user => (.str userIdKey, .str user)).toList

/-- The record after a call. -/
def step (r : IdentityRecord) : BagCall → IdentityRecord
  | .identify (.str user) => if user = .plain "" then r else { r with user? := some user }
  | .reset => anonymous r.ids
  | _ => r

end IdentityRecord

/-- The super-properties after a call. -/
def superStep (supers : Mapping) : BagCall → Mapping
  | .identify _ => supers
  | .reset => []
  | .register patch =>
    supers.map (fun entry => (entry.1, (Mapping.get? patch.own entry.1).getD entry.2)) ++
      patch.own.filter fun entry => !Mapping.contains supers entry.1
  | .registerOnce patch =>
    supers ++ patch.own.filter fun entry => !Mapping.contains supers entry.1
  | .unregister key => supers.filter fun entry => !entry.1.sameKey key

theorem isReserved_of_texts {entries : List (String × Value)}
    (reserved : ∀ entry ∈ entries, entry.1 ∈ reservedKeys) :
    ∀ entry ∈ entries.map fun ((k, v) : String × Value) => ((.str k, v) : Value × Value),
      isReserved entry.1 = true := by
  intro entry mem
  obtain ⟨given, here, rfl⟩ := List.mem_map.1 mem
  exact isReserved_iff.2 ⟨given.1, reserved given here, rfl⟩

/-- A store whose bag is made of an identity record and of super-properties. -/
structure Agrees (s : Store) (r : IdentityRecord) (supers : Mapping) : Prop where
  identity : s.props.filter (fun entry => isReserved entry.1) = r.entries
  own : s.superProperties = supers
  distinct : Entries.Distinct Value.sameKey s.props
  ids : s.ids = r.ids
  named : r.user? ≠ some (.plain "")

namespace Agrees

variable {s : Store} {r : IdentityRecord} {supers : Mapping}

theorem distinctId (agrees : Agrees s r supers) : s.distinctId = r.distinctId := by
  have found : s.props.text? distinctIdKey = some (.str r.distinctId) := by
    rw [Mapping.text?, Mapping.get?,
      ← Entries.find?_filter_of_kept isReserved_congr (show isReserved (.str distinctIdKey) = true by decide),
      agrees.identity, IdentityRecord.entries, Entries.find?_cons, Value.sameKey_str]
    simp
  rw [Store.distinctId, found]

theorem distinctId_ne_empty (agrees : Agrees s r supers) : r.distinctId ≠ .plain "" := by
  unfold IdentityRecord.distinctId
  cases user : r.user? with
  | none => simp [deviceMark]
  | some user =>
    rintro rfl
    exact agrees.named user

/-- Entries of the identity change the record and nothing else. -/
theorem registerEntries (agrees : Agrees s r supers) {entries : List (String × Value)}
    (reserved : ∀ entry ∈ entries, entry.1 ∈ reservedKeys) {r' : IdentityRecord}
    (overlaid : Mapping.overlay r.entries (entries.map fun (k, v) => (.str k, v)) = r'.entries)
    (ids : r'.ids = r.ids) (named : r'.user? ≠ some (.plain "")) :
    Agrees (s.registerEntries entries) r' supers := by
  have all := isReserved_of_texts reserved
  constructor
  · rw [Store.registerEntries_props, Mapping.overlay, Entries.filter_overlay_of_kept isReserved_congr all,
      agrees.identity]
    exact overlaid
  · rw [Store.superProperties, Store.registerEntries_props, Mapping.overlay,
      Entries.filter_overlay_of_dropped not_isReserved_congr fun entry mem => by rw [all entry mem]; rfl]
    exact agrees.own
  · rw [Store.registerEntries_props]
    exact Entries.distinct_overlay agrees.distinct _
  · rw [Store.registerEntries_ids, agrees.ids, ids]
  · exact named

theorem identify (agrees : Agrees s r supers) (id : Value) :
    Agrees (s.identify id).1 (r.step (.identify id)) supers := by
  cases id with
  | str user =>
    rw [Store.identify, IdentityRecord.step]
    by_cases empty : user = .plain ""
    · rw [if_pos empty, if_pos empty]
      exact agrees
    · rw [if_neg empty, if_neg empty]
      refine agrees.registerEntries ?_ ?_ rfl fun eq => empty (Option.some.inj eq)
      · simp [reservedKeys]
      · obtain ⟨device, user?, ids⟩ := r
        cases user? <;>
          simp [IdentityRecord.entries, IdentityRecord.distinctId, Mapping.overlay, Entries.overlay,
            Entries.put, distinctIdKey, deviceIdKey, userIdKey]
  | _ => exact agrees

theorem enterAnonymous (empty : s.props = []) :
    Agrees s.enterAnonymous (.anonymous s.ids) [] := by
  have props : s.enterAnonymous.props = (IdentityRecord.anonymous s.ids).entries := by
    simp [Store.enterAnonymous, empty, IdentityRecord.anonymous, IdentityRecord.entries,
      IdentityRecord.distinctId, Mapping.overlay, Entries.overlay, Entries.put, distinctIdKey,
      deviceIdKey]
  constructor
  · rw [props]
    simp [IdentityRecord.entries, IdentityRecord.anonymous, isReserved, reservedKeys]
  · rw [Store.superProperties, props]
    simp [IdentityRecord.entries, IdentityRecord.anonymous, isReserved, reservedKeys]
  · rw [props]
    simp [IdentityRecord.entries, IdentityRecord.anonymous, Entries.Distinct, distinctIdKey, deviceIdKey]
  · rw [Store.enterAnonymous, Store.record_ids, Store.registerEntries_ids]
    rfl
  · intro named
    cases named

theorem reset (agrees : Agrees s r supers) : Agrees s.reset (r.step .reset) [] := by
  have anonymous := enterAnonymous s.clear_props
  rw [s.clear_ids, agrees.ids] at anonymous
  exact anonymous

theorem distinct_supers (agrees : Agrees s r supers) : Entries.Distinct Value.sameKey supers := by
  rw [← agrees.own]
  exact agrees.distinct.sublist List.filter_sublist

theorem contains_iff (agrees : Agrees s r supers) {key : Value} (own : isReserved key = false) :
    s.props.contains key = Mapping.contains supers key := by
  rw [← agrees.own]
  exact (Entries.has_filter_of_kept not_isReserved_congr (by rw [own]; rfl) s.props).symm

/-- What changes neither the bag nor the ids keeps the agreement. -/
theorem undisturbed (agrees : Agrees s r supers) {t : Store} (props : t.props = s.props)
    (ids : t.ids = s.ids) : Agrees t r supers := by
  constructor
  · rw [props, agrees.identity]
  · rw [Store.superProperties, props]
    exact agrees.own
  · rw [props]
    exact agrees.distinct
  · rw [ids, agrees.ids]
  · exact agrees.named

/-- Entries of a caller change the super-properties and nothing else. -/
theorem overlay (agrees : Agrees s r supers) {given : Mapping}
    (own : ∀ entry ∈ given, isReserved entry.1 = false) {t : Store}
    (props : t.props = s.props.overlay given) (ids : t.ids = s.ids) :
    Agrees t r (Mapping.overlay supers given) := by
  constructor
  · rw [props, Mapping.overlay, Entries.filter_overlay_of_dropped isReserved_congr own]
    exact agrees.identity
  · rw [Store.superProperties, props, Mapping.overlay, ← agrees.own]
    exact Entries.filter_overlay_of_kept not_isReserved_congr
      (fun entry mem => by rw [own entry mem]; rfl) s.props
  · rw [props]
    exact Entries.distinct_overlay agrees.distinct _
  · rw [ids, agrees.ids]
  · exact agrees.named

end Agrees

theorem Patch.isReserved_own (patch : Patch) : ∀ entry ∈ patch.own, isReserved entry.1 = false := by
  intro entry mem
  simpa using (List.mem_filter.1 mem).2

theorem Patch.distinct_own (patch : Patch) : Entries.Distinct Value.sameKey patch.own :=
  patch.distinct.sublist List.filter_sublist

namespace Agrees

variable {s : Store} {r : IdentityRecord} {supers : Mapping}

theorem register (agrees : Agrees s r supers) (patch : Patch) :
    Agrees (s.registerSuper (.map patch.entries)).1 r (superStep supers (.register patch)) := by
  obtain ⟨warned, same, given⟩ := s.exists_withoutReserved_eq patch.hashable
  have step : superStep supers (.register patch) = Mapping.overlay supers patch.own :=
    (Entries.overlay_eq_map_append keyEquality_sameKey agrees.distinct_supers
      patch.distinct_own).symm
  rw [Store.registerSuper, given, step]
  refine agrees.overlay patch.isReserved_own ?_ ?_
  · exact (Store.save_props _).trans (congrArg (Mapping.overlay · patch.own) same.props)
  · exact (Store.save_ids _).trans same.ids

theorem registerOnce (agrees : Agrees s r supers) (patch : Patch) :
    Agrees (s.registerSuperOnce (.map patch.entries)).1 r
      (superStep supers (.registerOnce patch)) := by
  obtain ⟨warned, same, given⟩ := s.exists_withoutReserved_eq patch.hashable
  let fresh := patch.own.filter fun entry => !Mapping.contains supers entry.1
  have absent : ∀ entry ∈ fresh, Mapping.contains supers entry.1 = false := by
    intro entry mem
    simpa using (List.mem_filter.1 mem).2
  have distinct : Entries.Distinct Value.sameKey (supers ++ fresh) := by
    refine List.pairwise_append.2 ⟨agrees.distinct_supers, ?_, ?_⟩
    · exact patch.distinct_own.sublist List.filter_sublist
    · intro entry mem other new
      exact Entries.has_eq_false_iff.1 (absent other new) entry mem
  have step : superStep supers (.registerOnce patch) = Mapping.overlay supers fresh :=
    (Entries.overlay_of_absent distinct).symm
  have own : ∀ entry ∈ fresh, isReserved entry.1 = false := by
    intro entry mem
    exact patch.isReserved_own entry (List.mem_filter.1 mem).1
  have new : patch.own.filter (fun entry => !warned.props.contains entry.1) = fresh := by
    refine List.filter_congr fun entry mem => ?_
    rw [same.props, agrees.contains_iff (patch.isReserved_own entry mem)]
  rw [Store.registerSuperOnce, given, step]
  show Agrees (warned.registerOnce (.map patch.own)).1 r (Mapping.overlay supers fresh)
  rw [Store.registerOnce, new]
  clear_value fresh
  cases fresh with
  | nil =>
    refine agrees.overlay own ?_ ?_
    · exact same.props
    · exact same.ids
  | cons entry more =>
    refine agrees.overlay own ?_ ?_
    · exact (Store.save_props _).trans (congrArg (Mapping.overlay · (entry :: more)) same.props)
    · exact (Store.save_ids _).trans same.ids

/-- Removing a key that is not the identity's changes the super-properties and nothing else. -/
theorem erase (agrees : Agrees s r supers) {key : Value} (own : isReserved key = false) {t : Store}
    (props : t.props = s.props.erase key) (ids : t.ids = s.ids) :
    Agrees t r (supers.filter fun entry => !entry.1.sameKey key) := by
  constructor
  · rw [props, Mapping.erase, Entries.erase, List.filter_filter, ← agrees.identity]
    refine List.filter_congr fun entry _ => ?_
    cases same : entry.1.sameKey key with
    | true => rw [isReserved_congr _ _ same, own]; rfl
    | false => exact Bool.and_true _
  · rw [Store.superProperties, props, Mapping.erase, Entries.erase, List.filter_filter, ← agrees.own,
      Store.superProperties, List.filter_filter]
    exact List.filter_congr fun entry _ => Bool.and_comm _ _
  · rw [props]
    exact agrees.distinct.sublist List.filter_sublist
  · rw [ids, agrees.ids]
  · exact agrees.named

/-- A key that no super-property is under is removed without effect. -/
theorem filter_of_absent {key : Value} (absent : ∀ entry ∈ supers, entry.1.sameKey key = false) :
    supers.filter (fun entry => !entry.1.sameKey key) = supers :=
  List.filter_eq_self.2 fun entry mem => by rw [absent entry mem]; rfl

theorem unregister (agrees : Agrees s r supers) (key : Value) :
    Agrees (s.unregisterSuper key).1 r (superStep supers (.unregister key)) := by
  rw [Store.unregisterSuper, superStep]
  by_cases reserved : isReserved key = true
  · have absent : ∀ entry ∈ supers, entry.1.sameKey key = false := by
      intro entry mem
      cases same : entry.1.sameKey key with
      | false => rfl
      | true =>
        rw [← agrees.own] at mem
        have own := (List.mem_filter.1 mem).2
        rw [isReserved_of_sameKey same reserved] at own
        cases own
    rw [if_pos reserved, filter_of_absent absent]
    exact agrees.undisturbed rfl rfl
  · rw [if_neg reserved]
    have own : isReserved key = false := Bool.eq_false_iff.2 reserved
    cases hashable : key.hashable with
    | true =>
      have discarded : s.props.discard key = .ok (s.props.erase key) := by
        rw [Mapping.discard, hashable, Bool.or_true, if_pos rfl]
      rw [if_pos rfl, Store.unregister, discarded]
      exact agrees.erase own (Store.save_props _) (Store.save_ids _)
    | false =>
      rw [filter_of_absent fun entry _ => Value.sameKey_of_not_hashable hashable entry.1]
      exact agrees.undisturbed rfl rfl

/-- A call takes both machines to their next states. -/
theorem perform (agrees : Agrees s r supers) (call : BagCall) :
    Agrees (call.perform s) (r.step call) (superStep supers call) := by
  cases call with
  | identify id => exact agrees.identify id
  | reset => exact agrees.reset
  | register patch => exact agrees.register patch
  | registerOnce patch => exact agrees.registerOnce patch
  | unregister key => exact agrees.unregister key

/-- A run takes both machines to their last states. -/
theorem run (agrees : Agrees s r supers) (calls : List BagCall) :
    Agrees (calls.foldl BagCall.perform s) (calls.foldl IdentityRecord.step r)
      (calls.foldl superStep supers) := by
  induction calls generalizing s r supers with
  | nil => exact agrees
  | cons call calls ih => exact ih (agrees.perform call)

/-- The bag is the disjoint union of what the machines hold. -/
theorem perm (agrees : Agrees s r supers) : s.props.Perm (r.entries ++ supers) := by
  rw [← agrees.identity, ← agrees.own]
  exact (List.filter_append_perm (fun entry => isReserved entry.1) s.props).symm

end Agrees

/-- An id is accepted if it is a text and not empty, and otherwise nothing changes. -/
theorem Store.identify_outcome (s : Store) (id : Value) :
    (∃ user, id = .str user ∧ user ≠ "" ∧ (s.identify id).2 = .ok s.distinctId) ∨
      (∀ user, id = .str user → user = "") ∧ ∃ fault, s.identify id = (s, .error fault) := by
  have refused : ∃ fault, Store.identify.refusal id = .error fault := by
    unfold Store.identify.refusal
    split <;> exact ⟨_, rfl⟩
  obtain ⟨fault, refused⟩ := refused
  cases id with
  | str user =>
    by_cases empty : user = ""
    · refine Or.inr ⟨fun other same => (Value.str.inj same) ▸ empty, fault, ?_⟩
      rw [Store.identify, if_pos empty, refused]
    · refine Or.inl ⟨user, rfl, empty, ?_⟩
      rw [Store.identify, if_neg empty]
  | _ => exact Or.inr ⟨nofun, fault, by rw [Store.identify, refused]; simp⟩

/-- After any run from an empty bag, the bag is the disjoint union of the identity record and of
the super-properties, each as its own machine has it. The distinct id is that of the record and not
empty, and an id that is refused changes nothing. -/
theorem bag_agrees_with_machines (s : Store) (calls : List BagCall) :
    let reached := calls.foldl BagCall.perform ({ s with props := [] } : Store).ensureIdentity
    let record := calls.foldl IdentityRecord.step (.anonymous s.ids)
    let supers := calls.foldl superStep []
    Agrees reached record supers ∧ reached.props.Perm (record.entries ++ supers) ∧
      reached.distinctId = record.distinctId ∧ record.distinctId ≠ .plain "" ∧
      ∀ id, (∃ user : Text, id = .str user ∧ user ≠ .plain "" ∧
          (reached.identify id).2 = .ok record.distinctId) ∨
        (∀ user : Text, id = .str user → user = .plain "") ∧
          ∃ fault, reached.identify id = (reached, .error fault) := by
  intro reached record supers
  have start : Agrees ({ s with props := [] } : Store).ensureIdentity (.anonymous s.ids) [] :=
    Agrees.enterAnonymous rfl
  have agrees : Agrees reached record supers := start.run calls
  refine ⟨agrees, agrees.perm, agrees.distinctId, agrees.distinctId_ne_empty, fun id => ?_⟩
  rw [← agrees.distinctId]
  exact reached.identify_outcome id

end EventTracker
