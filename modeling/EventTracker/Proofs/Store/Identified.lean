import EventTracker.Proofs.Store.Changes
import EventTracker.Proofs.Store.Resumption
import Mathlib.Data.List.Induction

/-!
# Whether a user is identified

That a user is identified is not stored: the distinct id tells it, which has the mark of a
device or not. It tells the truth as far as the ids that callers give lack that mark. An id
with the mark is accepted as any other, and then the user does not count as identified.
-/

namespace EventTracker

/-- The calls of the identity and of the super-properties, and the making of a new identity on the
bag. -/
def StoreCall.OnIdentity : StoreCall → Prop
  | .ensureIdentity | .identify _ | .reset => True
  | .registerSuper _ | .registerSuperOnce _ | .unregisterSuper _ => True
  | .register _ | .registerOnce _ | .unregister _ | .clear | .save | .load => False

/-- A call identifies a user: the id is accepted. -/
def StoreCall.Accepts (s : Store) (call : StoreCall) (id : Value) : Prop :=
  call = .identify id ∧ ∃ previous, (s.identify id).2 = .ok previous

/-- A step of a run from a store that accepts an id. -/
def StoreStep.Accepts (start : Store) (before : List StoreStep) (step : StoreStep) (id : Value) :
    Prop :=
  step.call.Accepts ((before.foldl StoreStep.perform start).switchOff step.off) id

/-- An id was accepted in a run, and no reset came after it. -/
def IdentifiedSince (start : Store) (steps : List StoreStep) : Prop :=
  ∃ before step after, steps = before ++ step :: after ∧ (∃ id, step.Accepts start before id) ∧
    ∀ later ∈ after, later.call ≠ .reset

/-- The user whom a run leaves identified: no reset and no other accepted id came after. -/
inductive IdentifiedAs (start : Store) (user : Text) : List StoreStep → Prop
  | accepted {steps : List StoreStep} {step : StoreStep}
      (accepts : step.Accepts start steps (.str user)) : IdentifiedAs start user (steps ++ [step])
  | kept {steps : List StoreStep} {step : StoreStep} (earlier : IdentifiedAs start user steps)
      (stays : step.call ≠ .reset) (refuses : ∀ id, ¬ step.Accepts start steps id) :
    IdentifiedAs start user (steps ++ [step])

/-! ## One call -/

namespace Store

variable {s : Store}

theorem identity_registerSuper (s : Store) (patch : Value) :
    (s.registerSuper patch).1.props.identity = s.props.identity := by
  have same := s.withoutReserved_fst patch
  rw [registerSuper]
  generalize left : s.withoutReserved patch = given at same
  obtain ⟨warned, outcome⟩ := given
  cases outcome with
  | error fault => exact congrArg Mapping.identity same.props
  | ok entries =>
    obtain ⟨given, -, rfl⟩ := eq_filter_of_withoutReserved left
    show Mapping.identity (save _).props = _
    rw [save_props]
    show Mapping.identity (warned.props.overlay _) = _
    rw [Mapping.identity_overlay fun entry mem => (mem_filter_own mem).2, same.props]

theorem identity_registerSuperOnce (s : Store) (patch : Value) :
    (s.registerSuperOnce patch).1.props.identity = s.props.identity := by
  have same := s.withoutReserved_fst patch
  rw [registerSuperOnce]
  generalize left : s.withoutReserved patch = given at same
  obtain ⟨warned, outcome⟩ := given
  cases outcome with
  | error fault => exact congrArg Mapping.identity same.props
  | ok entries =>
    show Mapping.identity (warned.registerOnce (.map entries)).1.props = _
    obtain ⟨given, -, rfl⟩ := eq_filter_of_withoutReserved left
    obtain kept | saved := warned.registerOnce_cases (given.filter fun entry => !isReserved entry.1)
    · rw [kept, same.props]
    · rw [saved, save_props]
      show Mapping.identity (warned.props.overlay _) = _
      rw [Mapping.identity_overlay fun entry mem => (mem_filter_own (List.mem_filter.1 mem).1).2,
        same.props]

theorem identity_unregisterSuper (s : Store) (key : Value) :
    (s.unregisterSuper key).1.props.identity = s.props.identity := by
  obtain same | ⟨own, removed⟩ := s.unregisterSuper_cases key
  · exact congrArg Mapping.identity same.props
  · rw [removed]
    obtain ⟨fault, refused⟩ | saved := s.unregister_cases key
    · rw [refused]
    · rw [saved, save_props]
      exact Mapping.identity_erase s.props own

theorem isIdentified_iff : s.isIdentified = true ↔ s.distinctId.startsWith deviceMark = false := by
  rw [isIdentified, Bool.not_eq_true']

theorem marked_enterAnonymous (s : Store) :
    s.enterAnonymous.distinctId.startsWith deviceMark = true := by
  rw [distinctId_enterAnonymous_eq, ← Text.plain_append, Text.startsWith, Text.points_append]
  exact List.isPrefixOf_iff_prefix.2 (List.prefix_append _ _)

/-- What a call does to the distinct id: an accepted one takes its place, a reset puts the mark
there, and all else leaves it as it is. -/
theorem distinctId_cases (named : s.distinctId ≠ "") {call : StoreCall} (on : call.OnIdentity) :
    (∃ user, call.Accepts s (.str user) ∧ user ≠ "" ∧ (call.perform s).distinctId = user) ∨
      call = .reset ∧ (call.perform s).distinctId.startsWith deviceMark = true ∨
      call ≠ .reset ∧ (∀ id, ¬ call.Accepts s id) ∧ (call.perform s).distinctId = s.distinctId := by
  have other {call : StoreCall} (noReset : call ≠ .reset) (noId : ∀ id, call ≠ .identify id)
      (same : (call.perform s).distinctId = s.distinctId) :
      call ≠ .reset ∧ (∀ id, ¬ call.Accepts s id) ∧ (call.perform s).distinctId = s.distinctId :=
    ⟨noReset, fun id accepts => noId id accepts.1, same⟩
  cases call with
  | identify id =>
    obtain ⟨user, rfl, nonempty, accepted⟩ | ⟨-, fault, refused⟩ := s.identify_outcome id
    · refine .inl ⟨user, ⟨rfl, _, accepted⟩, nonempty, ?_⟩
      exact (Value.str.inj (distinctId_identify (Prod.ext rfl accepted)).1).symm
    · refine .inr (.inr ⟨by simp, ?_, ?_⟩)
      · rintro _ ⟨⟨⟩, previous, accepted⟩
        rw [refused] at accepted
        cases accepted
      · rw [StoreCall.perform, refused]
  | reset => exact .inr (.inl ⟨rfl, s.clear.marked_enterAnonymous⟩)
  | ensureIdentity =>
    refine .inr (.inr (other (by simp) (by simp) ?_))
    rw [StoreCall.perform, ensureIdentity, if_neg named]
  | registerSuper patch =>
    have same := distinctId_of_identity (s.identity_registerSuper patch)
    exact .inr (.inr (other (by simp) (by simp) same))
  | registerSuperOnce patch =>
    have same := distinctId_of_identity (s.identity_registerSuperOnce patch)
    exact .inr (.inr (other (by simp) (by simp) same))
  | unregisterSuper key =>
    have same := distinctId_of_identity (s.identity_unregisterSuper key)
    exact .inr (.inr (other (by simp) (by simp) same))
  | _ => cases on

end Store

/-! ## A run -/

variable {start : Store} {steps : List StoreStep}

theorem not_identifiedAs_nil {user : Text} : ¬ IdentifiedAs start user [] := by
  intro identified
  generalize all : [] = run at identified
  cases identified <;> cases (List.append_eq_nil_iff.1 all.symm).2

theorem identifiedAs_snoc {step : StoreStep} {user : Text} :
    IdentifiedAs start user (steps ++ [step]) ↔
      step.Accepts start steps (.str user) ∨
        IdentifiedAs start user steps ∧ step.call ≠ .reset ∧ ∀ id, ¬ step.Accepts start steps id := by
  constructor
  · intro identified
    generalize all : steps ++ [step] = run at identified
    cases identified with
    | accepted accepts =>
      obtain ⟨rfl, rfl⟩ := List.append_singleton_inj.1 all
      exact .inl accepts
    | kept earlier stays refuses =>
      obtain ⟨rfl, rfl⟩ := List.append_singleton_inj.1 all
      exact .inr ⟨earlier, stays, refuses⟩
  · rintro (accepts | ⟨earlier, stays, refuses⟩)
    · exact .accepted accepts
    · exact .kept earlier stays refuses

theorem not_identifiedSince_nil : ¬ IdentifiedSince start [] := by
  rintro ⟨before, step, after, split, -⟩
  cases (List.append_eq_nil_iff.1 split.symm).2

theorem identifiedSince_snoc {step : StoreStep} :
    IdentifiedSince start (steps ++ [step]) ↔
      (∃ id, step.Accepts start steps id) ∨ IdentifiedSince start steps ∧ step.call ≠ .reset := by
  constructor
  · rintro ⟨before, step', after, split, accepts, stays⟩
    cases after using List.reverseRecOn with
    | nil =>
      obtain ⟨rfl, rfl⟩ := List.append_singleton_inj.1 split
      exact .inl accepts
    | append_singleton after last =>
      rw [← List.cons_append, ← List.append_assoc] at split
      obtain ⟨rfl, rfl⟩ := List.append_singleton_inj.1 split
      obtain ⟨later, last⟩ := List.forall_mem_append.1 stays
      exact .inr ⟨⟨before, step', after, rfl, accepts, later⟩,
        last step List.mem_cons_self⟩
  · rintro (accepts | ⟨⟨before, step', after, rfl, accepts, stays⟩, last⟩)
    · exact ⟨steps, step, [], rfl, accepts, List.forall_mem_nil _⟩
    · refine ⟨before, step', after ++ [step], by simp, accepts, ?_⟩
      exact List.forall_mem_append.2 ⟨stays, List.forall_mem_singleton.2 last⟩

theorem StoreStep.exists_user_of_accepts {step : StoreStep} {id : Value}
    (accepts : step.Accepts start steps id) : ∃ user, step.Accepts start steps (.str user) := by
  obtain ⟨identify, previous, accepted⟩ := accepts
  obtain ⟨user, rfl, -⟩ | ⟨-, fault, refused⟩ := Store.identify_outcome _ id
  · exact ⟨user, identify, previous, accepted⟩
  · rw [refused] at accepted
    cases accepted

/-- An id was accepted since the last reset exactly if a user is left identified. -/
theorem identifiedSince_iff :
    IdentifiedSince start steps ↔ ∃ user, IdentifiedAs start user steps := by
  induction steps using List.reverseRecOn with
  | nil => exact iff_of_false not_identifiedSince_nil fun ⟨_, as⟩ => not_identifiedAs_nil as
  | append_singleton steps step ih =>
    simp only [identifiedSince_snoc, identifiedAs_snoc, ih]
    constructor
    · rintro (⟨id, accepts⟩ | ⟨⟨user, earlier⟩, stays⟩)
      · obtain ⟨user, accepts⟩ := StoreStep.exists_user_of_accepts accepts
        exact ⟨user, .inl accepts⟩
      · by_cases accepts : ∃ id, step.Accepts start steps id
        · obtain ⟨user, accepts⟩ := StoreStep.exists_user_of_accepts accepts.choose_spec
          exact ⟨user, .inl accepts⟩
        · exact ⟨user, .inr ⟨earlier, stays, not_exists.1 accepts⟩⟩
    · rintro ⟨user, accepts | ⟨earlier, stays, -⟩⟩
      · exact .inl ⟨_, accepts⟩
      · exact .inr ⟨⟨user, earlier⟩, stays⟩

theorem IdentifiedAs.exists_identify {user : Text} (identified : IdentifiedAs start user steps) :
    ∃ step ∈ steps, step.call = .identify (.str user) := by
  induction identified with
  | @accepted steps step accepts => exact ⟨step, by simp, accepts.1⟩
  | @kept steps step earlier stays refuses ih =>
    obtain ⟨step', mem, call⟩ := ih
    exact ⟨step', List.mem_append_left _ mem, call⟩

/-- After a run the distinct id is that of the user who is identified, and has the mark if no user
is. -/
theorem distinctId_of_run (calls : ∀ step ∈ steps, step.call.OnIdentity)
    (marked : start.distinctId.startsWith deviceMark = true) :
    (steps.foldl StoreStep.perform start).distinctId ≠ "" ∧
      (∀ user, IdentifiedAs start user steps →
        (steps.foldl StoreStep.perform start).distinctId = user) ∧
      ((∀ user, ¬ IdentifiedAs start user steps) →
        (steps.foldl StoreStep.perform start).distinctId.startsWith deviceMark = true) := by
  have nonempty {id : Text} (marked : id.startsWith deviceMark = true) : id ≠ "" := by
    rintro rfl
    cases marked
  induction steps using List.reverseRecOn with
  | nil =>
    exact ⟨nonempty marked, fun _ as => absurd as not_identifiedAs_nil, fun _ => marked⟩
  | append_singleton steps step ih =>
    obtain ⟨before, on⟩ := List.forall_mem_append.1 calls
    obtain ⟨named, known, unknown⟩ := ih before
    have off := Store.distinctId_congr
      ((steps.foldl StoreStep.perform start).switchOff_props step.off)
    simp only [identifiedAs_snoc, List.foldl_append, List.foldl_cons, List.foldl_nil]
    obtain ⟨user, accepts, some, same⟩ | ⟨reset, marked⟩ | ⟨stays, refuses, same⟩ :=
      Store.distinctId_cases (off ▸ named) (on step List.mem_cons_self)
    · refine ⟨fun empty => some (same.symm.trans empty), ?_, fun nobody => ?_⟩
      · rintro user' (accepts' | ⟨-, -, refuses⟩)
        · cases accepts.1.symm.trans accepts'.1
          exact same
        · exact absurd accepts (refuses _)
      · exact absurd (.inl accepts) (nobody user)
    · refine ⟨nonempty marked, ?_, fun _ => marked⟩
      rintro user (⟨accepted, -⟩ | ⟨-, stays, -⟩)
      · cases reset.symm.trans accepted
      · exact absurd reset stays
    · have unchanged := same.trans off
      refine ⟨fun empty => named (unchanged.symm.trans empty), ?_, fun nobody => ?_⟩
      · rintro user (accepts | ⟨earlier, -⟩)
        · exact absurd accepts (refuses _)
        · exact unchanged.trans (known user earlier)
      · show (step.call.perform _).distinctId.startsWith deviceMark = true
        rw [unchanged]
        exact unknown fun user earlier => nobody user (.inr ⟨earlier, stays, refuses⟩)

/-- A user counts as identified exactly if an id was accepted since the start or the last reset and
the last such id lacks the mark of a device: where no id has the mark, exactly if one was accepted.
A new identity on the same bag tells the same. -/
theorem isIdentified_of_run (s : Store) (steps : List StoreStep)
    (calls : ∀ step ∈ steps, step.call.OnIdentity) :
    let start := ({ s with props := [] } : Store).ensureIdentity
    let reached := steps.foldl StoreStep.perform start
    (reached.isIdentified = true ↔
      ∃ user, IdentifiedAs start user steps ∧ user.startsWith deviceMark = false) ∧
    (IdentifiedSince start steps ↔ ∃ user, IdentifiedAs start user steps) ∧
    ((∀ step ∈ steps, ∀ user, step.call = .identify (.str user) →
        user.startsWith deviceMark = false) →
      (reached.isIdentified = true ↔ IdentifiedSince start steps)) ∧
    ∀ rebuilt : Store, rebuilt.props = reached.props →
      rebuilt.ensureIdentity.isIdentified = reached.isIdentified := by
  intro start reached
  obtain ⟨named, known, unknown⟩ := distinctId_of_run calls
    (show start.distinctId.startsWith deviceMark = true from Store.marked_enterAnonymous _)
  have told : reached.isIdentified = true ↔
      ∃ user, IdentifiedAs start user steps ∧ user.startsWith deviceMark = false := by
    rw [Store.isIdentified_iff]
    constructor
    · intro unmarked
      obtain ⟨user, identified⟩ := not_forall_not.1 (mt unknown (ne_true_of_eq_false unmarked))
      exact ⟨user, identified, known user identified ▸ unmarked⟩
    · rintro ⟨user, identified, unmarked⟩
      rw [known user identified]
      exact unmarked
  refine ⟨told, identifiedSince_iff, fun unmarked => ?_, fun rebuilt props => ?_⟩
  · rw [told, identifiedSince_iff]
    refine exists_congr fun user => and_iff_left_of_imp fun identified => ?_
    obtain ⟨step, mem, call⟩ := identified.exists_identify
    exact unmarked step mem user call
  · have same : rebuilt.distinctId = reached.distinctId := Store.distinctId_congr props
    rw [Store.ensureIdentity, if_neg (same ▸ named), Store.isIdentified, Store.isIdentified, same]

/-- A user who is identified after a reset, while nothing can be written. -/
theorem isIdentified_of_run_reset :
    let s : Store :=
      ⟨⟨⟨.memory [] [] 0, ⟨[]⟩, []⟩, ⟨.succ, 0, []⟩, .ticking 0⟩, .str "mon_T", [], false⟩
    let steps : List StoreStep :=
      [⟨[], .identify (.str "$device:u")⟩, ⟨[.set], .reset⟩,
        ⟨[.set], .registerSuper (.map [(.str "distinct_id", .str "$device:u")])⟩,
        ⟨[.set], .identify (.str "u")⟩]
    ∃ user, IdentifiedAs s.ensureIdentity user steps ∧ user.startsWith deviceMark = false := by
  intro s steps
  have on : ∀ step ∈ steps, step.call.OnIdentity := by simp [steps, StoreCall.OnIdentity]
  exact (isIdentified_of_run s steps on).1.1 (by decide)

/-- An id with the mark of a device is accepted, and its user does not count as identified. -/
theorem marked_user_is_not_identified :
    let s : Store :=
      ⟨⟨⟨.memory [] [] 0, ⟨[]⟩, []⟩, ⟨.succ, 0, []⟩, .ticking 0⟩, .str "mon_T", [], false⟩
    let steps : List StoreStep := [⟨[], .identify (.str "$device:u")⟩]
    IdentifiedSince s.ensureIdentity steps ∧
      (steps.foldl StoreStep.perform s.ensureIdentity).isIdentified = false := by
  intro s steps
  refine ⟨⟨[], _, [], rfl, ⟨_, rfl, _, rfl⟩, nofun⟩, ?_⟩
  decide

end EventTracker
