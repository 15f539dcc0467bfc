import EventTracker.Proofs.Double.Integers
import EventTracker.Proofs.Value.Finite
import EventTracker.Proofs.Value.NormalForm
import EventTracker.Tracker.Profile

/-!
# Amounts and transactions

Integers and finite doubles are amounts, and so is what is written like a finite double, be it a
text or a foreign object. The text of
an integer stands for the double nearest to it. A transaction that can be made is the
caller's entries with the amount, and with a point in time as its stamp.
-/

namespace EventTracker

/-- The numbers that amounts stand for: integers and finite doubles for themselves, and texts and
foreign objects that are written like finite doubles, between blanks, for these. -/
inductive Value.StandsFor : Value → Number → Prop where
  | int (n : Int) : StandsFor (.int n) (.int n)
  | float {d : Double} (finite : d.isFinite = true) : StandsFor (.float d) (.float d)
  | text {s : String} {d : Double} (read : Double.read? (trim isBlank s.toList) = some d)
    (finite : d.isFinite = true) : StandsFor (.str s) (.float d)
  | foreign {f : Foreign} {d : Double} (read : Double.read? (trim isBlank f.text.toList) = some d)
    (finite : d.isFinite = true) : StandsFor (.foreign f) (.float d)

theorem amountOf_eq_ok_some_iff {amount : Value} {number : Number} :
    amountOf amount = .ok (some number) ↔ amount.StandsFor number := by
  constructor
  · intro counted
    unfold amountOf at counted
    simp only at counted
    split at counted
    case h_1 n =>
      cases counted
      exact .int n
    case h_2 d =>
      split at counted
      case isTrue finite => cases counted; exact .float finite
      case isFalse => cases counted
    case h_3 s =>
      obtain ⟨d, read, same⟩ := Option.bind_eq_some_iff.1 (Except.ok.inj counted)
      split at same
      case isTrue finite => cases same; exact .text read finite
      case isFalse => cases same
    case h_4 f =>
      obtain ⟨d, read, same⟩ := Option.bind_eq_some_iff.1 (Except.ok.inj counted)
      split at same
      case isTrue finite => cases same; exact .foreign read finite
      case isFalse => cases same
    case h_5 => split at counted <;> cases counted
  · rintro (n | finite | ⟨read, finite⟩ | ⟨read, finite⟩)
    · rfl
    · simp only [amountOf, if_pos finite]
    · simp only [amountOf, read, Option.bind_some, if_pos finite]
    · simp only [amountOf, read, Option.bind_some, if_pos finite]

theorem amountOf_ne_error {amount : Value} (shallow : amount.shown ≠ .error .tooDeep)
    (kind : Misuse) : amountOf amount ≠ .error kind := by
  unfold amountOf
  split
  case h_5 =>
    split
    case h_1 deep => exact absurd deep shallow
    case h_2 => nofun
  all_goals nofun

/-- An amount that can be shown, and stands for no number, is told to be none. -/
theorem amountOf_eq_ok_none {amount : Value} {shown : String} (printed : amount.shown = .ok shown)
    (worthless : ∀ number, ¬ amount.StandsFor number) : amountOf amount = .ok none := by
  cases counted : amountOf amount with
  | error kind => exact absurd counted (amountOf_ne_error (by rw [printed]; nofun) kind)
  | ok number =>
    cases number with
    | none => rfl
    | some number => exact absurd (amountOf_eq_ok_some_iff.1 counted) (worthless number)

namespace Value.StandsFor

variable {amount : Value} {number : Number}

theorem finite (stands : amount.StandsFor number) : number.value.finite = true := by
  cases stands with
  | int n => rfl
  | float finite | text _ finite | foreign _ finite => exact finite

/-- Numbers are sent as they are. -/
theorem normal_truncate (stands : amount.StandsFor number) :
    (truncate maxTextLength number.value).normal = number.value := by
  have same {d : Double} (finite : d.isFinite = true) : d.readBack = d := by
    cases d with
    | nan payload => cases finite
    | signed negative rank => rfl
  cases stands with
  | int n => rfl
  | float finite | text _ finite | foreign _ finite => exact congrArg Value.float (same finite)

end Value.StandsFor

/-- The text of an integer stands for the double nearest to it, unless that is infinity. -/
theorem standsFor_integerText_iff {n : Int} {number : Number} :
    (Value.str (String.ofList (integerText n))).StandsFor number ↔
      ∃ d, Double.ofInt? n = some d ∧ number = .float d := by
  have read : Double.read? (trim isBlank (String.ofList (integerText n)).toList) =
      some (Double.ofDecimal (n < 0) n.natAbs 0) := by
    rw [String.toList_ofList, trim_integerText n fun _ blank => blank,
      Double.read?_integerText]
  rw [Double.ofInt?_eq]
  constructor
  · rintro (_ | _ | ⟨found, finite⟩ | _)
    obtain rfl := Option.some.inj (read.symm.trans found)
    exact ⟨_, if_pos finite, rfl⟩
  · rintro ⟨d, nearest, rfl⟩
    split at nearest
    case isTrue finite =>
      obtain rfl := Option.some.inj nearest
      exact .text read finite
    case isFalse => cases nearest

/-- A transaction that is made holds the entries that are taken and the amount, and if they have a
time, the stamp of it. -/
theorem exists_of_transaction {properties : Value} {number : Number} {entries : Mapping}
    (made : World.transaction properties number = .ok entries) :
    ∃ given : Mapping,
      (if properties.truthy then Mapping.ofValue properties else .ok []) = .ok given ∧
      let charged := given.insert (.str "$amount") number.value
      ((∃ moment stamp, charged.text? "$time" = some (.datetime moment) ∧
          moment.utcStamp = .ok stamp ∧
          entries = charged.insert (.str "$time") (.str (String.ofList stamp))) ∨
        (∀ moment, charged.text? "$time" ≠ some (.datetime moment)) ∧ entries = charged) := by
  unfold World.transaction at made
  generalize (if properties.truthy then Mapping.ofValue properties else .ok []) = start at made ⊢
  cases start with
  | error kind => cases made
  | ok given =>
    refine ⟨given, rfl, ?_⟩
    simp only [bind, Except.bind, Except.mapError] at made
    split at made
    case h_1 moment timed =>
      cases stamped : moment.utcStamp with
      | error error => rw [stamped] at made; cases made
      | ok stamp =>
        rw [stamped] at made
        exact .inl ⟨moment, stamp, timed, stamped, (Except.ok.inj made).symm⟩
    case h_2 untimed => exact .inr ⟨untimed, (Except.ok.inj made).symm⟩

/-- The values of a transaction are those that are taken, the amount, and maybe a text. -/
theorem forall_of_transaction {Q : Value → Prop} {properties : Value} {number : Number}
    {entries : Mapping} (made : World.transaction properties number = .ok entries)
    (given : ∀ table : Mapping,
      (if properties.truthy then Mapping.ofValue properties else .ok []) = .ok table →
        ∀ entry ∈ table, Q entry.2)
    (amount : Q number.value) (text : ∀ s, Q (.str s)) : ∀ entry ∈ entries, Q entry.2 := by
  obtain ⟨table, taken, same⟩ := exists_of_transaction made
  have charged : ∀ entry ∈ table.insert (.str "$amount") number.value, Q entry.2 :=
    Entries.forall_value_put (given table taken) amount (.str "$amount")
  obtain ⟨moment, stamp, -, -, rfl⟩ | ⟨-, rfl⟩ := same
  · exact Entries.forall_value_put charged (text _) (.str "$time")
  · exact charged

end EventTracker
