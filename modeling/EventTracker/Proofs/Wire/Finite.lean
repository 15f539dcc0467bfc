import EventTracker.Proofs.Double.Rounding
import EventTracker.Proofs.Value.Finite
import EventTracker.Proofs.Wire.Depth

/-!
# Payloads of finite numbers

The numbers of an event are those of the host, of the bag and of the caller, and a reading
of the clock; the numbers of a mutation are those of its operand, where amounts may be
given as texts. Payloads are finite if all of these are.
-/

namespace EventTracker

/-! ## The clock -/

namespace Clock

/-- All numbers that a clock has shown are finite. A fixed one always shows the same. -/
inductive FiniteSoFar : Clock → Prop where
  | ticking {readings : Nat}
    (shown : ∀ k < readings,
      (Double.ofDecimal false (17000000005 + 10 * k) (-1)).isFinite = true) :
    FiniteSoFar (.ticking readings)
  | fixed {reading : Value} (shown : ∀ d, number reading = .ok d → d.isFinite = true) :
    FiniteSoFar (.fixed reading)

/-- A reading is among the numbers that the clock has shown afterwards. -/
theorem FiniteSoFar.of_read {clock : Clock} (after : clock.read.2.FiniteSoFar) :
    clock.FiniteSoFar ∧ ∀ time, clock.read.1 = .ok time → time.isFinite = true := by
  cases clock with
  | ticking readings =>
    cases after with
    | ticking shown =>
      constructor
      · exact .ticking fun k before => shown k (Nat.lt_succ_of_lt before)
      · rintro time ⟨⟩
        exact shown readings (Nat.lt_succ_self readings)
  | fixed reading =>
    cases after with
    | fixed shown => exact ⟨.fixed shown, shown⟩

/-- Whether a clock ticks and has been read so many times at most. -/
def isTickingUpTo (most : Nat) : Clock → Bool
  | .ticking readings => decide (readings ≤ most)
  | .fixed _ => false

/-- A ticking clock shows finite numbers for longer than any run takes. -/
theorem finiteSoFar_of_isTickingUpTo {clock : Clock}
    (young : clock.isTickingUpTo (10 ^ 70) = true) : clock.FiniteSoFar := by
  cases clock with
  | fixed reading => cases young
  | ticking readings =>
  have few : readings ≤ 10 ^ 70 := of_decide_eq_true young
  refine .ticking fun k before => ?_
  have small : 17000000005 + 10 * k < 2 ^ 240 := by
    have bound : 17000000005 + 10 * 10 ^ 70 < 2 ^ 240 := by decide
    omega
  have rank : Double.rankOfDecimal (17000000005 + 10 * k) (-1) < infinityRank := by
    rw [Double.rankOfDecimal_eq (by omega)]
    have whole : Double.decimalNum (17000000005 + 10 * k) (-1) = 17000000005 + 10 * k :=
      Nat.mul_one _
    rw [whole]
    exact Double.rankOfRatio_lt_infinityRank (by decide) small _
  have least : min (Double.rankOfDecimal (17000000005 + 10 * k) (-1)) infinityRank < infinityRank :=
    Nat.lt_of_le_of_lt (Nat.min_le_left _ _) rank
  exact decide_eq_true least

end Clock

/-! ## Events -/

variable {m : Mapping}

/-- Whether all that events carry of their host is finite. -/
def Environment.FiniteHost (environment : Option Environment) : Prop :=
  ∀ entry ∈ defaultProperties environment, entry.2.finite = true

theorem Table.finite_of_checkProperties {v : Value} {table : Table Value} (finite : v.finite = true)
    (checked : checkProperties v = .ok table) : table.toValue.finite = true := by
  obtain ⟨entries, rfl⟩ := exists_of_checkTable checked
  rw [Table.finite_toValue_iff]
  exact forall_of_checkProperties (P := fun v => v.finite = true)
    (Mapping.finite_map_iff.1 finite) checked

theorem Event.finite_wire {name : Value} {e : Event} (finite : m.Finite)
    (valid : Event.ofValues name m = .ok e) : e.wire.toValue.finite = true := by
  have checked := (Event.ofValues_eq_ok_iff.1 valid).2
  have properties := Table.finite_of_checkProperties (Mapping.finite_map_iff.2 finite) checked
  rw [Table.finite_toValue_iff]
  simp only [wire, List.forall_mem_cons]
  exact ⟨rfl, properties, List.forall_mem_nil _⟩

namespace Store

variable {s s' : Store} {environment : Option Environment} {properties : Value}

theorem finite_lowerLayers (bag : s.props.Finite) (host : Environment.FiniteHost environment)
    (given : properties.FiniteEntries) : (s.lowerLayers environment properties).1.Finite := by
  have base : Mapping.Finite (s.baseLayers environment) := by
    refine Mapping.Finite.overlay ?_ bag
    exact List.forall_mem_map.2 host
  unfold lowerLayers
  split
  · exact base.absorb given
  · exact base

/-- Composing an event leaves the bag alone, reads the clock once at most and draws one id at most. -/
theorem compose_cases (s : Store) (token : Text) (environment : Option Environment)
    (event properties : Value) :
    let after := (s.compose token environment event properties).1
    after.props = s.props ∧ (after.clock = s.clock ∨ after.clock = s.clock.read.2) ∧
      (after.ids = s.ids ∨ after.ids = s.ids.insert.2) := by
  cases layers : s.lowerLayers environment properties with
  | mk lower misuse =>
    rw [lowerLayers] at layers
    simp only [compose, composeFor, layers]
    cases misuse with
    | some kind => exact ⟨rfl, .inl rfl, .inl rfl⟩
    | none =>
      cases read : s.clock.read with
      | mk time clock =>
        cases time with
        | error fault => exact ⟨rfl, .inr rfl, .inl rfl⟩
        | ok time => exact ⟨rfl, .inr rfl, .inr rfl⟩

theorem finiteSoFar_of_compose {token : Text} {event : Value}
    (after : (s.compose token environment event properties).1.clock.FiniteSoFar) :
    s.clock.FiniteSoFar := by
  obtain ⟨-, same | read, -⟩ := s.compose_cases token environment event properties
  · rwa [same] at after
  · rw [read] at after
    exact after.of_read.1

theorem finite_of_compose {token : Text} {event : Value} {e : Event} (bag : s.props.Finite)
    (host : Environment.FiniteHost environment) (given : properties.FiniteEntries)
    (composed : s.compose token environment event properties = (s', .ok e))
    (clock : s'.clock.FiniteSoFar) : e.wire.toValue.finite = true := by
  obtain ⟨lower, time, after, layers, read, rfl, valid⟩ := exists_of_composeFor_eq_ok composed
  have merged : Mapping.Finite lower := by
    have finite := finite_lowerLayers bag host given
    rwa [layers] at finite
  have shown : time.isFinite = true := by
    have clock : s.clock.read.2.FiniteSoFar := read ▸ clock
    exact clock.of_read.2 time (congrArg Prod.fst read)
  refine Event.finite_wire (merged.overlay ?_) valid
  simp only [lastLayer, Mapping.Finite, List.forall_mem_cons]
  exact ⟨rfl, rfl, shown, rfl, List.forall_mem_nil _⟩

end Store

/-! ## Mutations -/

/-- A value that stands for no number but finite ones, when it is taken as an amount. -/
def Value.FiniteAmount (v : Value) : Prop := ∀ n, checkNumber v = .ok n → n.value.finite = true

namespace ProfileMutation

/-- What a mutation of one operation is made of. -/
def inputOf (token id : Text) (operation : Field) (operand : Value) : Mapping :=
  [(.str tokenField.name, .str token), (.str distinctIdField.name, .str id),
    (.str operation.name, operand)]

/-- An operand of which every mutation gets finite numbers only. -/
def FiniteOperand (operation : Field) (operand : Value) : Prop :=
  ∀ token id mutation, schema.checkFields (inputOf token id operation operand) = .ok mutation →
    mutation.operation.operand.finite = true

variable {token id : Text} {name : String} {f operation : Field} {operand v : Value}

/-- A field other than those of the token and the user has the operand, if it has no text. -/
theorem eq_of_find? (found : f.find? (inputOf token id operation operand) = some (name, v))
    (mapping : ∃ entries, v = .map entries) : operation.name ∈ f.names ∧ v = operand := by
  obtain ⟨entries, rfl⟩ := mapping
  obtain ⟨named, key, mem, same⟩ := Field.exists_mem_of_find? found
  simp only [inputOf, List.mem_cons, Prod.mk.injEq, List.not_mem_nil, or_false, reduceCtorEq,
    and_false, false_or] at mem
  obtain ⟨rfl, given⟩ := mem
  rw [Value.sameKey_str, decide_eq_true_iff] at same
  exact ⟨Text.plain.inj same ▸ named, given⟩

theorem finite_wire {mutation : ProfileMutation}
    (finite : mutation.operation.operand.finite = true) : mutation.wire.toValue.finite = true := by
  rw [Table.finite_toValue_iff]
  simp only [wire, List.forall_mem_cons]
  exact ⟨rfl, rfl, finite, List.forall_mem_nil _⟩

theorem finite_names (names : List Text) : (Value.list (names.map .str)).finite = true := by
  rw [Value.finite, Value.itemsFinite_iff]
  exact List.forall_mem_map.2 fun _ _ => rfl

theorem finiteOperand_of_properties (other : operation.name ∉ addField.names) (finite : m.Finite) :
    FiniteOperand operation (.map m) := by
  intro token id mutation checked
  have properties {f : Field} {name : String} {v : Value} {properties : Table Value}
      (found : f.find? (inputOf token id operation (.map m)) = some (name, v))
      (passed : checkProperties v = .ok properties) : properties.toValue.finite = true := by
    obtain ⟨-, rfl⟩ := eq_of_find? found (exists_of_checkTable passed)
    exact Table.finite_of_checkProperties (Mapping.finite_map_iff.2 finite) passed
  obtain ⟨_, _, made⟩ := mutation
  cases givenBy_of_checkFields checked with
  | set found passed | setOnce found passed | append found passed => exact properties found passed
  | unset found passed => exact finite_names _
  | add found passed => exact absurd (eq_of_find? found (exists_of_checkTable passed)).1 other

theorem finiteOperand_of_names (names : List Value) : FiniteOperand operation (.list names) := by
  intro token id mutation checked
  have unlisted {α : Type} {f : Field} {name : String} {v : Value} {check : Value → Checked α}
      {table : Table α} (found : f.find? (inputOf token id operation (.list names)) = some (name, v))
      (passed : checkTable check v = .ok table) : False := by
    have mapping := exists_of_checkTable passed
    obtain ⟨-, rfl⟩ := eq_of_find? found mapping
    obtain ⟨entries, ⟨⟩⟩ := mapping
  obtain ⟨_, _, made⟩ := mutation
  cases givenBy_of_checkFields checked with
  | set found passed | setOnce found passed | append found passed | add found passed =>
    exact (unlisted found passed).elim
  | unset found passed => exact finite_names _

theorem finiteOperand_of_amounts (finite : ∀ entry ∈ m, entry.2.FiniteAmount) :
    FiniteOperand addField (.map m) := by
  intro token id mutation checked
  have other {f : Field} {name : String} {v : Value} {properties : Table Value}
      (apart : addField.name ∉ f.names)
      (found : f.find? (inputOf token id addField (.map m)) = some (name, v))
      (passed : checkProperties v = .ok properties) : False :=
    apart (eq_of_find? found (exists_of_checkTable passed)).1
  obtain ⟨_, _, made⟩ := mutation
  cases givenBy_of_checkFields checked with
  | set found passed => exact (other (by decide) found passed).elim
  | setOnce found passed => exact (other (by decide) found passed).elim
  | append found passed => exact (other (by decide) found passed).elim
  | unset found passed => exact finite_names _
  | add found passed =>
    obtain ⟨-, rfl⟩ := eq_of_find? found (exists_of_checkTable passed)
    have amounts := forall_of_checkTable (P := fun n => n.value.finite = true) finite passed
    exact Table.finite_toValue_iff.2 (List.forall_mem_map.2 amounts)

end ProfileMutation

end EventTracker
