import EventTracker.Proofs.Json.Printing
import EventTracker.Proofs.Json.Text
import EventTracker.Storage.Basic

/-!
# JSON text has no control characters

A string escapes them, and numbers, words and separators have none. So there is no line
end in the JSON text of a value, and nothing for a folder to unify when it reads the text
from a file.
-/

namespace EventTracker.Json

/-- Text without control characters. -/
def Uncontrolled (cs : List Char) : Prop := ∀ c ∈ cs, 0x20 ≤ c.toNat

instance (cs : List Char) : Decidable (Uncontrolled cs) :=
  List.decidableBAll (fun c : Char => 0x20 ≤ c.toNat) cs

variable {cs ds : List Char}

theorem uncontrolled_nil : Uncontrolled [] := List.forall_mem_nil _

theorem uncontrolled_cons_iff {c : Char} :
    Uncontrolled (c :: cs) ↔ 0x20 ≤ c.toNat ∧ Uncontrolled cs :=
  List.forall_mem_cons

theorem Uncontrolled.cons {c : Char} (first : 0x20 ≤ c.toNat) (rest : Uncontrolled cs) :
    Uncontrolled (c :: cs) :=
  uncontrolled_cons_iff.2 ⟨first, rest⟩

theorem Uncontrolled.append (before : Uncontrolled cs) (after : Uncontrolled ds) :
    Uncontrolled (cs ++ ds) :=
  List.forall_mem_append.2 ⟨before, after⟩

theorem Uncontrolled.of_sublist (all : Uncontrolled cs) (sub : ds.Sublist cs) : Uncontrolled ds :=
  fun c mem => all c (sub.subset mem)

theorem uncontrolled_of_allDigits (all : AllDigits cs) : Uncontrolled cs := by
  intro c mem
  have bounds := Char.isDigit_iff_toNat.1 (all c mem)
  exact Nat.le_trans (by decide) bounds.1

theorem uncontrolled_zeros (n : Nat) : Uncontrolled (List.replicate n '0') :=
  uncontrolled_of_allDigits (allDigits_replicate_zero n)

/-! ## Strings -/

theorem uncontrolled_hexText (width n : Nat) : Uncontrolled (hexText width n) := by
  have digits : ∀ n : Fin 16, 0x20 ≤ (Nat.digitChar n).toNat := by decide
  induction width generalizing n with
  | zero => exact uncontrolled_nil
  | succ width ih =>
    refine (ih (n / 16)).append (uncontrolled_nil.cons ?_)
    exact digits ⟨n % 16, Nat.mod_lt n (by decide)⟩

theorem uncontrolled_unitEscape (unit : Nat) : Uncontrolled (unitEscape unit) :=
  ((uncontrolled_hexText 4 unit).cons (by decide)).cons (by decide)

theorem uncontrolled_escapeChar (ascii : Bool) (c : Char) : Uncontrolled (escapeChar ascii c) := by
  have letter {c : Char} (plain : 0x20 ≤ c.toNat) : Uncontrolled ['\\', c] :=
    (uncontrolled_nil.cons plain).cons (by decide)
  by_cases has : hasLetter c
  case pos =>
    rcases hasLetter_iff.1 has with (rfl | rfl) | rfl | rfl | rfl | rfl | rfl <;> exact letter (by decide)
  case neg =>
    rw [escapeChar_eq has]
    split
    · exact uncontrolled_unitEscape _
    case isFalse visible =>
      split
      · exact uncontrolled_nil.cons (Nat.le_of_not_lt visible)
      · split
        · exact uncontrolled_unitEscape _
        · exact (uncontrolled_unitEscape _).append (uncontrolled_unitEscape _)

theorem uncontrolled_escapePoint (ascii : Bool) (p : CodePoint) :
    Uncontrolled (escapePoint ascii p) := by
  cases p with
  | char c => exact uncontrolled_escapeChar ascii c
  | surrogate n => exact uncontrolled_unitEscape _

theorem uncontrolled_quoted (ascii : Bool) (ps : List CodePoint) :
    Uncontrolled (quoted ascii ps) := by
  have inner : Uncontrolled (ps.flatMap (escapePoint ascii)) := by
    intro c mem
    obtain ⟨escaped, -, mem⟩ := List.mem_flatMap.1 mem
    exact uncontrolled_escapePoint ascii escaped c mem
  exact (inner.append (uncontrolled_nil.cons (by decide))).cons (by decide)

/-! ## Numbers and words -/

theorem uncontrolled_integerText (n : Int) : Uncontrolled (integerText n) := by
  have digits := uncontrolled_of_allDigits (allDigits_toDigits n.natAbs)
  unfold integerText
  split
  · exact digits.cons (by decide)
  · exact digits

theorem uncontrolled_exponentText (order : Int) : Uncontrolled (Double.exponentText order) := by
  have digits := uncontrolled_of_allDigits (allDigits_toDigits order.natAbs)
  refine Uncontrolled.append (.cons ?_ (uncontrolled_zeros _)) digits
  split <;> decide

theorem uncontrolled_positional {digits : List Char} (all : Uncontrolled digits) (order : Int) :
    Uncontrolled (Double.positional digits order) := by
  unfold Double.positional
  split
  · exact (((uncontrolled_zeros _).cons (by decide)).cons (by decide)).append all
  · simp only
    split
    · exact (all.append (uncontrolled_zeros _)).append (by decide)
    · exact (all.of_sublist (List.take_sublist _ _)).append
        ((all.of_sublist (List.drop_sublist _ _)).cons (by decide))

theorem uncontrolled_scientific {digits : List Char} (all : Uncontrolled digits) (order : Int) :
    Uncontrolled (Double.scientific digits order) := by
  have exponent := (uncontrolled_exponentText order).cons (c := 'e') (by decide)
  unfold Double.scientific
  split
  · exact uncontrolled_nil
  · exact exponent.cons (uncontrolled_cons_iff.1 all).1
  · obtain ⟨first, others⟩ := uncontrolled_cons_iff.1 all
    exact ((others.cons (by decide)).cons first).append exponent

theorem uncontrolled_magnitudeText (rank : Nat) : Uncontrolled (Double.magnitudeText rank) := by
  unfold Double.magnitudeText
  split
  · decide
  · have all := uncontrolled_of_allDigits (allDigits_toDigits (Double.shortest rank).1)
    have stripped : Uncontrolled
        ((Nat.toDigits 10 (Double.shortest rank).1).reverse.dropWhile (· == '0')).reverse := by
      intro c mem
      have mem := (List.dropWhile_sublist _).subset (List.mem_reverse.1 mem)
      exact all c (List.mem_reverse.1 mem)
    simp only
    split
    · exact uncontrolled_positional stripped _
    · exact uncontrolled_scientific stripped _

theorem uncontrolled_doubleText (d : Double) : Uncontrolled (doubleText d) := by
  cases d with
  | nan payload => exact (by decide : Uncontrolled ['N', 'a', 'N'])
  | signed negative rank =>
    have magnitude : Uncontrolled (if rank.1 < infinityRank then Double.magnitudeText rank.1
        else ['I', 'n', 'f', 'i', 'n', 'i', 't', 'y']) := by
      split
      · exact uncontrolled_magnitudeText _
      · decide
    cases negative with
    | true => exact magnitude.cons (by decide)
    | false => exact magnitude

/-! ## Values -/

theorem uncontrolled_commaSeparated {parts : List (List Char)}
    (all : ∀ part ∈ parts, Uncontrolled part) : Uncontrolled (commaSeparated parts) := by
  induction parts with
  | nil => exact uncontrolled_nil
  | cons part rest ih =>
    obtain ⟨first, others⟩ := List.forall_mem_cons.1 all
    cases rest with
    | nil => exact first
    | cons => exact first.append ((ih others).cons (by decide))

/-- Text between brackets. -/
theorem uncontrolled_bracketed {opening closing : Char} {parts : List (List Char)}
    (all : ∀ part ∈ parts, Uncontrolled part) (opens : 0x20 ≤ opening.toNat)
    (closes : 0x20 ≤ closing.toNat) :
    Uncontrolled (opening :: commaSeparated parts ++ [closing]) :=
  ((uncontrolled_commaSeparated all).cons opens).append (uncontrolled_nil.cons closes)

/-- Values whose texts have no control characters. -/
def PrintsUncontrolled (ascii : Bool) (v : Value) : Prop :=
  ∀ {room cs}, print ascii room v = .ok cs → Uncontrolled cs

variable {ascii : Bool} {room : Nat}

theorem uncontrolled_printItems {items : List Value}
    (inner : ∀ v ∈ items, PrintsUncontrolled ascii v)
    {parts : List (List Char)} (printed : printItems ascii room items = .ok parts) :
    ∀ part ∈ parts, Uncontrolled part := by
  induction items generalizing parts with
  | nil =>
    cases printed
    exact List.forall_mem_nil _
  | cons v rest ih =>
    obtain ⟨here, later⟩ := List.forall_mem_cons.1 inner
    obtain ⟨first, others, one, more, rfl⟩ := printItems_cons_iff.1 printed
    exact List.forall_mem_cons.2 ⟨here one, ih later more⟩

theorem uncontrolled_printEntries {entries : List (Value × Value)}
    (inner : ∀ entry ∈ entries, PrintsUncontrolled ascii entry.2) {parts : List (List Char)}
    (printed : printEntries ascii room entries = .ok parts) : ∀ part ∈ parts, Uncontrolled part := by
  induction entries generalizing parts with
  | nil =>
    cases printed
    exact List.forall_mem_nil _
  | cons entry rest ih =>
    obtain ⟨here, later⟩ := List.forall_mem_cons.1 inner
    obtain ⟨value, others, -, one, more, rfl⟩ := printEntries_cons_iff.1 printed
    exact List.forall_mem_cons.2
      ⟨(uncontrolled_quoted _ _).append ((here one).cons (by decide)), ih later more⟩

theorem printsUncontrolled (v : Value) : PrintsUncontrolled ascii v := by
  induction v using Value.containerInduction with
  | null =>
    intro room cs printed
    cases printed
    decide
  | bool b =>
    intro room cs printed
    cases printed
    cases b <;> decide
  | int n =>
    intro room cs printed
    obtain ⟨-, rfl⟩ := intText_eq_ok_iff.1 printed
    exact uncontrolled_integerText n
  | float d =>
    intro room cs printed
    cases printed
    exact uncontrolled_doubleText d
  | str s | date d | datetime t =>
    intro room cs printed
    rw [print] at printed
    cases printed
    exact uncontrolled_quoted _ _
  | list items ih | tuple items ih =>
    intro room cs printed
    cases room with
    | zero => cases printed
    | succ room =>
      obtain ⟨parts, inner, rfl⟩ := map_eq_ok_iff.1 printed
      exact uncontrolled_bracketed (uncontrolled_printItems ih inner) (by decide) (by decide)
  | map entries ih =>
    intro room cs printed
    cases room with
    | zero => cases printed
    | succ room =>
      obtain ⟨parts, inner, rfl⟩ := map_eq_ok_iff.1 printed
      exact uncontrolled_bracketed (uncontrolled_printEntries ih inner) (by decide) (by decide)
  | bytes bs | callback c | foreign mark =>
    intro room cs printed
    cases printed

/-- The JSON text of a value has no control characters. -/
theorem uncontrolled_encode {v : Value} {text : String} (encoded : encode ascii v = .ok text) :
    Uncontrolled text.toList := by
  obtain ⟨cs, printed, rfl⟩ := map_eq_ok_iff.1 encoded
  rw [String.toList_ofList]
  exact printsUncontrolled v printed

/-- After the line ends were unified, no carriage return is left. -/
theorem return_notMem_unifyLineEnds (cs : List Char) : '\r' ∉ unifyLineEnds cs := by
  fun_induction unifyLineEnds cs with
  | case1 rest ih => simpa using ih
  | case2 rest _ ih => simpa using ih
  | case3 c rest _ visible ih => simpa [eq_comm] using ⟨visible, ih⟩
  | case4 => exact List.not_mem_nil

/-- Only a text with a carriage return has line ends to unify. -/
theorem unifyLineEnds_eq_self_iff : unifyLineEnds cs = cs ↔ '\r' ∉ cs := by
  constructor
  · intro same
    exact same ▸ return_notMem_unifyLineEnds cs
  · intro visible
    induction cs with
    | nil => rfl
    | cons c rest ih =>
      obtain ⟨first, others⟩ := not_or.1 (mt List.mem_cons.2 visible)
      rw [unifyLineEnds, ih others]
      · rintro _ rfl
        exact fun _ => first rfl
      · exact fun same => first same.symm

theorem Uncontrolled.return_notMem (all : Uncontrolled cs) : '\r' ∉ cs := fun mem =>
  absurd (all _ mem) (by decide)

/-- Text without control characters has no line ends to unify. -/
theorem Uncontrolled.unifyLineEnds_eq (all : Uncontrolled cs) : unifyLineEnds cs = cs :=
  unifyLineEnds_eq_self_iff.2 all.return_notMem

end EventTracker.Json
