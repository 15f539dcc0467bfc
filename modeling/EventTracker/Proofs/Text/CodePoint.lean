import EventTracker.Text.CodePoint
import Mathlib.Data.List.Chain

/-!
# Texts by their code points

A text is known by its code points, and every list of code points is those of one text.
Texts of characters are the same under joining, and what was joined once is not changed by
joining it again.
-/

namespace EventTracker

namespace CodePoint

theorem toNat_char (c : Char) : (char c).toNat = c.toNat := rfl

theorem toNat_surrogate (n : Fin 0x800) : (surrogate n).toNat = 0xD800 + n := rfl

/-- Numbers of characters lie below a bound and outside those of the surrogates. -/
theorem toNat_bounds (c : Char) : c.toNat < 0xD800 ∨ (0xDFFF < c.toNat ∧ c.toNat < 0x110000) :=
  c.valid

@[simp] theorem ofNat_toNat (p : CodePoint) : ofNat p.toNat = p := by
  unfold ofNat
  cases p with
  | char c =>
    have bounds := toNat_bounds c
    rw [dif_neg (by rw [toNat_char]; omega), toNat_char, Char.ofNat_toNat]
  | surrogate n =>
    have bound := n.2
    rw [dif_pos (by rw [toNat_surrogate]; omega)]
    refine congrArg surrogate (Fin.ext ?_)
    simp only [toNat_surrogate, Nat.add_sub_cancel_left]

theorem ofNat_char (c : Char) : ofNat c.toNat = char c := ofNat_toNat (char c)

theorem ofNat_surrogate (n : Fin 0x800) : ofNat (0xD800 + n) = surrogate n :=
  ofNat_toNat (surrogate n)

@[simp] theorem pair?_char (c : Char) (q : CodePoint) : pair? (char c) q = none := by
  cases q <;> rfl

@[simp] theorem pair?_to_char (p : CodePoint) (c : Char) : pair? p (char c) = none := by
  cases p <;> rfl

/-! ## Code points of characters -/

theorem ofChars_append (cs ds : List Char) : ofChars (cs ++ ds) = ofChars cs ++ ofChars ds :=
  List.map_append

theorem ofChars_cons (c : Char) (cs : List Char) : ofChars (c :: cs) = char c :: ofChars cs := rfl

theorem length_ofChars (cs : List Char) : (ofChars cs).length = cs.length := List.length_map _

theorem filterMap_char?_ofChars (cs : List Char) : (ofChars cs).filterMap char? = cs := by
  rw [ofChars, List.filterMap_map]
  exact List.filterMap_some

theorem any_isSurrogate_ofChars (cs : List Char) : (ofChars cs).any isSurrogate = false := by
  simp [ofChars, isSurrogate]

/-- Code points without surrogates are those of characters. -/
theorem ofChars_filterMap_char? {ps : List CodePoint} (plain : ps.any isSurrogate = false) :
    ofChars (ps.filterMap char?) = ps := by
  induction ps with
  | nil => rfl
  | cons p rest ih =>
    rw [List.any_cons, Bool.or_eq_false_iff] at plain
    cases p with
    | char c => exact congrArg (char c :: ·) (ih plain.2)
    | surrogate n => cases plain.1

theorem splitChars_ofChars_append (cs : List Char) (ps : List CodePoint) :
    splitChars (ofChars cs ++ ps) = (cs ++ (splitChars ps).1, (splitChars ps).2) := by
  induction cs with
  | nil => rfl
  | cons c cs ih => rw [ofChars_cons, List.cons_append, splitChars, ih]; rfl

/-- The characters at the front and the rest make up the whole. -/
theorem ofChars_splitChars (ps : List CodePoint) :
    ofChars (splitChars ps).1 ++ (splitChars ps).2 = ps := by
  induction ps with
  | nil => rfl
  | cons p rest ih =>
    cases p with
    | char c => rw [splitChars, ofChars_cons, List.cons_append, ih]
    | surrogate n => rfl

theorem exists_eq_char {p : CodePoint} (proper : p.isSurrogate = false) : ∃ c, p = char c := by
  cases p with
  | char c => exact ⟨c, rfl⟩
  | surrogate n => cases proper

/-- Code points of which none is a surrogate. -/
def Proper (ps : List CodePoint) : Prop := ∀ p ∈ ps, p.isSurrogate = false

theorem proper_ofChars (cs : List Char) : Proper (ofChars cs) := by
  simp [Proper, ofChars, isSurrogate]

/-! ## Pairs -/

@[simp] theorem joinPairs_char (c : Char) (rest : List CodePoint) :
    joinPairs (char c :: rest) = char c :: joinPairs rest := by
  cases rest with
  | nil => rfl
  | cons q rest => rw [joinPairs, pair?_char]

theorem joinPairs_of_pair? {p q : CodePoint} {c : Char} (pair : pair? p q = some c)
    (rest : List CodePoint) : joinPairs (p :: q :: rest) = char c :: joinPairs rest := by
  rw [joinPairs, pair]

theorem joinPairs_of_pair?_eq_none {p q : CodePoint} (apart : pair? p q = none)
    (rest : List CodePoint) : joinPairs (p :: q :: rest) = p :: joinPairs (q :: rest) := by
  rw [joinPairs, apart]

@[simp] theorem joinPairs_ofChars (cs : List Char) : joinPairs (ofChars cs) = ofChars cs := by
  induction cs with
  | nil => rfl
  | cons c cs ih => rw [ofChars_cons, joinPairs_char, ih]

/-- What stands before all surrogates is left by joining. -/
theorem take_joinPairs {ps : List CodePoint} {n : Nat} (front : Proper (ps.take n)) :
    (joinPairs ps).take n = ps.take n := by
  induction ps generalizing n with
  | nil => rfl
  | cons p rest ih =>
    cases n with
    | zero => rfl
    | succ n =>
      rw [List.take_succ_cons, Proper, List.forall_mem_cons] at front
      obtain ⟨c, rfl⟩ := exists_eq_char front.1
      rw [joinPairs_char, List.take_succ_cons, List.take_succ_cons, ih front.2]

/-- What two code points stand for together lies beyond what one UTF-16 unit can hold. -/
theorem le_toNat_of_pair? {p q : CodePoint} {c : Char} (pair : pair? p q = some c) :
    0x10000 ≤ c.toNat := by
  unfold pair? at pair
  split at pair
  case h_1 high low =>
    split at pair
    case isTrue halves =>
      have bound := low.2
      have wide : 0x10000 ≤ 0x10000 + high.val * 0x400 + (low.val - 0x400) := by omega
      have valid : Nat.isValidChar (0x10000 + high.val * 0x400 + (low.val - 0x400)) := .inr (by omega)
      rw [← Option.some.inj pair, Char.ofNat, dif_pos valid]
      exact wide
    case isFalse => cases pair
  case h_2 => cases pair

/-- Nothing was joined where no character lies beyond what one UTF-16 unit can hold. -/
theorem eq_ofChars_of_joinPairs_eq {ps : List CodePoint} {cs : List Char}
    (narrow : ∀ c ∈ cs, c.toNat < 0x10000) (joined : joinPairs ps = ofChars cs) :
    ps = ofChars cs := by
  induction ps using joinPairs.induct generalizing cs with
  | case1 p q rest c pair ih =>
    rw [joinPairs_of_pair? pair] at joined
    cases cs with
    | nil => cases joined
    | cons d cs =>
      have bound := narrow d List.mem_cons_self
      have wide := le_toNat_of_pair? pair
      rw [char.inj (List.cons.inj joined).1] at wide
      omega
  | case2 p q rest apart ih =>
    rw [joinPairs_of_pair?_eq_none apart] at joined
    cases cs with
    | nil => cases joined
    | cons d cs =>
      obtain ⟨first, later⟩ := List.cons.inj joined
      rw [first, ih (fun c mem => narrow c (List.mem_cons_of_mem _ mem)) later]
      rfl
  | case3 p => exact joined
  | case4 => exact joined

/-- No two code points in a row stand for a character together. -/
def Apart : List CodePoint → Prop := List.IsChain fun p q => pair? p q = none

theorem joinPairs_of_apart {ps : List CodePoint} (apart : Apart ps) : joinPairs ps = ps := by
  induction ps with
  | nil => rfl
  | cons p rest ih =>
    cases rest with
    | nil => rfl
    | cons q rest =>
      obtain ⟨first, later⟩ := List.isChain_cons_cons.1 apart
      rw [joinPairs_of_pair?_eq_none first, ih later]

/-- What comes first after joining is a character or what came first before. -/
theorem head?_joinPairs (p : CodePoint) (rest : List CodePoint) :
    (∃ c, (joinPairs (p :: rest)).head? = some (char c)) ∨
      (joinPairs (p :: rest)).head? = some p := by
  cases rest with
  | nil => exact .inr rfl
  | cons q rest =>
    cases pair : pair? p q with
    | some c => exact .inl ⟨c, by rw [joinPairs_of_pair? pair]; rfl⟩
    | none => exact .inr (by rw [joinPairs_of_pair?_eq_none pair]; rfl)

/-- After joining, nothing is left to join. -/
theorem apart_joinPairs (ps : List CodePoint) : Apart (joinPairs ps) := by
  induction ps using joinPairs.induct with
  | case1 p q rest c pair ih =>
    rw [joinPairs_of_pair? pair]
    exact List.isChain_cons.2 ⟨fun next _ => pair?_char c next, ih⟩
  | case2 p q rest apart ih =>
    rw [joinPairs_of_pair?_eq_none apart]
    refine List.isChain_cons.2 ⟨fun next first => ?_, ih⟩
    rcases head?_joinPairs q rest with ⟨c, head⟩ | head
    · cases head.symm.trans first
      exact pair?_to_char p c
    · cases head.symm.trans first
      exact apart
  | case3 p => exact List.isChain_singleton p
  | case4 => exact List.isChain_nil

@[simp] theorem joinPairs_joinPairs (ps : List CodePoint) :
    joinPairs (joinPairs ps) = joinPairs ps := joinPairs_of_apart (apart_joinPairs ps)

end CodePoint

open CodePoint

namespace Text

@[simp] theorem points_plain (s : String) : points (.plain s) = ofChars s.toList := rfl

@[simp] theorem points_ofPoints (ps : List CodePoint) : (ofPoints ps).points = ps := by
  unfold ofPoints
  split
  case isTrue => rfl
  case isFalse plain =>
    rw [points, String.toList_ofList]
    exact ofChars_filterMap_char? (Bool.not_eq_true _ ▸ plain)

theorem ofPoints_ofChars (cs : List Char) : ofPoints (ofChars cs) = .plain (String.ofList cs) := by
  rw [ofPoints, dif_neg (by rw [any_isSurrogate_ofChars]; decide), filterMap_char?_ofChars]

@[simp] theorem ofPoints_points (t : Text) : ofPoints t.points = t := by
  cases t with
  | plain s => rw [points, ofPoints_ofChars, String.ofList_toList]
  | rough r => rw [points, ofPoints, dif_pos r.rough]

/-- A text is known by its code points. -/
theorem points_injective : Function.Injective points := fun t u same => by
  rw [← ofPoints_points t, same, ofPoints_points]

theorem points_inj {t u : Text} : t.points = u.points ↔ t = u := points_injective.eq_iff

theorem plain_inj {a b : String} : (Text.plain a = .plain b) ↔ a = b :=
  ⟨Text.plain.inj, congrArg _⟩

theorem length_eq (t : Text) : t.length = t.points.length := by
  cases t with
  | plain s => rw [length, points, length_ofChars, String.length_toList]
  | rough r => rfl

@[simp] theorem points_append (t u : Text) : (t ++ u).points = t.points ++ u.points := by
  show (append t u).points = _
  cases t with
  | rough r => exact points_ofPoints _
  | plain a =>
    cases u with
    | rough r => exact points_ofPoints _
    | plain b => rw [append, points, String.toList_append, ofChars_append]; rfl

@[simp] theorem plain_append (a b : String) : (Text.plain a ++ .plain b) = .plain (a ++ b) := rfl

/-! ## Joined texts -/

theorem joined_eq (t : Text) : t.joined = ofPoints (joinPairs t.points) := by
  cases t with
  | plain s => rw [joined, points, joinPairs_ofChars, ofPoints_ofChars, String.ofList_toList]
  | rough r => rfl

@[simp] theorem joined_plain (s : String) : joined (.plain s) = .plain s := rfl

theorem points_joined (t : Text) : t.joined.points = joinPairs t.points := by
  rw [joined_eq, points_ofPoints]

@[simp] theorem joined_joined (t : Text) : t.joined.joined = t.joined := by
  rw [joined_eq t.joined, points_joined, joinPairs_joinPairs, joined_eq]

/-- A text whose joined form lies within what UTF-16 units can hold is that form. -/
theorem joined_eq_plain_iff {t : Text} {s : String} (narrow : ∀ c ∈ s.toList, c.toNat < 0x10000) :
    t.joined = .plain s ↔ t = .plain s := by
  constructor
  · intro joined
    have points := points_joined t
    rw [joined, points_plain] at points
    exact points_injective (eq_ofChars_of_joinPairs_eq narrow points.symm)
  · rintro rfl
    rfl

/-- A text is its own joined form if nothing in it is to be joined. -/
theorem joined_eq_self_iff {t : Text} : t.joined = t ↔ Apart t.points := by
  rw [← points_inj, points_joined]
  constructor
  · intro same
    rw [← same]
    exact apart_joinPairs _
  · exact joinPairs_of_apart

end Text

end EventTracker
