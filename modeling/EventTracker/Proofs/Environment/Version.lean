import EventTracker.Environment.UserAgent
import EventTracker.Proofs.Double.Decimals
import Mathlib.Data.List.Forall2

/-!
# Versions of browsers

The version of a browser is found by trying each place of its user agent in turn. What is
found can be said without a search: of all places where one of the browser's tokens comes
right before a decimal digit the leftmost, and there the longest decimal.
-/

namespace EventTracker

/-! ## Letters in any case -/

/-- The characters that are a lower-case ASCII letter in some case. Outside ASCII these are letters
that fold to it. -/
def caseForms (letter : Char) : List Char :=
  letter :: letter.toUpper :: match letter with
    | 'i' => ['\u0130', '\u0131']
    | 's' => ['\u017f']
    | 'k' => ['\u212a']
    | _ => []

theorem toNat_toLower (c : Char) :
    c.toLower.toNat = if 65 ≤ c.toNat ∧ c.toNat ≤ 90 then c.toNat + 32 else c.toNat := by
  unfold Char.toLower
  split
  case isTrue upper =>
    have bounds : 65 ≤ c.toNat ∧ c.toNat ≤ 90 := upper
    rw [if_pos bounds]
    show (c.val + 32).toNat = c.toNat + 32
    rw [UInt32.toNat_add]
    exact Nat.mod_eq_of_lt (show c.toNat + 32 < 2 ^ 32 by omega)
  case isFalse other =>
    have bounds : ¬ (65 ≤ c.toNat ∧ c.toNat ≤ 90) := other
    rw [if_neg bounds]

theorem toNat_toUpper_of_isLower {c : Char} (lower : c.isLower = true) :
    97 ≤ c.toNat ∧ c.toNat ≤ 122 ∧ c.toUpper.toNat = c.toNat - 32 := by
  have bounds : 'a'.val ≤ c.val ∧ c.val ≤ 'z'.val := by
    unfold Char.isLower at lower
    simpa only [Bool.and_eq_true, decide_eq_true_eq] using lower
  have low : 97 ≤ c.toNat := bounds.1
  have high : c.toNat ≤ 122 := bounds.2
  refine ⟨low, high, ?_⟩
  unfold Char.toUpper
  rw [dif_pos bounds]
  have step : ('A'.val - 'a'.val).toNat = 4294967264 := by decide
  show (c.val + ('A'.val - 'a'.val)).toNat = c.toNat - 32
  rw [UInt32.toNat_add, step]
  show (c.toNat + 4294967264) % 4294967296 = c.toNat - 32
  omega

theorem toLower_eq_iff {letter c : Char} (lower : letter.isLower = true) :
    c.toLower = letter ↔ c = letter ∨ c = letter.toUpper := by
  have upper := toNat_toUpper_of_isLower lower
  have folded := toNat_toLower c
  simp only [← Char.toNat_inj]
  split at folded <;> omega

theorem sameLetter_iff {letter c : Char} (lower : letter.isLower = true) :
    sameLetter letter c = true ↔ c ∈ caseForms letter := by
  simp only [sameLetter, Bool.or_eq_true, Bool.and_eq_true, beq_iff_eq, toLower_eq_iff lower,
    caseForms, List.mem_cons, or_assoc]
  split
  case h_1 | h_2 | h_3 => simp
  case h_4 notI notS notK =>
    simp [show letter ≠ 'i' from notI, show letter ≠ 's' from notS, show letter ≠ 'k' from notK]

/-! ## Marks and tokens -/

namespace Mark

/-- A text that a mark stands for: its characters are of the mark's classes. -/
def Matches (mark : Mark) (token : List Char) : Prop :=
  List.Forall₂ (fun p c => p c = true) mark token

theorem matches_word {text : String} {token : List Char} :
    (word text).Matches token ↔ token = text.toList := by
  rw [Matches, word, List.forall₂_map_left_iff]
  simp only [beq_iff_eq]
  rw [List.forall₂_eq_eq_eq, eq_comm]

theorem matches_anyCase {text : String} (lower : ∀ letter ∈ text.toList, letter.isLower = true)
    {token : List Char} :
    (anyCase text).Matches token ↔
      List.Forall₂ (fun letter c => c ∈ caseForms letter) text.toList token := by
  rw [Matches, anyCase, List.forall₂_map_left_iff]
  generalize text.toList = letters at lower ⊢
  induction letters generalizing token with
  | nil => simp only [List.forall₂_nil_left_iff]
  | cons letter letters ih =>
    obtain ⟨here, more⟩ := List.forall_mem_cons.1 lower
    simp only [List.forall₂_cons_left_iff, sameLetter_iff here, ih more]

theorem matches_append {front back : Mark} {token : List Char} :
    (front ++ back).Matches token ↔
      ∃ before after, front.Matches before ∧ back.Matches after ∧ token = before ++ after := by
  constructor
  · intro fits
    have sides := fits.flip
    exact ⟨token.take front.length, token.drop front.length,
      (List.forall₂_take_append token front back sides).flip,
      (List.forall₂_drop_append token front back sides).flip, (List.take_append_drop _ _).symm⟩
  · rintro ⟨before, after, first, second, rfl⟩
    exact List.rel_append first second

theorem rest?_eq_some_iff {mark : Mark} {cs after : List Char} :
    mark.rest? cs = some after ↔ ∃ token, mark.Matches token ∧ cs = token ++ after := by
  induction mark generalizing cs with
  | nil =>
    simp only [rest?, Matches, List.forall₂_nil_left_iff, exists_eq_left, List.nil_append,
      Option.some.injEq]
  | cons p mark ih =>
    constructor
    · intro rest
      cases cs with
      | nil => cases rest
      | cons c cs =>
        rw [rest?] at rest
        split at rest
        case isFalse => cases rest
        case isTrue here =>
          obtain ⟨token, fits, rfl⟩ := ih.1 rest
          exact ⟨c :: token, .cons here fits, rfl⟩
    · rintro ⟨token, fits, rfl⟩
      obtain ⟨c, rest, here, more, rfl⟩ := List.forall₂_cons_left_iff.1 fits
      rw [List.cons_append, rest?, if_pos here]
      exact ih.2 ⟨rest, more, rfl⟩

end Mark

namespace Browser

/-- The texts that come before the version of a browser. -/
def IsVersionToken : Browser → List Char → Prop
  | operaMini, _ => False
  | opera, token => token = "Opera/".toList ∨ token = "OPR/".toList
  | edge, token => token = "Edge/".toList ∨ token = "Edg/".toList
  | chrome, token => token = "Chrome/".toList
  | chromeIos, token => token = "CriOS/".toList
  | firefoxIos, token => token = "FxiOS/".toList
  | mobileSafari, token | safari, token => token = "Version/".toList
  | android, token => ∃ letters blank, token = letters ++ [blank] ∧
      List.Forall₂ (fun letter c => c ∈ caseForms letter) "android".toList letters ∧
      isBlank blank = true
  | firefox, token => token = "Firefox/".toList
  | mozilla, token => token = "rv:".toList

theorem isVersionToken_iff {browser : Browser} {token : List Char} :
    browser.IsVersionToken token ↔ ∃ mark ∈ browser.versionMarks, mark.Matches token := by
  cases browser
  case android =>
    have lower : ∀ letter ∈ "android".toList, letter.isLower = true := List.all_eq_true.1 rfl
    simp only [IsVersionToken, versionMarks, List.exists_mem_cons_iff, List.not_mem_nil,
      false_and, exists_false, or_false, Mark.matches_append, Mark.matches_anyCase lower]
    constructor
    · rintro ⟨letters, blank, rfl, fits, space⟩
      exact ⟨letters, [blank], fits, .cons space .nil, rfl⟩
    · rintro ⟨letters, rest, fits, last, rfl⟩
      obtain ⟨blank, none, space, nothing, rfl⟩ := List.forall₂_cons_left_iff.1 last
      rw [List.forall₂_nil_left_iff.1 nothing]
      exact ⟨letters, blank, rfl, fits, space⟩
  all_goals simp [IsVersionToken, versionMarks, Mark.matches_word]

/-- No token of a browser goes on where another one ends. -/
theorem eq_of_isVersionToken {browser : Browser} {token longer : List Char}
    (short : browser.IsVersionToken token) (long : browser.IsVersionToken longer)
    (goesOn : token <+: longer) : token = longer := by
  cases browser
  case operaMini => cases short
  case opera | edge =>
    rcases short with rfl | rfl <;> rcases long with rfl | rfl
    all_goals first | rfl | exact absurd goesOn (by decide)
  case android =>
    obtain ⟨letters, blank, rfl, fits, -⟩ := short
    obtain ⟨others, blank', rfl, fits', -⟩ := long
    refine goesOn.eq_of_length ?_
    rw [List.length_append, List.length_append, ← fits.length_eq, ← fits'.length_eq]
    rfl
  all_goals exact Eq.trans short (Eq.symm long)

end Browser

/-! ## The longest decimal -/

/-- A decimal at the front of a text, and no longer one is there. -/
structure LongestDecimal (cs number : List Char) : Prop where
  decimal : IsDecimalNumber number
  front : number <+: cs
  longest : ∀ other, IsDecimalNumber other → other <+: cs → other.length ≤ number.length

theorem LongestDecimal.unique {cs number other : List Char} (one : LongestDecimal cs number)
    (two : LongestDecimal cs other) : number = other := by
  have shorter := two.longest number one.decimal one.front
  have longer := one.longest other two.decimal two.front
  exact (List.prefix_of_prefix_length_le one.front two.front shorter).eq_of_length
    (Nat.le_antisymm shorter longer)

theorem decimalDigits_takeWhile (cs : List Char) : DecimalDigits (cs.takeWhile isDecimalDigit) :=
  List.all_eq_true.1 List.all_takeWhile

theorem length_le_of_digits {digits cs : List Char} (all : DecimalDigits digits)
    (front : digits <+: cs) : digits.length ≤ (cs.takeWhile isDecimalDigit).length := by
  obtain ⟨rest, rfl⟩ := front
  rw [List.takeWhile_append_of_pos all, List.length_append]
  exact Nat.le_add_right _ _

/-- A decimal with a fraction has all the digits at the front, and its point comes next. -/
theorem exists_point_of_fraction {digits fraction cs : List Char} (all : DecimalDigits digits)
    (more : DecimalDigits fraction) (front : digits ++ '.' :: fraction <+: cs) :
    ∃ rest, cs.takeWhile isDecimalDigit = digits ∧ cs.dropWhile isDecimalDigit = '.' :: rest ∧
      fraction.length ≤ (rest.takeWhile isDecimalDigit).length := by
  obtain ⟨tail, rfl⟩ := front
  have point : ¬ isDecimalDigit '.' = true := by decide
  refine ⟨fraction ++ tail, ?_, ?_, length_le_of_digits more (List.prefix_append _ _)⟩
  · rw [List.append_assoc, List.takeWhile_append_of_pos all, List.cons_append,
      List.takeWhile_cons_of_neg point, List.append_nil]
  · rw [List.append_assoc, List.dropWhile_append_of_pos all, List.cons_append,
      List.dropWhile_cons_of_neg point]

theorem exists_leadingVersion?_iff {cs : List Char} :
    (∃ number, leadingVersion? cs = some number) ↔
      ∃ digit rest, cs = digit :: rest ∧ isDecimalDigit digit = true := by
  have digits : (∃ number, leadingVersion? cs = some number) ↔
      cs.takeWhile isDecimalDigit ≠ [] := by
    unfold leadingVersion?
    dsimp only
    split
    case isTrue none => simp [none]
    case isFalse some => split <;> simp [some]
  rw [digits]
  cases cs with
  | nil => simp
  | cons c cs => cases here : isDecimalDigit c <;> simp [here]

/-- What is taken from the front of a text is the longest decimal there. -/
theorem longestDecimal_of_leadingVersion? {cs number : List Char}
    (taken : leadingVersion? cs = some number) : LongestDecimal cs number := by
  have parts := List.takeWhile_append_dropWhile (p := isDecimalDigit) (l := cs)
  have all := decimalDigits_takeWhile cs
  -- With no fraction to take, a longer decimal would have to be one with a fraction.
  have whole (digits : cs.takeWhile isDecimalDigit ≠ [])
      (bare : ∀ rest, cs.dropWhile isDecimalDigit = '.' :: rest →
        rest.takeWhile isDecimalDigit = []) :
      LongestDecimal cs (cs.takeWhile isDecimalDigit) := by
    refine ⟨.whole digits all, List.takeWhile_prefix _, ?_⟩
    rintro _ (⟨-, same⟩ | ⟨-, same, some, more⟩) front
    · exact length_le_of_digits same front
    · obtain ⟨rest, -, point, fits⟩ := exists_point_of_fraction same more front
      rw [bare rest point] at fits
      exact absurd (List.eq_nil_of_length_eq_zero (Nat.le_zero.1 fits)) some
  unfold leadingVersion? at taken
  dsimp only at taken
  split at taken
  case isTrue => cases taken
  case isFalse digits =>
    split at taken
    case h_2 other =>
      cases taken
      exact whole digits fun rest point => absurd point (other rest)
    case h_1 rest point =>
      cases taken
      split
      case isTrue bare =>
        refine whole digits fun rest' point' => ?_
        cases point.symm.trans point'
        exact bare
      case isFalse fraction =>
        refine ⟨.fraction digits all fraction (decimalDigits_takeWhile rest), ?_, ?_⟩
        · rw [point] at parts
          exact ⟨rest.dropWhile isDecimalDigit, by
            rw [List.append_assoc, List.cons_append, List.takeWhile_append_dropWhile, parts]⟩
        · rw [List.length_append, List.length_cons]
          rintro _ (⟨-, same⟩ | ⟨-, same, -, more⟩) front
          · have fits := length_le_of_digits same front
            omega
          · obtain ⟨rest', front', point', fits⟩ := exists_point_of_fraction same more front
            cases point.symm.trans point'
            rw [List.length_append, List.length_cons, front']
            omega

/-! ## The leftmost place -/

/-- A place of a text where a token stands right before a decimal digit: the text is `before`, the
token and `after`. -/
structure VersionAt (IsToken : List Char → Prop) (text before after : List Char) : Prop where
  token : ∃ token, IsToken token ∧ text = before ++ token ++ after
  digit : ∃ digit rest, after = digit :: rest ∧ isDecimalDigit digit = true

/-- The leftmost of such places. -/
structure FirstVersionAt (IsToken : List Char → Prop) (text before after : List Char) : Prop
    extends VersionAt IsToken text before after where
  leftmost : ∀ before' after', VersionAt IsToken text before' after' →
    before.length ≤ before'.length

/-- Where a token can go on as no other one, a text has one leftmost place. -/
theorem FirstVersionAt.after_eq {IsToken : List Char → Prop} {text before after : List Char}
    {before' after' : List Char}
    (apart : ∀ token longer, IsToken token → IsToken longer → token <+: longer → token = longer)
    (one : FirstVersionAt IsToken text before after)
    (two : FirstVersionAt IsToken text before' after') : after = after' := by
  obtain ⟨token, is, rfl⟩ := one.token
  obtain ⟨token', is', same⟩ := two.token
  have sameLength : before.length = before'.length :=
    Nat.le_antisymm (one.leftmost _ _ two.toVersionAt) (two.leftmost _ _ one.toVersionAt)
  rw [List.append_assoc, List.append_assoc] at same
  obtain ⟨rfl, rest⟩ := List.append_inj same sameLength
  have sameToken : token = token' := by
    rcases List.prefix_or_prefix_of_prefix (List.prefix_append token after)
      (rest ▸ List.prefix_append token' after') with shorter | longer
    · exact apart token token' is is' shorter
    · exact (apart token' token is' is longer).symm
  subst sameToken
  exact List.append_cancel_left rest

section Search

variable {marks : List Mark} {IsToken : List Char → Prop}

theorem versionAt_cons_iff {c c' : Char} {text before after : List Char} :
    VersionAt IsToken (c :: text) (c' :: before) after ↔
      c = c' ∧ VersionAt IsToken text before after := by
  constructor
  · rintro ⟨⟨token, is, same⟩, digit⟩
    cases same
    exact ⟨rfl, ⟨token, is, rfl⟩, digit⟩
  · rintro ⟨rfl, ⟨token, is, rfl⟩, digit⟩
    exact ⟨⟨token, is, rfl⟩, digit⟩

theorem not_versionAt_nil {before after : List Char} : ¬ VersionAt IsToken [] before after := by
  rintro ⟨⟨token, -, same⟩, digit, rest, rfl, -⟩
  cases (List.append_eq_nil_iff.1 same.symm).2

/-- One place of a text is tried mark by mark. -/
theorem exists_versionAt_of_findSome?
    (tokens : ∀ token, IsToken token ↔ ∃ mark ∈ marks, mark.Matches token)
    {text number : List Char}
    (found : marks.findSome? (fun mark => (mark.rest? text).bind leadingVersion?) = some number) :
    ∃ after, VersionAt IsToken text [] after ∧ leadingVersion? after = some number := by
  obtain ⟨mark, mem, here⟩ := List.exists_of_findSome?_eq_some found
  obtain ⟨after, rest, taken⟩ := Option.bind_eq_some_iff.1 here
  obtain ⟨token, fits, rfl⟩ := Mark.rest?_eq_some_iff.1 rest
  exact ⟨after, ⟨⟨token, (tokens token).2 ⟨mark, mem, fits⟩, rfl⟩,
    exists_leadingVersion?_iff.1 ⟨number, taken⟩⟩, taken⟩

theorem not_versionAt_of_findSome?
    (tokens : ∀ token, IsToken token ↔ ∃ mark ∈ marks, mark.Matches token) {text : List Char}
    (missing : marks.findSome? (fun mark => (mark.rest? text).bind leadingVersion?) = none)
    (after : List Char) : ¬ VersionAt IsToken text [] after := by
  rintro ⟨⟨token, is, rfl⟩, digit⟩
  obtain ⟨mark, mem, fits⟩ := (tokens token).1 is
  obtain ⟨number, taken⟩ := exists_leadingVersion?_iff.2 digit
  have here := List.findSome?_eq_none_iff.1 missing mark mem
  rw [List.nil_append, Mark.rest?_eq_some_iff.2 ⟨token, fits, rfl⟩, Option.bind_some, taken] at here
  cases here

/-- A search that finds nothing has passed no place. -/
theorem not_versionAt_of_versionText?
    (tokens : ∀ token, IsToken token ↔ ∃ mark ∈ marks, mark.Matches token) {text : List Char}
    (missing : versionText? marks text = none) (before after : List Char) :
    ¬ VersionAt IsToken text before after := by
  induction text generalizing before with
  | nil => exact not_versionAt_nil
  | cons c text ih =>
    rw [versionText?] at missing
    split at missing
    case h_1 => cases missing
    case h_2 none =>
      cases before with
      | nil => exact not_versionAt_of_findSome? tokens none after
      | cons c' before => exact fun here => ih missing before (versionAt_cons_iff.1 here).2

/-- A search that finds something has found it at the leftmost place. -/
theorem exists_firstVersionAt
    (tokens : ∀ token, IsToken token ↔ ∃ mark ∈ marks, mark.Matches token)
    {text number : List Char} (found : versionText? marks text = some number) :
    ∃ before after, FirstVersionAt IsToken text before after ∧
      leadingVersion? after = some number := by
  induction text with
  | nil => cases found
  | cons c text ih =>
    rw [versionText?] at found
    split at found
    case h_1 some =>
      cases found
      obtain ⟨after, here, taken⟩ := exists_versionAt_of_findSome? tokens some
      exact ⟨[], after, ⟨here, fun _ _ _ => Nat.zero_le _⟩, taken⟩
    case h_2 none =>
      obtain ⟨before, after, ⟨here, leftmost⟩, taken⟩ := ih found
      refine ⟨c :: before, after,
        ⟨versionAt_cons_iff.2 ⟨rfl, here⟩, fun before' after' there => ?_⟩, taken⟩
      cases before' with
      | nil => exact absurd there (not_versionAt_of_findSome? tokens none after')
      | cons c' before' =>
        exact Nat.succ_le_succ (leftmost before' after' (versionAt_cons_iff.1 there).2)

end Search

namespace Browser

theorem version?_eq_none_iff {browser : Browser} {userAgent : String} :
    browser.version? userAgent = none ↔
      ∀ before after, ¬ VersionAt browser.IsVersionToken userAgent.toList before after := by
  constructor
  · intro none before after here
    rw [version?, Option.bind_eq_none_iff] at none
    cases found : versionText? browser.versionMarks userAgent.toList with
    | none => exact not_versionAt_of_versionText? (fun _ => isVersionToken_iff) found _ _ here
    | some number =>
      obtain ⟨before, after, -, taken⟩ :=
        exists_firstVersionAt (fun _ => isVersionToken_iff) found
      obtain ⟨d, read⟩ := Double.exists_read?_of_isDecimalNumber
        (longestDecimal_of_leadingVersion? taken).decimal
      exact Option.some_ne_none d (read.symm.trans (none number found))
  · intro nowhere
    cases found : versionText? browser.versionMarks userAgent.toList with
    | none => rw [version?, found, Option.bind_none]
    | some number =>
      obtain ⟨before, after, first, -⟩ := exists_firstVersionAt (fun _ => isVersionToken_iff) found
      exact absurd first.toVersionAt (nowhere before after)

theorem version?_eq_some_iff {browser : Browser} {userAgent : String} {d : Double} :
    browser.version? userAgent = some d ↔
      ∃ before after number, FirstVersionAt browser.IsVersionToken userAgent.toList before after ∧
        LongestDecimal after number ∧ Double.read? number = some d := by
  rw [version?, Option.bind_eq_some_iff]
  constructor
  · rintro ⟨number, found, read⟩
    obtain ⟨before, after, first, taken⟩ :=
      exists_firstVersionAt (fun _ => isVersionToken_iff) found
    exact ⟨before, after, number, first, longestDecimal_of_leadingVersion? taken, read⟩
  · rintro ⟨before, after, number, first, longest, read⟩
    cases found : versionText? browser.versionMarks userAgent.toList with
    | none =>
      exact absurd first.toVersionAt
        (not_versionAt_of_versionText? (fun _ => isVersionToken_iff) found before after)
    | some number' =>
      obtain ⟨before', after', first', taken⟩ :=
        exists_firstVersionAt (fun _ => isVersionToken_iff) found
      have same : after = after' :=
        first.after_eq (fun _ _ short long => eq_of_isVersionToken short long) first'
      subst same
      refine ⟨number', rfl, ?_⟩
      rw [(longestDecimal_of_leadingVersion? taken).unique longest, read]

end Browser

/-- The version is missing exactly where the browser is unknown or none of its tokens stands before
a decimal digit. Where there is one it is the longest decimal after the leftmost such token, as a
double, and no text that is found is left unread. -/
theorem detected_version_spec (userAgent vendor : String) (opera : Bool) :
    ((Browser.detect userAgent vendor opera).bind (·.version? userAgent) = none ↔
      ∀ browser ∈ Browser.detect userAgent vendor opera, ∀ before after,
        ¬ VersionAt browser.IsVersionToken userAgent.toList before after) ∧
    (∀ d, (Browser.detect userAgent vendor opera).bind (·.version? userAgent) = some d ↔
      ∃ browser ∈ Browser.detect userAgent vendor opera, ∃ before after number,
        FirstVersionAt browser.IsVersionToken userAgent.toList before after ∧
        LongestDecimal after number ∧ Double.read? number = some d) ∧
    ∀ browser ∈ Browser.detect userAgent vendor opera, ∀ number,
      versionText? browser.versionMarks userAgent.toList = some number →
        ∃ d, Double.read? number = some d := by
  refine ⟨?missing, fun d => ?stated, ?read⟩
  case missing =>
    rw [Option.bind_eq_none_iff]
    exact forall₂_congr fun browser _ => Browser.version?_eq_none_iff
  case stated =>
    rw [Option.bind_eq_some_iff]
    exact exists_congr fun browser => and_congr_right fun _ => Browser.version?_eq_some_iff
  case read =>
    intro browser _ number found
    obtain ⟨before, after, -, taken⟩ :=
      exists_firstVersionAt (fun _ => Browser.isVersionToken_iff) found
    exact Double.exists_read?_of_isDecimalNumber (longestDecimal_of_leadingVersion? taken).decimal

/-- Digits of another script are read, and a second point ends the version. -/
theorem detected_version_of_edge :
    ∃ d, Double.read? "\u0661\u0662.\u0663".toList = some d ∧
      (Browser.detect "Edg/\u0661\u0662.\u0663.4" "" false).bind
        (·.version? "Edg/\u0661\u0662.\u0663.4") = some d := by
  have longest : LongestDecimal "\u0661\u0662.\u0663.4".toList "\u0661\u0662.\u0663".toList :=
    longestDecimal_of_leadingVersion? (by decide)
  obtain ⟨d, read⟩ := Double.exists_read?_of_isDecimalNumber longest.decimal
  have here : VersionAt Browser.edge.IsVersionToken "Edg/\u0661\u0662.\u0663.4".toList []
      "\u0661\u0662.\u0663.4".toList :=
    ⟨⟨"Edg/".toList, .inr rfl, by decide⟩, '\u0661', "\u0662.\u0663.4".toList, by decide, by decide⟩
  refine ⟨d, read, ((detected_version_spec _ "" false).2.1 d).2 ⟨.edge, by decide, [], _, _,
    ⟨here, fun _ _ _ => Nat.zero_le _⟩, longest, read⟩⟩

end EventTracker
