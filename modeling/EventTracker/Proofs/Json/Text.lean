import EventTracker.Json.Text
import EventTracker.Proofs.Text.CodePoint

/-!
# Strings are read as they were written

A written code point is read as one piece or as two, which `pointPieces` gives; pieces that
were written are joined as the code points are that they were written from
(`joinPieces_flatMap`). So quoted text is read back in either form of writing, but for
surrogates that stand for a character together.
-/

namespace EventTracker.Json

open CodePoint

/-- The characters that are escaped by one letter. -/
def hasLetter (c : Char) : Bool :=
  c = '"' || c = '\\' || c = '\n' || c = '\r' || c = '\t' || c = '\x08' || c = '\x0c'

/-- The pieces that a written character is read as. -/
def charPieces (ascii : Bool) (c : Char) : List Piece :=
  if hasLetter c then [.point (.char c)]
  else if c.toNat < 0x20 then [.unit c.toNat]
  else if !ascii || c.toNat < 0x7F then [.point (.char c)]
  else if c.toNat < 0x10000 then [.unit c.toNat]
  else [.unit (0xD800 + (c.toNat - 0x10000) / 0x400), .unit (0xDC00 + (c.toNat - 0x10000) % 0x400)]

/-- The pieces that a written code point is read as. -/
def pointPieces (ascii : Bool) : CodePoint → List Piece
  | .char c => charPieces ascii c
  | .surrogate n => [.unit (0xD800 + n)]

/-! ## Reading pieces -/

theorem readPieces?_unitEscape {unit : Nat} (h : unit < 0x10000) (rest : List CodePoint) :
    readPieces? (ofChars (unitEscape unit) ++ rest) =
      (readPieces? rest).map fun (pieces, after) => (.unit unit :: pieces, after) := by
  have read : readHex? (hexText 4 unit) = some unit := readHex?_hexText h
  have four := length_hexText 4 unit
  unfold unitEscape
  match hexText 4 unit, four, read with
  | [a, b, c, d], _, read => simp [ofChars, readPieces?, read]

/-- A one-letter escape is read as the character it stands for. -/
theorem readPieces?_letter {letter c : Char} (h : escapeLetter? letter = some c)
    (ne : letter ≠ 'u') (rest : List CodePoint) :
    readPieces? (ofChars ['\\', letter] ++ rest) =
      (readPieces? rest).map fun (pieces, after) => (.point (.char c) :: pieces, after) := by
  show readPieces? (.char '\\' :: .char letter :: rest) = _
  rw [readPieces?]
  · rw [h, Option.bind_some]
  · intro _ _ _ _ _ _ same
    exact ne same

theorem readPieces?_plain {p : CodePoint} (quote : p ≠ .char '"') (backslash : p ≠ .char '\\')
    (printable : 0x20 ≤ p.toNat) (rest : List CodePoint) :
    readPieces? (p :: rest) =
      (readPieces? rest).map fun (pieces, after) => (.point p :: pieces, after) := by
  rw [readPieces?]
  · rw [if_neg]
    rintro (control | eq)
    · omega
    · exact backslash eq
  · exact quote
  · intro _ _ _ _ _ eq
    exact absurd eq backslash
  · intro _ _ eq
    exact absurd eq backslash

theorem hasLetter_iff {c : Char} : hasLetter c = true ↔
    (c = '"' ∨ c = '\\') ∨ c = '\n' ∨ c = '\r' ∨ c = '\t' ∨ c = '\x08' ∨ c = '\x0c' := by
  simp [hasLetter, or_assoc]

theorem exists_escapeChar_eq {c : Char} (has : hasLetter c = true) (ascii : Bool) :
    ∃ letter, escapeChar ascii c = ['\\', letter] ∧ escapeLetter? letter = some c ∧ letter ≠ 'u' := by
  rcases hasLetter_iff.1 has with (rfl | rfl) | rfl | rfl | rfl | rfl | rfl <;>
    exact ⟨_, rfl, rfl, by decide⟩

theorem escapeChar_eq {c : Char} (has : ¬hasLetter c = true) (ascii : Bool) :
    escapeChar ascii c =
      if c.toNat < 0x20 then unitEscape c.toNat
      else if !ascii || c.toNat < 0x7F then [c]
      else if c.toNat < 0x10000 then unitEscape c.toNat
      else unitEscape (0xD800 + (c.toNat - 0x10000) / 0x400) ++
        unitEscape (0xDC00 + (c.toNat - 0x10000) % 0x400) := by
  simp only [hasLetter_iff, not_or] at has
  obtain ⟨⟨quote, backslash⟩, feed, back, tab, eight, twelve⟩ := has
  rw [escapeChar, if_neg (not_or.2 ⟨quote, backslash⟩), if_neg feed, if_neg back, if_neg tab,
    if_neg eight, if_neg twelve]

/-- A written character is read as its pieces. -/
theorem readPieces?_escapeChar (ascii : Bool) (c : Char) (rest : List CodePoint) :
    readPieces? (ofChars (escapeChar ascii c) ++ rest) =
      (readPieces? rest).map fun (pieces, after) => (charPieces ascii c ++ pieces, after) := by
  have bounds := toNat_bounds c
  unfold charPieces
  by_cases has : hasLetter c
  · obtain ⟨letter, text, escapes, ne⟩ := exists_escapeChar_eq has ascii
    rw [text, if_pos has]
    exact readPieces?_letter escapes ne rest
  rw [escapeChar_eq has, if_neg has]
  split
  case isTrue control => exact readPieces?_unitEscape (by omega) rest
  case isFalse control =>
  split
  case isTrue =>
    simp only [hasLetter_iff, not_or] at has
    exact readPieces?_plain (p := .char c) (by simpa using has.1.1) (by simpa using has.1.2)
      (Nat.le_of_not_lt control) rest
  case isFalse =>
  split
  case isTrue small => exact readPieces?_unitEscape small rest
  case isFalse large =>
    rw [ofChars_append, List.append_assoc, readPieces?_unitEscape (by omega),
      readPieces?_unitEscape (by omega), Option.map_map]
    rfl

theorem readPieces?_escapePoint (ascii : Bool) (p : CodePoint) (rest : List CodePoint) :
    readPieces? (ofChars (escapePoint ascii p) ++ rest) =
      (readPieces? rest).map fun (pieces, after) => (pointPieces ascii p ++ pieces, after) := by
  cases p with
  | char c => exact readPieces?_escapeChar ascii c rest
  | surrogate n =>
    have bound := n.2
    exact readPieces?_unitEscape (by omega) rest

theorem readPieces?_flatMap (ascii : Bool) (ps rest : List CodePoint) :
    readPieces? (ofChars (ps.flatMap (escapePoint ascii)) ++ .char '"' :: rest) =
      some (ps.flatMap (pointPieces ascii), rest) := by
  induction ps with
  | nil => simp [readPieces?, ofChars]
  | cons p ps ih =>
    rw [List.flatMap_cons, ofChars_append, List.append_assoc, readPieces?_escapePoint, ih]
    rfl

/-! ## Joining pieces -/

theorem joinPieces_point (p : CodePoint) (rest : List Piece) :
    joinPieces (.point p :: rest) = p :: joinPieces rest := by
  rw [joinPieces]

theorem joinPieces_unit_unit (m n : Nat) (rest : List Piece) :
    joinPieces (.unit m :: .unit n :: rest) =
      match pair? (.ofNat m) (.ofNat n) with
      | some c => .char c :: joinPieces rest
      | none => .ofNat m :: joinPieces (.unit n :: rest) := by
  cases joined : pair? (.ofNat m) (.ofNat n) <;> simp only [joinPieces, joined]

/-- A unit that forms no pair with the one after it stands for itself. -/
theorem joinPieces_unit {m : Nat} {rest : List Piece}
    (apart : ∀ n more, rest = .unit n :: more → pair? (.ofNat m) (.ofNat n) = none) :
    joinPieces (.unit m :: rest) = .ofNat m :: joinPieces rest := by
  match rest, apart with
  | [], _ => rfl
  | .point p :: more, _ => rw [joinPieces]; rintro n more' ⟨⟩
  | .unit n :: more, apart => rw [joinPieces_unit_unit, apart n more rfl]

theorem joinPieces_unit_char (c : Char) (rest : List Piece) :
    joinPieces (.unit c.toNat :: rest) = .char c :: joinPieces rest := by
  rw [joinPieces_unit fun n more _ => by rw [ofNat_char, pair?_char], ofNat_char]

/-- The two units of a character beyond the first plane. -/
theorem ofNat_units {c : Char} (large : 0x10000 ≤ c.toNat) :
    ∃ high low : Fin 0x800,
      CodePoint.ofNat (0xD800 + (c.toNat - 0x10000) / 0x400) = .surrogate high ∧
      CodePoint.ofNat (0xDC00 + (c.toNat - 0x10000) % 0x400) = .surrogate low ∧
      high.val < 0x400 ∧ pair? (.surrogate high) (.surrogate low) = some c := by
  have bounds := toNat_bounds c
  let high : Fin 0x800 := ⟨(c.toNat - 0x10000) / 0x400, by omega⟩
  let low : Fin 0x800 := ⟨0x400 + (c.toNat - 0x10000) % 0x400, by omega⟩
  refine ⟨high, low, ofNat_surrogate high, ?_, ?_, ?_⟩
  · rw [show 0xDC00 + (c.toNat - 0x10000) % 0x400 = 0xD800 + low.val by simp only [low]; omega]
    exact ofNat_surrogate low
  · simp only [high]
    omega
  · have whole : 0x10000 + high.val * 0x400 + (low.val - 0x400) = c.toNat := by
      simp only [high, low]
      omega
    rw [pair?, if_pos (by simp only [high, low]; omega), whole, Char.ofNat_toNat]

/-- The pieces of a character are joined to it, whatever follows them. -/
theorem joinPieces_charPieces (ascii : Bool) (c : Char) (rest : List Piece) :
    joinPieces (charPieces ascii c ++ rest) = .char c :: joinPieces rest := by
  unfold charPieces
  split
  case isTrue => exact joinPieces_point _ rest
  case isFalse =>
  split
  case isTrue => exact joinPieces_unit_char c rest
  case isFalse =>
  split
  case isTrue => exact joinPieces_point _ rest
  case isFalse =>
  split
  case isTrue => exact joinPieces_unit_char c rest
  case isFalse large =>
    obtain ⟨high, low, first, second, -, pair⟩ := ofNat_units (Nat.not_lt.1 large)
    rw [List.cons_append, List.cons_append, List.nil_append, joinPieces_unit_unit, first, second, pair]

/-- The first unit of a character forms no pair with one before it. -/
theorem pair?_first_unit {ascii : Bool} {c : Char} {n : Nat} {more : List Piece}
    (first : charPieces ascii c = .unit n :: more) (p : CodePoint) : pair? p (.ofNat n) = none := by
  unfold charPieces at first
  split at first
  case isTrue => cases first
  case isFalse =>
  split at first
  case isTrue =>
    cases first
    rw [ofNat_char, pair?_to_char]
  case isFalse =>
  split at first
  case isTrue => cases first
  case isFalse =>
  split at first
  case isTrue =>
    cases first
    rw [ofNat_char, pair?_to_char]
  case isFalse large =>
    obtain ⟨high, -, same, -, former, -⟩ := ofNat_units (Nat.not_lt.1 large)
    cases first
    rw [same]
    cases p with
    | char c => exact pair?_char c _
    | surrogate m => rw [pair?, if_neg (by omega)]

theorem charPieces_ne_nil (ascii : Bool) (c : Char) : charPieces ascii c ≠ [] := by
  unfold charPieces
  repeat' split
  all_goals exact List.cons_ne_nil _ _

/-- The pieces of code points are joined as the code points are. -/
theorem joinPieces_flatMap (ascii : Bool) (ps : List CodePoint) :
    joinPieces (ps.flatMap (pointPieces ascii)) = joinPairs ps := by
  induction ps using joinPairs.induct with
  | case1 p q rest c pair ih =>
    cases p with
    | char d => cases (pair?_char d q).symm.trans pair
    | surrogate m =>
      cases q with
      | char d => cases (pair?_to_char _ d).symm.trans pair
      | surrogate n =>
        rw [joinPairs_of_pair? pair, ← ih, List.flatMap_cons, List.flatMap_cons, pointPieces,
          pointPieces, List.singleton_append, List.singleton_append, joinPieces_unit_unit,
          ofNat_surrogate, ofNat_surrogate, pair]
  | case2 p q rest apart ih =>
    rw [List.flatMap_cons, joinPairs_of_pair?_eq_none apart, ← ih]
    cases p with
    | char c => exact joinPieces_charPieces ascii c _
    | surrogate m =>
      -- the next piece is the first one of the code point that follows
      rw [pointPieces, List.singleton_append, joinPieces_unit, ofNat_surrogate]
      intro n more first
      rw [ofNat_surrogate]
      cases q with
      | char c =>
        obtain ⟨piece, others, pieces⟩ := List.exists_cons_of_ne_nil (charPieces_ne_nil ascii c)
        rw [List.flatMap_cons, pointPieces, pieces, List.cons_append] at first
        rw [(List.cons.inj first).1] at pieces
        exact pair?_first_unit pieces _
      | surrogate k =>
        rw [List.flatMap_cons, pointPieces, List.singleton_append] at first
        obtain rfl := Piece.unit.inj (List.cons.inj first).1
        rw [ofNat_surrogate]
        exact apart
  | case3 p =>
    rw [List.flatMap_singleton]
    cases p with
    | char c =>
      have joined := joinPieces_charPieces ascii c []
      rwa [List.append_nil] at joined
    | surrogate n =>
      show [CodePoint.ofNat (0xD800 + n)] = _
      rw [ofNat_surrogate]
      rfl
  | case4 => rfl

/-- What comes first of joined pieces is a character or the piece that comes first. -/
theorem head?_joinPieces_unit (m : Nat) (rest : List Piece) :
    (∃ c, (joinPieces (.unit m :: rest)).head? = some (.char c)) ∨
      (joinPieces (.unit m :: rest)).head? = some (.ofNat m) := by
  match rest with
  | [] => exact .inr rfl
  | .point p :: more =>
    refine .inr ?_
    rw [joinPieces_unit (by rintro n more' ⟨⟩)]
    rfl
  | .unit n :: more =>
    rw [joinPieces_unit_unit]
    split
    · exact .inl ⟨_, rfl⟩
    · exact .inr rfl

/-- Where only units may be surrogates, nothing is left to join. -/
theorem apart_joinPieces {pieces : List Piece}
    (proper : ∀ p, .point p ∈ pieces → p.isSurrogate = false) : Apart (joinPieces pieces) := by
  induction pieces using joinPieces.induct with
  | case1 m n rest c pair ih =>
    rw [joinPieces_unit_unit, pair]
    exact List.isChain_cons.2 ⟨fun next _ => pair?_char c next,
      ih fun p mem => proper p (by simp [mem])⟩
  | case2 m n rest apart ih =>
    rw [joinPieces_unit_unit, apart]
    refine List.isChain_cons.2 ⟨fun next first => ?_, ih fun p mem => proper p (by simp [mem])⟩
    rcases head?_joinPieces_unit n rest with ⟨c, head⟩ | head
    · cases head.symm.trans first
      exact pair?_to_char _ c
    · cases head.symm.trans first
      exact apart
  | case3 m rest alone ih =>
    rw [joinPieces_unit fun n more split => absurd split (alone n more)]
    refine List.isChain_cons.2 ⟨fun next first => ?_, ih fun p mem => proper p (by simp [mem])⟩
    match rest, alone, first with
    | .unit n :: more, alone, _ => exact absurd rfl (alone n more)
    | .point p :: more, _, first =>
      rw [joinPieces_point] at first
      obtain rfl : p = next := Option.some.inj first
      obtain ⟨c, rfl⟩ := exists_eq_char (proper p (by simp))
      exact pair?_to_char _ c
  | case4 p rest ih =>
    rw [joinPieces_point]
    refine List.isChain_cons.2 ⟨fun next _ => ?_, ih fun q mem => proper q (by simp [mem])⟩
    obtain ⟨c, rfl⟩ := exists_eq_char (proper p List.mem_cons_self)
    exact pair?_char c next
  | case5 => exact List.isChain_nil

/-- What is read up to the closing quote, and what is left, comes of the text. -/
theorem of_readPieces? {ps : List CodePoint} {pieces : List Piece} {after : List CodePoint}
    (read : readPieces? ps = some (pieces, after)) :
    after ⊆ ps ∧ ∀ p, .point p ∈ pieces → p ∈ ps ∨ p.isSurrogate = false := by
  induction ps using readPieces?.induct generalizing pieces with
  | case1 => cases read
  | case2 rest =>
    rw [readPieces?] at read
    cases read
    exact ⟨List.subset_cons_self _ _, fun p mem => absurd mem List.not_mem_nil⟩
  | case3 a b c d rest ih =>
    rw [readPieces?] at read
    obtain ⟨n, -, read⟩ := Option.bind_eq_some_iff.1 read
    obtain ⟨⟨later, after⟩, read, same⟩ := Option.map_eq_some_iff.1 read
    cases same
    obtain ⟨left, points⟩ := ih read
    refine ⟨fun p mem => by simp [left mem], fun p mem => ?_⟩
    exact (points p (by simpa using mem)).imp_left fun mem => by simp [mem]
  | case4 letter rest other ih =>
    rw [readPieces? ] at read
    · obtain ⟨c, -, read⟩ := Option.bind_eq_some_iff.1 read
      obtain ⟨⟨later, after⟩, read, same⟩ := Option.map_eq_some_iff.1 read
      cases same
      obtain ⟨left, points⟩ := ih read
      refine ⟨fun p mem => by simp [left mem], fun p mem => ?_⟩
      rcases List.mem_cons.1 mem with same | mem
      · cases same
        exact .inr rfl
      · exact (points p mem).imp_left fun mem => by simp [mem]
    · exact other
  | case5 p rest quote escape letter control =>
    rw [readPieces?, if_pos control] at read
    · cases read
    · exact quote
    · exact escape
    · exact letter
  | case6 p rest quote escape letter control ih =>
    rw [readPieces?, if_neg control] at read
    · obtain ⟨⟨later, after⟩, read, same⟩ := Option.map_eq_some_iff.1 read
      cases same
      obtain ⟨left, points⟩ := ih read
      refine ⟨fun q mem => by simp [left mem], fun q mem => ?_⟩
      rcases List.mem_cons.1 mem with same | mem
      · cases same
        exact .inl List.mem_cons_self
      · exact (points q mem).imp_left fun mem => by simp [mem]
    · exact quote
    · exact escape
    · exact letter

/-- Of a text without surrogates a string is read in which nothing is left to join. -/
theorem of_readText? {ps after : List CodePoint} {t : Text}
    (read : readText? ps = some (t, after)) :
    after ⊆ ps ∧ (Proper ps → t.joined = t) := by
  obtain ⟨⟨pieces, after⟩, read, same⟩ := Option.map_eq_some_iff.1 read
  cases same
  obtain ⟨left, points⟩ := of_readPieces? read
  refine ⟨left, fun proper => ?_⟩
  rw [Text.joined_eq_self_iff, Text.points_ofPoints]
  exact apart_joinPieces fun p mem => (points p mem).elim (proper p) id

/-- Quoted text is read back with its pairs joined, whatever follows it. -/
theorem readText?_flatMap (ascii : Bool) (ps rest : List CodePoint) :
    readText? (ofChars (ps.flatMap (escapePoint ascii)) ++ .char '"' :: rest) =
      some (.ofPoints (joinPairs ps), rest) := by
  unfold readText?
  rw [readPieces?_flatMap, Option.map_some]
  simp only [joinPieces_flatMap]

end EventTracker.Json
