import EventTracker.Proofs.Text.Digits
import EventTracker.Text.Hex

/-!
# The grammar of JSON documents

The grammar of RFC 8259, rule by rule. Arrays hold elements and objects hold members, so a
`Part` says what a text is derived as. A document has only the words of the grammar:
scanning it from its start, with what is inside strings left out (`bare`), leaves neither
an `N` nor an `I`.
-/

namespace EventTracker.Json

/-! ## Rules -/

/-- `ws`: blanks, tabs, line feeds and carriage returns. -/
def Ws (cs : List Char) : Prop := ∀ c ∈ cs, c = ' ' ∨ c = '\t' ∨ c = '\n' ∨ c = '\r'

/-- `1*DIGIT` -/
def Digits (cs : List Char) : Prop := cs ≠ [] ∧ AllDigits cs

/-- `int = zero / ( digit1-9 *DIGIT )` -/
inductive Whole : List Char → Prop where
  | zero : Whole ['0']
  | digits {c : Char} {cs : List Char} (first : c ≠ '0') (all : AllDigits (c :: cs)) : Whole (c :: cs)

/-- `[ frac ]`, where `frac = decimal-point 1*DIGIT` -/
inductive Fraction : List Char → Prop where
  | none : Fraction []
  | digits {cs : List Char} (digits : Digits cs) : Fraction ('.' :: cs)

/-- `[ exp ]`, where `exp = e [ minus / plus ] 1*DIGIT` -/
inductive Exponent : List Char → Prop where
  | none : Exponent []
  | digits {e : Char} {sign cs : List Char} (letter : e = 'e' ∨ e = 'E')
    (signed : sign = [] ∨ sign = ['-'] ∨ sign = ['+']) (digits : Digits cs) :
    Exponent (e :: sign ++ cs)

/-- `int [ frac ] [ exp ]` -/
inductive IsMagnitude : List Char → Prop where
  | parts {whole fraction exponent : List Char} (one : Whole whole) (two : Fraction fraction)
    (three : Exponent exponent) : IsMagnitude (whole ++ fraction ++ exponent)

/-- `number = [ minus ] int [ frac ] [ exp ]` -/
inductive IsNumber : List Char → Prop where
  | plus {cs : List Char} (magnitude : IsMagnitude cs) : IsNumber cs
  | minus {cs : List Char} (magnitude : IsMagnitude cs) : IsNumber ('-' :: cs)

/-- `char`: an unescaped character, an escape of one letter, or one of four hexadecimal digits. -/
inductive IsChar : List Char → Prop where
  | unescaped {c : Char} (visible : 0x20 ≤ c.toNat) (noQuote : c ≠ '"') (noEscape : c ≠ '\\') :
    IsChar [c]
  | letter {c : Char} (mem : c ∈ ['"', '\\', '/', 'b', 'f', 'n', 'r', 't']) : IsChar ['\\', c]
  | unit {digits : List Char} (four : digits.length = 4)
    (hex : ∀ d ∈ digits, (hexValue? d).isSome = true) : IsChar ('\\' :: 'u' :: digits)

/-- `*char` -/
inductive IsChars : List Char → Prop where
  | nil : IsChars []
  | cons {cs rest : List Char} (first : IsChar cs) (others : IsChars rest) : IsChars (cs ++ rest)

/-- `string = quotation-mark *char quotation-mark` -/
inductive IsString : List Char → Prop where
  | quoted {cs : List Char} (chars : IsChars cs) : IsString ('"' :: cs ++ ['"'])

/-- What a text can be derived as. -/
inductive Part where
  | value
  /-- `value *( value-separator value )` -/
  | elements
  | member
  /-- `member *( value-separator member )` -/
  | members

/-- A text is derived as a part, with blanks around the six structural characters. -/
inductive Derives : Part → List Char → Prop where
  | null : Derives .value ['n', 'u', 'l', 'l']
  | true : Derives .value ['t', 'r', 'u', 'e']
  | false : Derives .value ['f', 'a', 'l', 's', 'e']
  | number {cs : List Char} (number : IsNumber cs) : Derives .value cs
  | string {cs : List Char} (string : IsString cs) : Derives .value cs
  | emptyArray {ws : List Char} (blank : Ws ws) : Derives .value ('[' :: ws ++ [']'])
  | array {ws cs ws' : List Char} (before : Ws ws) (elements : Derives .elements cs)
    (after : Ws ws') : Derives .value ('[' :: ws ++ cs ++ ws' ++ [']'])
  | emptyObject {ws : List Char} (blank : Ws ws) : Derives .value ('\x7b' :: ws ++ ['\x7d'])
  | object {ws cs ws' : List Char} (before : Ws ws) (members : Derives .members cs)
    (after : Ws ws') : Derives .value ('\x7b' :: ws ++ cs ++ ws' ++ ['\x7d'])
  | lastElement {cs : List Char} (value : Derives .value cs) : Derives .elements cs
  | elements {cs ws ws' rest : List Char} (value : Derives .value cs) (before : Ws ws)
    (after : Ws ws') (others : Derives .elements rest) :
    Derives .elements (cs ++ ws ++ [','] ++ ws' ++ rest)
  | member {name ws ws' cs : List Char} (string : IsString name) (before : Ws ws) (after : Ws ws')
    (value : Derives .value cs) : Derives .member (name ++ ws ++ [':'] ++ ws' ++ cs)
  | lastMember {cs : List Char} (member : Derives .member cs) : Derives .members cs
  | members {cs ws ws' rest : List Char} (member : Derives .member cs) (before : Ws ws)
    (after : Ws ws') (others : Derives .members rest) :
    Derives .members (cs ++ ws ++ [','] ++ ws' ++ rest)

/-- `JSON-text = ws value ws` -/
inductive IsDocument : List Char → Prop where
  | text {ws cs ws' : List Char} (before : Ws ws) (value : Derives .value cs) (after : Ws ws') :
    IsDocument (ws ++ cs ++ ws')

/-! ## Scanning -/

/-- Where a scan stands: outside of strings, in a string, or in a string behind a backslash. -/
inductive Scan where
  | outside
  | inside
  | escaped

/-- A text without what is inside its strings; their quotes stay. -/
def bare : Scan → List Char → List Char
  | _, [] => []
  | .outside, c :: rest => c :: bare (if c = '"' then .inside else .outside) rest
  | .inside, c :: rest =>
    if c = '"' then c :: bare .outside rest
    else bare (if c = '\\' then .escaped else .inside) rest
  | .escaped, _ :: rest => bare .inside rest

/-- A word stands in a text outside of strings. -/
def Shows (word text : List Char) : Prop := word <:+: bare .outside text

/-- After the text, a scan stands outside of strings again. -/
def Closed (cs : List Char) : Prop :=
  ∀ rest, bare .outside (cs ++ rest) = bare .outside cs ++ bare .outside rest

variable {cs ds : List Char}

theorem Closed.append (first : Closed cs) (next : Closed ds) : Closed (cs ++ ds) := by
  intro rest
  rw [List.append_assoc, first, next, first, List.append_assoc]

theorem bare_of_noQuote (noQuote : '"' ∉ cs) (rest : List Char) :
    bare .outside (cs ++ rest) = cs ++ bare .outside rest := by
  induction cs with
  | nil => rfl
  | cons c cs ih =>
    obtain ⟨first, others⟩ := not_or.1 (mt List.mem_cons.2 noQuote)
    rw [List.cons_append, bare, if_neg (Ne.symm first), ih others, List.cons_append]

theorem closed_of_noQuote (noQuote : '"' ∉ cs) : Closed cs := by
  have same := bare_of_noQuote noQuote []
  rw [List.append_nil, show bare .outside [] = [] from rfl, List.append_nil] at same
  intro rest
  rw [same, bare_of_noQuote noQuote]

theorem bare_isChar (char : IsChar cs) (rest : List Char) :
    bare .inside (cs ++ rest) = bare .inside rest := by
  cases char with
  | unescaped visible noQuote noEscape =>
    rw [List.singleton_append, bare, if_neg noQuote, if_neg noEscape]
  | letter mem => rfl
  | @unit digits four hex =>
    have digit {d : Char} (mem : d ∈ digits) (rest : List Char) :
        bare .inside (d :: rest) = bare .inside rest := by
      have noQuote : d ≠ '"' := by
        rintro rfl
        cases hex _ mem
      have noEscape : d ≠ '\\' := by
        rintro rfl
        cases hex _ mem
      rw [bare, if_neg noQuote, if_neg noEscape]
    match digits, four with
    | [a, b, c, d], _ =>
      show bare .inside (a :: b :: c :: d :: rest) = _
      rw [digit (by simp), digit (by simp), digit (by simp), digit (by simp)]

theorem bare_isChars (chars : IsChars cs) (rest : List Char) :
    bare .inside (cs ++ rest) = bare .inside rest := by
  induction chars with
  | nil => rfl
  | cons first others ih => rw [List.append_assoc, bare_isChar first, ih]

/-- Of a string only its quotes are left. -/
theorem bare_isString (string : IsString cs) (rest : List Char) :
    bare .outside (cs ++ rest) = '"' :: '"' :: bare .outside rest := by
  cases string with
  | @quoted inner chars =>
    show '"' :: bare .inside (inner ++ ['"'] ++ rest) = _
    rw [List.append_assoc, bare_isChars chars]
    rfl

theorem closed_of_isString (string : IsString cs) : Closed cs := by
  have same := bare_isString string []
  rw [List.append_nil] at same
  intro rest
  rw [same, bare_isString string]
  rfl

/-! ## Words -/

/-- A text that is closed and in which no word with an `N` or an `I` stands. -/
structure Worded (cs : List Char) : Prop where
  closed : Closed cs
  letters : ∀ c ∈ bare .outside cs, c ≠ 'N' ∧ c ≠ 'I'

theorem Worded.append (first : Worded cs) (next : Worded ds) : Worded (cs ++ ds) where
  closed := first.closed.append next.closed
  letters := by
    rw [first.closed]
    exact List.forall_mem_append.2 ⟨first.letters, next.letters⟩

theorem worded_of_forall (all : ∀ c ∈ cs, c ≠ '"' ∧ c ≠ 'N' ∧ c ≠ 'I') : Worded cs := by
  have noQuote : '"' ∉ cs := fun mem => (all _ mem).1 rfl
  have same := bare_of_noQuote noQuote []
  rw [List.append_nil] at same
  constructor
  · exact closed_of_noQuote noQuote
  · intro c mem
    rw [same] at mem
    exact (all c ((List.mem_append.1 mem).resolve_right List.not_mem_nil)).2

theorem worded_of_ws (blank : Ws cs) : Worded cs := by
  refine worded_of_forall fun c mem => ?_
  rcases blank c mem with rfl | rfl | rfl | rfl <;> decide

theorem worded_of_allDigits (all : AllDigits cs) : Worded cs := by
  refine worded_of_forall fun c mem => ⟨?_, ?_, ?_⟩ <;>
    · rintro rfl
      cases all _ mem

theorem worded_of_isMagnitude (magnitude : IsMagnitude cs) : Worded cs := by
  obtain ⟨one, two, three⟩ := magnitude
  refine Worded.append (Worded.append ?_ ?_) ?_
  · cases one with
    | zero => exact worded_of_forall (by simp)
    | digits first all => exact worded_of_allDigits all
  · cases two with
    | none => exact worded_of_forall (by simp)
    | digits digits =>
      have point : Worded ['.'] := worded_of_forall (by simp)
      exact point.append (worded_of_allDigits digits.2)
  · cases three with
    | none => exact worded_of_forall (by simp)
    | @digits e sign cs letter signed digits =>
      have start : Worded (e :: sign) := by
        refine worded_of_forall ?_
        rcases letter with rfl | rfl <;> rcases signed with rfl | rfl | rfl <;> simp
      exact start.append (worded_of_allDigits digits.2)

theorem worded_of_isString (string : IsString cs) : Worded cs where
  closed := closed_of_isString string
  letters := by
    have same := bare_isString string []
    rw [List.append_nil] at same
    rw [same]
    simp [bare]

/-- Every text that is derived has the grammar's words only. -/
theorem Derives.worded {part : Part} (derives : Derives part cs) : Worded cs := by
  have structural {c : Char} (plain : c ≠ '"' ∧ c ≠ 'N' ∧ c ≠ 'I') : Worded [c] :=
    worded_of_forall (List.forall_mem_singleton.2 plain)
  induction derives with
  | null | true | false => exact worded_of_forall (by simp)
  | number number =>
    cases number with
    | plus magnitude => exact worded_of_isMagnitude magnitude
    | minus magnitude =>
      exact (structural (c := '-') (by decide)).append (worded_of_isMagnitude magnitude)
  | string string => exact worded_of_isString string
  | emptyArray blank =>
    exact ((structural (c := '[') (by decide)).append (worded_of_ws blank)).append
      (structural (by decide))
  | array before elements after ih =>
    exact ((((structural (c := '[') (by decide)).append (worded_of_ws before)).append ih).append
      (worded_of_ws after)).append (structural (by decide))
  | emptyObject blank =>
    exact ((structural (c := '\x7b') (by decide)).append (worded_of_ws blank)).append
      (structural (by decide))
  | object before members after ih =>
    exact ((((structural (c := '\x7b') (by decide)).append (worded_of_ws before)).append ih).append
      (worded_of_ws after)).append (structural (by decide))
  | lastElement value ih | lastMember member ih => exact ih
  | elements value before after others first rest | members value before after others first rest =>
    exact (((first.append (worded_of_ws before)).append (structural (by decide))).append
      (worded_of_ws after)).append rest
  | member string before after value ih =>
    exact ((((worded_of_isString string).append (worded_of_ws before)).append
      (structural (by decide))).append (worded_of_ws after)).append ih

/-- No word with an `N` or an `I` stands in a document. -/
theorem IsDocument.not_shows (document : IsDocument cs) {word : List Char}
    (foreign : 'N' ∈ word ∨ 'I' ∈ word) : ¬ Shows word cs := by
  obtain ⟨before, value, after⟩ := document
  have worded := ((worded_of_ws before).append value.worded).append (worded_of_ws after)
  intro shown
  rcases foreign with mem | mem
  · exact (worded.letters _ (shown.subset mem)).1 rfl
  · exact (worded.letters _ (shown.subset mem)).2 rfl

end EventTracker.Json
