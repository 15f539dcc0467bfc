import EventTracker.Proofs.Config.Changes

/-!
# Timeouts

A timeout that passes its check is null, a number above zero or NaN, since NaN is not zero or
less. Whatever calls change a configuration, its timeout is one of those; and it is NaN only
if one of the calls, or what the configuration was made of, gave a NaN.
-/

namespace EventTracker

/-- Whether a value is a number above zero. -/
def Value.positive : Value → Bool
  | .bool b => b
  | .int n => decide (0 < n)
  | .float (.signed negative rank) => !negative && decide (0 < rank.1)
  | _ => false

/-- Whether a value is a NaN. -/
def Value.isNaN : Value → Bool
  | .float (.nan _) => true
  | _ => false

namespace Config

/-- A timeout that a request can be given: none, or a number above zero. -/
def Usable (timeout : Value) : Prop := timeout = .null ∨ timeout.positive = true

theorem isExpired?_eq_some_false_iff {v : Value} :
    isExpired? v = some false ↔ v.positive = true ∨ v.isNaN = true := by
  cases v with
  | bool b => cases b <;> simp [isExpired?, Value.positive, Value.isNaN]
  | int n => simp [isExpired?, Value.positive, Value.isNaN]
  | float d =>
    cases d with
    | nan payload => simp [isExpired?, Double.nonpositive, Value.isNaN]
    | signed negative rank =>
      cases negative <;>
        simp [isExpired?, Double.nonpositive, Value.positive, Value.isNaN, Nat.pos_iff_ne_zero]
  | null | str _ | bytes _ | date _ | datetime _ | list _ | tuple _ | map _ | callback _
  | foreign _ => simp [isExpired?, Value.positive, Value.isNaN]

/-- The check lets NaN through. -/
theorem checkTimeout_eq_ok_iff {v : Value} :
    checkTimeout v = .ok () ↔ Usable v ∨ v.isNaN = true := by
  by_cases null : v = .null
  case pos =>
    rw [null]
    exact iff_of_true rfl (.inl (.inl rfl))
  case neg =>
    rw [Usable, or_iff_right null, ← isExpired?_eq_some_false_iff]
    unfold checkTimeout
    split
    case h_1 => exact absurd rfl null
    case h_2 =>
      cases isExpired? v with
      | none => simp
      | some expired =>
        cases expired with
        | false => simp
        | true => cases v.shown <;> simp

/-! ## Where a timeout comes from -/

/-- The origin gives this timeout, by name or as the number in its environment variable. -/
def Origin.Gives (timeout : Value) : Origin → Prop
  | .settings given => (.plain Setting.requestTimeout.name, timeout) ∈ given
  | .environment surroundings given =>
    (.plain Setting.requestTimeout.name, timeout) ∈ given ∨
    ∃ text d, surroundings.get? "MINIPANEL_REQUEST_TIMEOUT" = some text ∧
      Double.read? text.toList = some d ∧ timeout = .float d

/-- The call gives this timeout, by name or in its mapping. -/
def Change.Gives (timeout : Value) : Change → Prop
  | .update patch => (.plain Setting.requestTimeout.name, timeout) ∈ patch
  | .reconfigure patch more =>
    (.plain Setting.requestTimeout.name, timeout) ∈ more ∨
    ∃ entries, patch = .map entries ∧ (.str Setting.requestTimeout.name, timeout) ∈ entries

variable {c c' : Config} {patch : Table Value}

theorem timeout_of_patched (done : c.patched patch = .ok c') :
    c'.requestTimeout = c.requestTimeout ∨
      (.plain Setting.requestTimeout.name, c'.requestTimeout) ∈ patch := by
  obtain ⟨-, -, -, -, others⟩ := patched_eq_ok_iff.1 done
  have timeout : c'.requestTimeout = c.chosen patch .requestTimeout := others .requestTimeout nofun
  cases given : patch.get? Setting.requestTimeout.name with
  | none =>
    left
    rw [timeout, chosen_of_get?_eq_none given]
    rfl
  | some v =>
    right
    rw [timeout, chosen_of_get?_eq_some given]
    exact Table.mem_of_get? given

theorem timeout_of_build {given : Table Value} (made : build given = .ok c) :
    c.requestTimeout = .null ∨ (.plain Setting.requestTimeout.name, c.requestTimeout) ∈ given := by
  unfold build at made
  split at made
  case isTrue => exact timeout_of_patched made
  case isFalse => cases made

theorem Origin.timeout_given {origin : Origin} (made : origin.result = .ok c) :
    c.requestTimeout = .null ∨ origin.Gives c.requestTimeout := by
  cases origin with
  | settings given => exact timeout_of_build made
  | environment surroundings given =>
    obtain ⟨more, made, timed⟩ := exists_build_of_ofVariables made
    obtain null | mem := timeout_of_build made
    · exact .inl null
    · right
      obtain read | named := Table.mem_of_mem_overlay mem
      · exact .inr (timed _ read)
      · exact .inl named

theorem Change.timeout_given (change : Change) (c : Config) :
    (change.left c).requestTimeout = c.requestTimeout ∨
      change.Gives (change.left c).requestTimeout := by
  rw [left_eq]
  cases done : change.result c with
  | error fault => exact .inl rfl
  | ok c' =>
    show c'.requestTimeout = c.requestTimeout ∨ change.Gives c'.requestTimeout
    cases change with
    | update patch => exact timeout_of_patched (update_eq_ok_iff.1 done).2
    | reconfigure patch more =>
      have done : c.reconfigure patch more = .ok c' := done
      obtain ⟨table, same, listed⟩ | fails := reconfigure_cases patch more
      · rw [same] at done
        obtain kept | mem := timeout_of_patched (update_eq_ok_iff.1 done).2
        · exact .inl kept
        · exact .inr (listed _ _ mem)
      · rw [fails] at done
        cases done

theorem timeout_given_of_after (c : Config) (changes : List Change) :
    (c.after changes).requestTimeout = c.requestTimeout ∨
      ∃ change ∈ changes, change.Gives (c.after changes).requestTimeout := by
  induction changes generalizing c with
  | nil => exact .inl rfl
  | cons change changes ih =>
    obtain kept | ⟨other, mem, gives⟩ := ih (change.left c)
    · obtain before | gives := change.timeout_given c
      · exact .inl (kept.trans before)
      · right
        refine ⟨change, List.mem_cons_self, ?_⟩
        rw [← kept] at gives
        exact gives
    · exact .inr ⟨other, List.mem_cons_of_mem _ mem, gives⟩

/-- Whatever calls came before, the timeout is null or a number above zero, unless it is a NaN that
one of the calls or the origin gave. -/
theorem timeout_usable_or_given_nan {origin : Origin} {first : Config}
    (made : origin.result = .ok first) (changes : List Change) :
    let timeout := (first.after changes).requestTimeout
    Usable timeout ∨
      timeout.isNaN = true ∧ (origin.Gives timeout ∨ ∃ change ∈ changes, change.Gives timeout) := by
  intro timeout
  have sound : (first.after changes).Sound := (Origin.sound made).after changes
  obtain usable | nan := checkTimeout_eq_ok_iff.1 sound.timeout
  · exact .inl usable
  · right
    refine ⟨nan, ?_⟩
    obtain kept | given := timeout_given_of_after first changes
    · obtain null | gives := Origin.timeout_given made
      · have timeout_null : (first.after changes).requestTimeout = .null := kept.trans null
        rw [timeout_null] at nan
        cases nan
      · rw [← kept] at gives
        exact .inl gives
    · exact .inr given

/-- A timeout that is given in the place of the variable's stays when a text is refused. -/
theorem timeout_usable_or_given_nan_five :
    ∃ first, (Origin.environment [("MINIPANEL_REQUEST_TIMEOUT", "nan")]
        [("request_timeout", .int 5)]).result = .ok first ∧
      Usable (first.after [.update [("request_timeout", .str "x")]]).requestTimeout := by
  let origin : Origin := .environment [("MINIPANEL_REQUEST_TIMEOUT", "nan")]
    [("request_timeout", .int 5)]
  have made : origin.result = .ok { standard with requestTimeout := .int 5 } := rfl
  refine ⟨_, made, ?_⟩
  obtain usable | ⟨nan, -⟩ :=
    timeout_usable_or_given_nan made [.update [("request_timeout", .str "x")]]
  · exact usable
  · cases nan

/-- NaN passes the check on each of the three ways in. -/
theorem timeout_not_usable_nan :
    (∃ c, build [("request_timeout", .float (.nan 0))] = .ok c ∧ ¬ Usable c.requestTimeout) ∧
    (∃ c, ofVariables [("MINIPANEL_REQUEST_TIMEOUT", "nan")] [] = .ok c ∧
      ¬ Usable c.requestTimeout) ∧
    ∃ c, standard.update [("request_timeout", .float (.nan 0))] = .ok c ∧
      ¬ Usable c.requestTimeout := by
  have unusable (payload : Nat) : ¬ Usable (.float (.nan payload)) := by
    rintro (null | positive)
    · cases null
    · cases positive
  refine ⟨⟨_, rfl, unusable _⟩, ⟨_, rfl, unusable _⟩, ⟨_, rfl, unusable _⟩⟩

end Config

end EventTracker
