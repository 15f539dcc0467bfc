import EventTracker.Value.Mapping

/-!
# Entries with distinct keys

Under an equality of keys that is symmetric and transitive, insertion keeps keys distinct,
an entry list with distinct keys is its own `ofList`, and overlaying distinct entries
replaces values where they stand and appends what is new (`overlay_eq_map_append`).
Insertion and removal commute with filters that only look at keys. Merging brings in no
other keys and values than are in what is merged (`Mapping.forall_absorb`).
-/

namespace EventTracker

/-- A relation that two keys of one class are told by. -/
structure KeyEquality {κ : Type} (same : κ → κ → Bool) : Prop where
  symm : ∀ a b, same a b = same b a
  trans : ∀ {a b c}, same a b = true → same b c = true → same a c = true

theorem KeyEquality.congr_right {κ : Type} {same : κ → κ → Bool} (eq : KeyEquality same) {a b : κ}
    (h : same a b = true) (c : κ) : same c a = same c b := by
  apply Bool.eq_iff_iff.2
  constructor
  · intro k
    exact eq.trans k h
  · intro k
    exact eq.trans k (eq.symm a b ▸ h)

theorem KeyEquality.congr_left {κ : Type} {same : κ → κ → Bool} (eq : KeyEquality same) {a b : κ}
    (h : same a b = true) (c : κ) : same a c = same b c := by
  rw [eq.symm a, eq.symm b, eq.congr_right h]

theorem keyEquality_sameKey : KeyEquality Value.sameKey where
  symm := Value.sameKey_symm
  trans := Value.sameKey_trans

theorem keyEquality_decide {κ : Type} [DecidableEq κ] :
    KeyEquality fun a b : κ => decide (a = b) where
  symm a b := by simp [eq_comm]
  trans h k := by simp_all

namespace Entries

/-- No two keys are the same. -/
def Distinct {κ ν : Type} (same : κ → κ → Bool) (entries : Entries κ ν) : Prop :=
  entries.Pairwise fun a b => same a.1 b.1 = false

variable {κ ν : Type} {same : κ → κ → Bool}

@[simp] theorem has_nil (key : κ) : has same key ([] : Entries κ ν) = false := rfl

@[simp] theorem has_cons (key : κ) (entry : κ × ν) (rest : Entries κ ν) :
    has same key (entry :: rest) = (same entry.1 key || has same key rest) := rfl

@[simp] theorem has_append (key : κ) (entries more : Entries κ ν) :
    has same key (entries ++ more) = (has same key entries || has same key more) :=
  List.any_append

theorem has_eq_false_iff {key : κ} {entries : Entries κ ν} :
    has same key entries = false ↔ ∀ entry ∈ entries, same entry.1 key = false := by
  unfold has
  rw [List.any_eq_false]
  simp only [Bool.not_eq_true]

theorem put_of_absent {key : κ} {value : ν} {entries : Entries κ ν}
    (absent : has same key entries = false) :
    put same key value entries = entries ++ [(key, value)] := by
  induction entries with
  | nil => rfl
  | cons entry rest ih =>
    rw [has_cons, Bool.or_eq_false_iff] at absent
    simp only [put, absent.1, Bool.false_eq_true, if_false, ih absent.2, List.cons_append]

/-- A present key keeps its place. -/
theorem map_fst_put_of_present {key : κ} {value : ν} {entries : Entries κ ν}
    (present : has same key entries = true) :
    (put same key value entries).map Prod.fst = entries.map Prod.fst := by
  induction entries with
  | nil => cases present
  | cons entry rest ih =>
    rw [put]
    split
    case isTrue => rfl
    case isFalse ne =>
      rw [has_cons, eq_false_of_ne_true ne, Bool.false_or] at present
      rw [List.map_cons, List.map_cons, ih present]

theorem has_eq_any_map_fst (key : κ) (entries : Entries κ ν) :
    has same key entries = (entries.map Prod.fst).any (same · key) := by
  rw [List.any_map]
  rfl

theorem distinct_iff_map_fst {entries : Entries κ ν} :
    Distinct same entries ↔ (entries.map Prod.fst).Pairwise fun a b => same a b = false := by
  rw [List.pairwise_map]
  rfl

theorem distinct_put {entries : Entries κ ν} (distinct : Distinct same entries) (key : κ)
    (value : ν) : Distinct same (put same key value entries) := by
  cases present : has same key entries with
  | true => rwa [distinct_iff_map_fst, map_fst_put_of_present present, ← distinct_iff_map_fst]
  | false =>
    rw [put_of_absent present]
    refine List.pairwise_append.2 ⟨distinct, List.pairwise_singleton _ _, ?_⟩
    intro entry mem last mem_last
    rw [List.mem_singleton.1 mem_last]
    exact has_eq_false_iff.1 present entry mem

theorem distinct_overlay {entries : Entries κ ν} (distinct : Distinct same entries)
    (patch : Entries κ ν) : Distinct same (overlay same entries patch) := by
  induction patch generalizing entries with
  | nil => exact distinct
  | cons entry patch ih =>
    rw [overlay_cons]
    exact ih (distinct_put distinct _ _)

theorem distinct_ofList (entries : List (κ × ν)) : Distinct same (ofList same entries) :=
  distinct_overlay List.Pairwise.nil entries

theorem mem_of_mem_erase {key : κ} {entry : κ × ν} {entries : Entries κ ν}
    (mem : entry ∈ erase same key entries) : entry ∈ entries :=
  (List.mem_filter.1 mem).1

theorem forall_put {P : κ → Prop} {Q : ν → Prop} {entries : Entries κ ν}
    (all : ∀ entry ∈ entries, P entry.1 ∧ Q entry.2) {key : κ} {value : ν} (here : P key ∧ Q value) :
    ∀ entry ∈ put same key value entries, P entry.1 ∧ Q entry.2 := by
  induction entries with
  | nil => exact List.forall_mem_singleton.2 here
  | cons entry rest ih =>
    obtain ⟨first, others⟩ := List.forall_mem_cons.1 all
    rw [put]
    split
    · exact List.forall_mem_cons.2 ⟨⟨first.1, here.2⟩, others⟩
    · exact List.forall_mem_cons.2 ⟨first, ih others⟩

/-- What holds of all keys and of all values before and in the patch holds after it. -/
theorem forall_overlay {P : κ → Prop} {Q : ν → Prop} {entries patch : Entries κ ν}
    (all : ∀ entry ∈ entries, P entry.1 ∧ Q entry.2)
    (given : ∀ entry ∈ patch, P entry.1 ∧ Q entry.2) :
    ∀ entry ∈ overlay same entries patch, P entry.1 ∧ Q entry.2 := by
  induction patch generalizing entries with
  | nil => exact all
  | cons entry patch ih =>
    obtain ⟨first, others⟩ := List.forall_mem_cons.1 given
    exact ih (forall_put all first) others

theorem forall_value_put {Q : ν → Prop} {entries : Entries κ ν} (all : ∀ entry ∈ entries, Q entry.2)
    {value : ν} (here : Q value) (key : κ) : ∀ entry ∈ put same key value entries, Q entry.2 :=
  fun entry mem => (forall_put (P := fun _ => True) (Q := Q)
    (fun entry mem => ⟨trivial, all entry mem⟩) ⟨trivial, here⟩ entry mem).2

theorem forall_value_overlay {Q : ν → Prop} {entries patch : Entries κ ν}
    (all : ∀ entry ∈ entries, Q entry.2) (given : ∀ entry ∈ patch, Q entry.2) :
    ∀ entry ∈ overlay same entries patch, Q entry.2 :=
  fun entry mem => (forall_overlay (P := fun _ => True) (Q := Q)
    (fun entry mem => ⟨trivial, all entry mem⟩) (fun entry mem => ⟨trivial, given entry mem⟩)
    entry mem).2

/-- Entries that are all new are appended. -/
theorem overlay_of_absent {entries patch : Entries κ ν}
    (distinct : Distinct same (entries ++ patch)) :
    overlay same entries patch = entries ++ patch := by
  induction patch generalizing entries with
  | nil => exact (List.append_nil entries).symm
  | cons entry patch ih =>
    have absent : has same entry.1 entries = false := has_eq_false_iff.2 fun other mem =>
      (List.pairwise_append.1 distinct).2.2 other mem entry List.mem_cons_self
    rw [overlay_cons, put_of_absent absent, ih (by rwa [List.append_assoc])]
    simp

/-- Entries with distinct keys are what they stand for. -/
theorem ofList_of_distinct {entries : List (κ × ν)} (distinct : Distinct same entries) :
    ofList same entries = entries :=
  overlay_of_absent distinct

theorem find?_of_absent {key : κ} {entries : Entries κ ν} (absent : has same key entries = false) :
    find? same key entries = none := by
  rw [has_eq_isSome_find?] at absent
  exact Option.not_isSome_iff_eq_none.1 (by rw [absent]; exact Bool.false_ne_true)

theorem find?_append (key : κ) (entries more : Entries κ ν) :
    find? same key (entries ++ more) = (find? same key entries).or (find? same key more) := by
  rw [find?, List.find?_append, Option.map_or]
  rfl

theorem exists_eq_append_of_find? {key : κ} {value : ν} {entries : Entries κ ν}
    (found : find? same key entries = some value) :
    ∃ front here back, entries = front ++ (here, value) :: back ∧ same here key = true := by
  unfold find? at found
  obtain ⟨⟨here, value⟩, first, rfl⟩ := Option.map_eq_some_iff.1 found
  obtain ⟨hit, front, back, split, -⟩ := List.find?_eq_some_iff_append.1 first
  exact ⟨front, here, back, split, hit⟩

/-- The keys of an overlay are those from before, followed by keys of the patch. -/
theorem exists_map_fst_overlay_eq (entries patch : Entries κ ν) :
    ∃ added, (overlay same entries patch).map Prod.fst = entries.map Prod.fst ++ added ∧
      ∀ key ∈ added, key ∈ patch.map Prod.fst := by
  induction patch generalizing entries with
  | nil => exact ⟨[], (List.append_nil _).symm, List.forall_mem_nil _⟩
  | cons entry patch ih =>
    obtain ⟨added, keys, given⟩ := ih (put same entry.1 entry.2 entries)
    rw [overlay_cons, keys]
    cases present : has same entry.1 entries with
    | true =>
      refine ⟨added, by rw [map_fst_put_of_present present], fun key mem => ?_⟩
      exact List.mem_cons_of_mem _ (given key mem)
    | false =>
      refine ⟨entry.1 :: added, by simp [put_of_absent present], ?_⟩
      exact List.forall_mem_cons.2
        ⟨List.mem_cons_self, fun key mem => List.mem_cons_of_mem _ (given key mem)⟩

theorem find?_reverse_eq_none {key : κ} {entries : Entries κ ν}
    (missing : find? same key entries = none) :
    find? same key entries.reverse = none := by
  refine find?_of_absent (has_eq_false_iff.2 fun entry mem => ?_)
  have absent : has same key entries = false := by rw [has_eq_isSome_find?, missing]; rfl
  exact has_eq_false_iff.1 absent entry (List.mem_reverse.1 mem)

section Equality

variable (eq : KeyEquality same)

include eq

theorem put_of_present {key : κ} {value : ν} {entries : Entries κ ν}
    (distinct : Distinct same entries) (present : has same key entries = true) :
    put same key value entries =
      entries.map fun entry => if same entry.1 key then (entry.1, value) else entry := by
  induction entries with
  | nil => cases present
  | cons entry rest ih =>
    obtain ⟨apart, distinct⟩ := List.pairwise_cons.1 distinct
    rw [put, List.map_cons]
    split
    case isTrue hit =>
      congr 1
      -- no other key is the same, since it would be the same as this one
      have others : ∀ other ∈ rest, same other.1 key = false := by
        intro other mem
        rw [eq.symm, ← eq.congr_left hit]
        exact apart other mem
      symm
      calc rest.map (fun other => if same other.1 key then (other.1, value) else other)
          = rest.map id := List.map_congr_left fun other mem => by simp [others other mem]
        _ = rest := List.map_id rest
    case isFalse ne =>
      rw [has_cons, eq_false_of_ne_true ne, Bool.false_or] at present
      rw [ih distinct present]

theorem has_put (key other : κ) (value : ν) (entries : Entries κ ν) :
    has same key (put same other value entries) = (has same key entries || same other key) := by
  cases present : has same other entries with
  | true =>
    rw [has_eq_any_map_fst, map_fst_put_of_present present, ← has_eq_any_map_fst]
    cases hit : same other key with
    | false => rw [Bool.or_false]
    | true =>
      have : has same key entries = has same other entries := by
        unfold has
        congr 1
        funext entry
        exact (eq.congr_right hit entry.1).symm
      rw [this, present, Bool.true_or]
  | false => rw [put_of_absent present, has_append, has_cons, has_nil, Bool.or_false]

theorem find?_put (key other : κ) (value : ν) (entries : Entries κ ν) :
    find? same key (put same other value entries) =
      if same other key then some value else find? same key entries := by
  induction entries with
  | nil => simp [put, find?_cons, find?_nil]
  | cons entry rest ih =>
    rw [put]
    split
    case isTrue hit =>
      rw [find?_cons, find?_cons]
      simp only [eq.congr_left hit]
      split <;> rfl
    case isFalse miss =>
      rw [find?_cons, find?_cons, ih]
      cases here : same entry.1 key with
      | false => rfl
      | true =>
        have : same other key = false := by
          rw [← eq.congr_right here, eq.symm]
          exact eq_false_of_ne_true miss
        simp [this]

/-- After an overlay a key has the value that the patch gives it last, else the one from before. -/
theorem find?_overlay (key : κ) (entries patch : Entries κ ν) :
    find? same key (overlay same entries patch) =
      (find? same key patch.reverse).or (find? same key entries) := by
  induction patch generalizing entries with
  | nil => rfl
  | cons entry patch ih =>
    rw [overlay_cons, ih, find?_put eq, List.reverse_cons, find?_append, Option.or_assoc, find?_cons,
      find?_nil]
    split <;> rfl

theorem find?_reverse {entries : Entries κ ν} (distinct : Distinct same entries) (key : κ) :
    find? same key entries.reverse = find? same key entries := by
  induction entries with
  | nil => rfl
  | cons entry rest ih =>
    obtain ⟨apart, distinct⟩ := List.pairwise_cons.1 distinct
    rw [List.reverse_cons, find?_append, ih distinct, find?_cons, find?_nil, find?_cons]
    split
    case isTrue hit =>
      have none_later : find? same key rest = none := find?_of_absent <|
        has_eq_false_iff.2 fun other mem => by
          rw [← eq.congr_right hit, eq.symm]
          exact apart other mem
      rw [none_later, Option.none_or]
    case isFalse => rw [Option.or_none]

/-- New entries of a patch stay new when an entry that none of them is the same as is put in. -/
theorem filter_absent_put {entry : κ × ν} {patch : Entries κ ν}
    (apart : ∀ other ∈ patch, same entry.1 other.1 = false) (entries : Entries κ ν) :
    patch.filter (fun other => !has same other.1 (put same entry.1 entry.2 entries)) =
      patch.filter fun other => !has same other.1 entries := by
  apply List.filter_congr
  intro other mem
  rw [has_put eq, apart other mem, Bool.or_false]

/-- Distinct entries overlay others by new values in place and by new entries at the end. -/
theorem overlay_eq_map_append {entries patch : Entries κ ν} (distinct : Distinct same entries)
    (distinct' : Distinct same patch) :
    overlay same entries patch =
      entries.map (fun entry => (entry.1, (find? same entry.1 patch).getD entry.2)) ++
        patch.filter fun entry => !has same entry.1 entries := by
  induction patch generalizing entries with
  | nil =>
    simp only [find?_nil, Option.getD_none, List.filter_nil, List.append_nil]
    exact (List.map_id' entries).symm
  | cons first patch ih =>
    obtain ⟨apart, distinct'⟩ := List.pairwise_cons.1 distinct'
    rw [overlay_cons, ih (distinct_put distinct _ _) distinct', filter_absent_put eq apart]
    cases present : has same first.1 entries with
    | true =>
      rw [put_of_present eq distinct present, List.map_map, List.filter_cons, present]
      congr 1
      apply List.map_congr_left
      intro entry _
      rw [Function.comp_apply, find?_cons, eq.symm first.1]
      split
      case isTrue hit =>
        have none_later : find? same entry.1 patch = none := find?_of_absent <|
          has_eq_false_iff.2 fun other mem => by
            rw [eq.congr_right hit, eq.symm]
            exact apart other mem
        simp only [none_later, Option.getD_none, Option.getD_some]
      case isFalse => rfl
    | false =>
      have absent := has_eq_false_iff.1 present
      have none_later : find? same first.1 patch = none := find?_of_absent <|
        has_eq_false_iff.2 fun other mem => by rw [eq.symm]; exact apart other mem
      rw [put_of_absent present, List.map_append, List.map_singleton, none_later, List.filter_cons,
        present, List.append_assoc]
      congr 1
      apply List.map_congr_left
      intro entry mem
      rw [find?_cons, eq.symm first.1, absent entry mem]
      rfl

end Equality

section Filter

variable {keep : κ → Bool} (respects : ∀ a b, same a b = true → keep a = keep b)

include respects

theorem filter_put_of_kept {key : κ} (kept : keep key = true) (value : ν) (entries : Entries κ ν) :
    (put same key value entries).filter (fun entry => keep entry.1) =
      put same key value (entries.filter fun entry => keep entry.1) := by
  induction entries with
  | nil => simp [put, kept]
  | cons entry rest ih =>
    rw [put, List.filter_cons]
    cases hit : same entry.1 key with
    | true =>
      have : keep entry.1 = true := by rw [respects _ _ hit, kept]
      simp [put, this, hit]
    | false => cases h : keep entry.1 <;> simp [put, h, hit, ih]

theorem filter_put_of_dropped {key : κ} (dropped : keep key = false) (value : ν)
    (entries : Entries κ ν) :
    (put same key value entries).filter (fun entry => keep entry.1) =
      entries.filter fun entry => keep entry.1 := by
  induction entries with
  | nil => simp [put, dropped]
  | cons entry rest ih =>
    rw [put, List.filter_cons]
    cases hit : same entry.1 key with
    | true =>
      have : keep entry.1 = false := by rw [respects _ _ hit, dropped]
      simp [this]
    | false => cases h : keep entry.1 <;> simp [h, ih]

theorem filter_overlay_of_kept {patch : Entries κ ν} (kept : ∀ entry ∈ patch, keep entry.1 = true)
    (entries : Entries κ ν) :
    (overlay same entries patch).filter (fun entry => keep entry.1) =
      overlay same (entries.filter fun entry => keep entry.1) patch := by
  induction patch generalizing entries with
  | nil => rfl
  | cons entry patch ih =>
    rw [overlay_cons, overlay_cons, ih fun other mem => kept other (List.mem_cons_of_mem _ mem),
      filter_put_of_kept respects (kept entry List.mem_cons_self)]

theorem filter_overlay_of_dropped {patch : Entries κ ν}
    (dropped : ∀ entry ∈ patch, keep entry.1 = false) (entries : Entries κ ν) :
    (overlay same entries patch).filter (fun entry => keep entry.1) =
      entries.filter fun entry => keep entry.1 := by
  induction patch generalizing entries with
  | nil => rfl
  | cons entry patch ih =>
    rw [overlay_cons, ih fun other mem => dropped other (List.mem_cons_of_mem _ mem),
      filter_put_of_dropped respects (dropped entry List.mem_cons_self)]

theorem find?_filter_of_kept {key : κ} (kept : keep key = true) (entries : Entries κ ν) :
    find? same key (entries.filter fun entry => keep entry.1) = find? same key entries := by
  induction entries with
  | nil => rfl
  | cons entry rest ih =>
    rw [List.filter_cons, find?_cons]
    cases hit : same entry.1 key with
    | true =>
      rw [respects _ _ hit, kept, if_pos rfl, find?_cons, hit]
      rfl
    | false =>
      cases keep entry.1 with
      | true => rw [if_pos rfl, find?_cons, hit, ih]
      | false => exact ih

theorem has_filter_of_kept {key : κ} (kept : keep key = true) (entries : Entries κ ν) :
    has same key (entries.filter fun entry => keep entry.1) = has same key entries := by
  rw [has_eq_isSome_find?, has_eq_isSome_find?, find?_filter_of_kept respects kept]

end Filter

/-- Each key once, where it first comes, with the value that it has last. -/
def latest (same : κ → κ → Bool) : List (κ × ν) → Entries κ ν
  | [] => []
  | (key, value) :: rest =>
    (key, (find? same key (latest same rest)).getD value) ::
      (latest same rest).filter fun entry => !same entry.1 key

theorem latest_concat (eq : KeyEquality same) (entries : List (κ × ν)) (last : κ × ν) :
    latest same (entries ++ [last]) = put same last.1 last.2 (latest same entries) := by
  induction entries with
  | nil => rfl
  | cons entry rest ih =>
    have respects : ∀ a b, same a b = true → (!same a entry.1) = !same b entry.1 := by
      intro a b h
      rw [eq.congr_left h]
    rw [List.cons_append, latest, latest, ih, find?_put eq, put]
    simp only [eq.symm last.1]
    cases hit : same entry.1 last.1 with
    | true =>
      rw [filter_put_of_dropped respects (by rw [eq.symm, hit]; rfl)]
      rfl
    | false =>
      rw [filter_put_of_kept respects (by rw [eq.symm, hit]; rfl)]
      rfl

/-- Putting entries one after another leaves the latest value at the first place of each key. -/
theorem ofList_eq_latest (eq : KeyEquality same) (entries : List (κ × ν)) :
    ofList same entries = latest same entries := by
  have from_done : ∀ rest done : List (κ × ν),
      overlay same (latest same done) rest = latest same (done ++ rest) := by
    intro rest
    induction rest with
    | nil => intro done; rw [List.append_nil]; rfl
    | cons entry rest ih =>
      intro done
      rw [overlay_cons, ← latest_concat eq, ih, List.append_assoc]
      rfl
  exact from_done entries []

theorem find?_map_values {ν' : Type} (f : ν → ν') (key : κ) (entries : Entries κ ν) :
    find? same key (entries.map fun entry => (entry.1, f entry.2)) =
      (find? same key entries).map f := by
  induction entries with
  | nil => rfl
  | cons entry rest ih =>
    rw [List.map_cons, find?_cons, find?_cons, ih]
    split <;> rfl

/-- Values may be changed before or after the latest of them are taken. -/
theorem latest_map_values {ν' : Type} (f : ν → ν') (entries : List (κ × ν)) :
    latest same (entries.map fun entry => (entry.1, f entry.2)) =
      (latest same entries).map fun entry => (entry.1, f entry.2) := by
  induction entries with
  | nil => rfl
  | cons entry rest ih =>
    rw [List.map_cons, latest, latest, ih, find?_map_values, List.filter_map, List.map_cons]
    cases find? same entry.1 (latest same rest) <;> rfl

end Entries

/-! ## Merging -/

/-- The entries that a value gives when it is merged: those of a mapping, or the pairs of a
sequence. A pair may be anything of two items, also a mapping of two keys. -/
def Value.offered : Value → Mapping
  | .map entries => entries
  | source => ((source.items?).getD []).filterMap fun element => (Mapping.pair? element).toOption

namespace Mapping

variable {P Q : Value → Prop} {m : Mapping}

theorem forall_absorbPairs (all : ∀ entry ∈ m, P entry.1 ∧ Q entry.2) {elements : List Value}
    (given : ∀ entry ∈ elements.filterMap fun element => (pair? element).toOption,
      P entry.1 ∧ Q entry.2) : ∀ entry ∈ (m.absorbPairs elements).1, P entry.1 ∧ Q entry.2 := by
  induction elements generalizing m with
  | nil => exact all
  | cons element rest ih =>
    rw [absorbPairs]
    cases read : pair? element with
    | ok pair =>
      rw [List.filterMap_cons_some (by rw [read]; rfl), List.forall_mem_cons] at given
      exact ih (Entries.forall_put all given.1) given.2
    | error kind => exact all

/-- What holds of all keys and of all values before and in what is merged holds after it. -/
theorem forall_absorb (all : ∀ entry ∈ m, P entry.1 ∧ Q entry.2) {source : Value}
    (given : ∀ entry ∈ source.offered, P entry.1 ∧ Q entry.2) :
    ∀ entry ∈ (m.absorb source).1, P entry.1 ∧ Q entry.2 := by
  unfold absorb
  split
  case h_1 entries => exact Entries.forall_overlay all given
  case h_2 other =>
    split
    case h_1 elements listed =>
      refine forall_absorbPairs all fun entry mem => given entry ?_
      rw [Value.offered, listed]
      · exact mem
      · exact other
    case h_2 => exact all

end Mapping

end EventTracker
