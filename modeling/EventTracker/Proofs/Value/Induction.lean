import EventTracker.Value.Basic

/-!
# Induction over values

A property of all values follows if it holds of what contains nothing and passes from the
items of a list or a tuple, and from the values of a mapping, to the container.
-/

namespace EventTracker.Value

variable {P : Value → Prop}

/-- Induction over what containers hold. Keys are not part of it. -/
@[elab_as_elim]
theorem containerInduction (null : P .null) (bool : ∀ b, P (.bool b)) (int : ∀ n, P (.int n))
    (float : ∀ d, P (.float d)) (str : ∀ s, P (.str s)) (bytes : ∀ bs, P (.bytes bs))
    (date : ∀ d, P (.date d)) (datetime : ∀ t, P (.datetime t))
    (list : ∀ items, (∀ v ∈ items, P v) → P (.list items))
    (tuple : ∀ items, (∀ v ∈ items, P v) → P (.tuple items))
    (map : ∀ entries, (∀ entry ∈ entries, P entry.2) → P (.map entries))
    (callback : ∀ c, P (.callback c)) (foreign : ∀ mark, P (.foreign mark)) (v : Value) : P v :=
  @Value.rec P (fun items => ∀ v ∈ items, P v) (fun entries => ∀ entry ∈ entries, P entry.2)
    (fun entry => P entry.2) null bool int float str bytes date datetime list tuple map callback
    foreign (List.forall_mem_nil _) (fun _ _ head tail => List.forall_mem_cons.2 ⟨head, tail⟩)
    (List.forall_mem_nil _) (fun _ _ head tail => List.forall_mem_cons.2 ⟨head, tail⟩)
    (fun _ _ _ value => value) v

end EventTracker.Value
