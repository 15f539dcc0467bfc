import EventTracker.Value.Basic

/-!
# Depth of values

A container is one level deeper than what it holds. Values down to a limit can be written
and read as text; to be cut, which takes more room for each level, they have a lower limit.
-/

namespace EventTracker

namespace Value

mutual

/-- How many containers a value is deep. Keys do not count. -/
def depth : Value → Nat
  | .list items | .tuple items => itemsDepth items + 1
  | .map entries => entriesDepth entries + 1
  | _ => 0

/-- The depth of the deepest of some values. -/
def itemsDepth : List Value → Nat
  | [] => 0
  | v :: rest => max (depth v) (itemsDepth rest)

/-- The depth of the deepest value of some entries. -/
def entriesDepth : List (Value × Value) → Nat
  | [] => 0
  | (_, v) :: rest => max (depth v) (entriesDepth rest)

end

end Value

/-- The greatest depth of values that are written or read as text. -/
def maxDepth : Nat := 990

/-- The greatest depth of values that are cut. -/
def maxCutDepth : Nat := 490

end EventTracker
