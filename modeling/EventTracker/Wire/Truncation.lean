import EventTracker.Value.Depth

/-!
# Cutting text

`truncate` copies a value with every text cut to a length; keys stay, and tuples become
lists. `redact` copies a payload for the log: what stands under a token key is masked,
and long texts are cut and marked. A negative length counts from the end. `truncated` and
`redacted` do the same, but refuse values in which they would go too deep.
-/

namespace EventTracker

/-- The first `length` items, or all but the last `-length`. -/
def takeInt {α : Type} (length : Int) (items : List α) : List α :=
  items.take (if length < 0 then items.length + length else length).toNat

/-- Characters cut to a length. -/
def cutString (length : Int) (s : String) : String := String.ofList (takeInt length s.toList)

/-- Text cut to a length. -/
def cutText (length : Int) : Text → Text
  | .plain s => cutString length s
  | .rough r => .ofPoints (takeInt length r.points)

/-- The greatest length of texts in a payload. -/
def maxTextLength : Int := 255

mutual

/-- A copy in which every text is cut. -/
def truncate (length : Int) : Value → Value
  | .str t => .str (cutText length t)
  | .list items | .tuple items => .list (truncateItems length items)
  | .map entries => .map (truncateEntries length entries)
  | .null => .null
  | .bool b => .bool b
  | .int n => .int n
  | .float d => .float d
  | .bytes bs => .bytes bs
  | .date d => .date d
  | .datetime t => .datetime t
  | .callback c => .callback c
  | .foreign f => .foreign f

def truncateItems (length : Int) : List Value → List Value
  | [] => []
  | v :: rest => truncate length v :: truncateItems length rest

def truncateEntries (length : Int) : List (Value × Value) → List (Value × Value)
  | [] => []
  | (k, v) :: rest => (k, truncate length v) :: truncateEntries length rest

end

/-- A copy in which every text is cut, of a value that is not nested too deeply. -/
def truncated (length : Int) (v : Value) : Except Misuse Value :=
  if v.depth ≤ maxCutDepth then .ok (truncate length v) else .error .tooDeep

/-- The keys whose values never reach the log. -/
def isTokenKey : Value → Bool
  | .str t => t == .plain "token" || t == .plain "$token"
  | _ => false

/-- The length to which texts in the log are cut. -/
def maxLoggedLength : Int := 512

mutual

/-- A copy for the log. -/
def redact (length : Int) : Value → Value
  | .map entries => .map (redactEntries length entries)
  | .list items => .list (redactItems length items)
  | .str t => if length < t.length then .str (cutText length t ++ "<truncated>") else .str t
  | .tuple items => .tuple items
  | .null => .null
  | .bool b => .bool b
  | .int n => .int n
  | .float d => .float d
  | .bytes bs => .bytes bs
  | .date d => .date d
  | .datetime t => .datetime t
  | .callback c => .callback c
  | .foreign f => .foreign f

def redactItems (length : Int) : List Value → List Value
  | [] => []
  | v :: rest => redact length v :: redactItems length rest

def redactEntries (length : Int) : List (Value × Value) → List (Value × Value)
  | [] => []
  | (k, v) :: rest =>
    (k, if isTokenKey k then .str "<redacted>" else redact length v) :: redactEntries length rest

end

mutual

/-- How many containers deep `redact` goes into a value. It goes neither into tuples nor into
what it masks. -/
def redactedDepth : Value → Nat
  | .list items => redactedItemsDepth items + 1
  | .map entries => redactedEntriesDepth entries + 1
  | _ => 0

def redactedItemsDepth : List Value → Nat
  | [] => 0
  | v :: rest => max (redactedDepth v) (redactedItemsDepth rest)

def redactedEntriesDepth : List (Value × Value) → Nat
  | [] => 0
  | (k, v) :: rest =>
    max (if isTokenKey k then 0 else redactedDepth v) (redactedEntriesDepth rest)

end

/-- A copy for the log, of a value that is not nested too deeply. -/
def redacted (length : Int) (v : Value) : Except Misuse Value :=
  if redactedDepth v ≤ maxCutDepth then .ok (redact length v) else .error .tooDeep

end EventTracker
