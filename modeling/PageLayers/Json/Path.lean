import PageLayers.Json.Value
import PageLayers.Text.Split
import PageLayers.Text.Digits

/-! Dotted paths into JSON values. -/

namespace PageLayers

namespace Json

/-- The segments of a path; empty ones count for nothing. -/
def pathSegments (path : String) : List (List Char) :=
  (Text.splitAll '.' path.toList).filter fun s => !s.isEmpty

/-- A position in a list: digits below `2 ^ 64`, with an optional plus before them. -/
def index? (segment : List Char) : Option Nat :=
  let digits := match segment with
    | '+' :: rest => rest
    | _ => segment
  if digits.isEmpty ∨ !digits.all Char.isDigit then none
  else
    let n := Text.number digits
    if n < Text.wordLimit then some n else none

def child? (j : Json) (segment : List Char) : Option Json :=
  match j with
  | obj fields => fields.lookup (String.ofList segment)
  | arr items => (index? segment).bind (items[·]?)
  | _ => none

def follow? (j : Json) : List (List Char) → Option Json
  | [] => some j
  | s :: rest => (j.child? s).bind (follow? · rest)

/-- The value at the end of a path; the empty path ends at the value itself. -/
def lookupPath (j : Json) (path : String) : Option Json := j.follow? (pathSegments path)

end Json

end PageLayers
