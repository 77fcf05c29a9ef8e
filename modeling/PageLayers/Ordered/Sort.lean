/-! Sorting a list by a key; items of equal keys keep their order. -/

namespace PageLayers

variable {α κ : Type} [Ord κ]

/-- Puts an item before the first one whose key is not less. -/
def insertBy (key : α → κ) (a : α) : List α → List α
  | [] => [a]
  | b :: rest =>
    match compare (key a) (key b) with
    | .gt => b :: insertBy key a rest
    | _ => a :: b :: rest

def sortBy (key : α → κ) : List α → List α
  | [] => []
  | a :: rest => insertBy key a (sortBy key rest)

end PageLayers
