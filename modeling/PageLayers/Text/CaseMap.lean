import PageLayers.Text.CaseTables
import PageLayers.Text.Cased

/-! Capital and small forms of a text, by the full case maps of Unicode. -/

namespace PageLayers.Text

/-- The image of a code point under the runs that move together. -/
def moveBy (runs : List (Nat × Nat × Nat × Nat)) (n : Nat) : Nat :=
  let holds : Nat × Nat × Nat × Nat → Bool := fun (first, last, step, _) =>
    first ≤ n && n ≤ last && (n - first) % step == 0
  match runs.find? holds with
  | some (first, _, _, image) => image + (n - first)
  | none => n

def upperChar (c : Char) : List Char :=
  match upperExpansions.lookup c.toNat with
  | some points => points.map Char.ofNat
  | none => [Char.ofNat (moveBy upperRuns c.toNat)]

/-- The dotted capital I is the one character whose small form has two. -/
def lowerChar (c : Char) : List Char :=
  if c = 'İ' then ['i', '\u0307'] else [Char.ofNat (moveBy lowerRuns c.toNat)]

/-- A cased character stands first, apart from ignorable ones before it. -/
def casedFirst (cs : List Char) : Bool :=
  match cs.dropWhile isCaseIgnorable with
  | c :: _ => isCased c
  | [] => false

/-- A capital sigma that ends a word has the final small form. `before` holds what comes before in
reverse. -/
def lowerChars (before : List Char) : List Char → List Char
  | [] => []
  | c :: rest =>
    let small :=
      if c = 'Σ' then [if casedFirst before && !casedFirst rest then 'ς' else 'σ'] else lowerChar c
    small ++ lowerChars (c :: before) rest

def upper (s : String) : String := String.ofList (s.toList.flatMap upperChar)

def lower (s : String) : String := String.ofList (lowerChars [] s.toList)

end PageLayers.Text
