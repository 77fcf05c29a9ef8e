import PageLayers.Proofs.Json.Numbers

/-! The numbers of a value, how deep it nests, and which values can come of reading JSON. -/

namespace PageLayers.Json

mutual

/-- The numbers of a value in the order in which they stand. -/
def numbers : Json → List Number
  | num n => [n]
  | arr items => numbersOf items
  | obj fields => numbersIn fields
  | _ => []

def numbersOf : List Json → List Number
  | [] => []
  | j :: rest => numbers j ++ numbersOf rest

def numbersIn : List (String × Json) → List Number
  | [] => []
  | (_, j) :: rest => numbers j ++ numbersIn rest

end

mutual

/-- How many arrays and objects stand within one another. -/
def nesting : Json → Nat
  | arr items => nestingOf items + 1
  | obj fields => nestingIn fields + 1
  | _ => 0

def nestingOf : List Json → Nat
  | [] => 0
  | j :: rest => max (nesting j) (nestingOf rest)

def nestingIn : List (String × Json) → Nat
  | [] => 0
  | (_, j) :: rest => max (nesting j) (nestingIn rest)

end

/-- What a value of JSON is: the fields of its objects are in order, and its numbers are whole
numbers of sixty-four bits or finite. -/
structure WellFormed (j : Json) : Prop where
  ordered : j.canonical = j
  numbers : ∀ n ∈ j.numbers, n.WellFormed

instance : DecidablePred WellFormed := fun j =>
  decidable_of_iff (j.canonical = j ∧ ∀ n ∈ j.numbers, n.WellFormed)
    ⟨fun h => ⟨h.1, h.2⟩, fun h => ⟨h.ordered, h.numbers⟩⟩

theorem numbersOf_eq {items : List Json} : numbersOf items = items.flatMap numbers := by
  induction items with
  | nil => rfl
  | cons j rest ih => rw [numbersOf, ih, List.flatMap_cons]

theorem numbersIn_eq {fields : List (String × Json)} :
    numbersIn fields = fields.flatMap fun f => f.2.numbers := by
  induction fields with
  | nil => rfl
  | cons f rest ih => rw [numbersIn, ih, List.flatMap_cons]

theorem nestingOf_le {items : List Json} {n : Nat} :
    nestingOf items ≤ n ↔ ∀ j ∈ items, j.nesting ≤ n := by
  induction items with
  | nil => simp [nestingOf]
  | cons j rest ih => simp [nestingOf, ih]

theorem nestingIn_le {fields : List (String × Json)} {n : Nat} :
    nestingIn fields ≤ n ↔ ∀ f ∈ fields, f.2.nesting ≤ n := by
  induction fields with
  | nil => simp [nestingIn]
  | cons f rest ih => simp [nestingIn, ih]

/-! ### Records -/

/-- The numbers of a field that may be absent. -/
def numbersAt (x : Option Json) : List Number := x.toList.flatMap numbers

@[simp] theorem numbersAt_some {j : Json} : numbersAt (some j) = j.numbers := by
  simp [numbersAt]

theorem numbersAt_map {α : Type} {encode : α → Json} {x : Option α} :
    numbersAt (x.map encode) = x.toList.flatMap fun a => (encode a).numbers := by
  cases x <;> simp [numbersAt]

theorem numbers_present {fs : List (String × Option Json)} :
    (present fs).numbers = fs.flatMap fun f => numbersAt f.2 := by
  show numbersIn _ = _
  rw [numbersIn_eq]
  induction fs with
  | nil => rfl
  | cons f rest ih =>
    obtain ⟨k, x⟩ := f
    cases x <;> simp [ih, numbersAt]

theorem numbers_obj {fields : List (String × Json)} :
    (obj fields).numbers = fields.flatMap fun f => f.2.numbers := numbersIn_eq

theorem numbers_arr {items : List Json} : (arr items).numbers = items.flatMap numbers :=
  numbersOf_eq

@[simp] theorem numbers_str {s : String} : (str s).numbers = [] := rfl

end PageLayers.Json
