import Mathlib.Data.List.Forall2
import PageLayers.Json.Path
import PageLayers.Proofs.Text.Digits
import PageLayers.Proofs.Text.Split

/-! Where the path into a value ends, told step by step and apart from the look-up. A path that goes
on after another one goes on from where that one ends, and a path of keys and positions ends where
they lead, one after the other. -/

namespace PageLayers.Json

variable {j value : Json} {segment digits : List Char} {path : List (List Char)} {i : Nat}

/-- Decimal digits of a number below the limit of a word. -/
structure Numeral (digits : List Char) (i : Nat) : Prop where
  ne_nil : digits ≠ []
  digit : ∀ c ∈ digits, c.isDigit = true
  number : Text.number digits = i
  limit : i < Text.wordLimit

/-- A segment that counts as a position in a list. -/
inductive Position : List Char → Nat → Prop where
  | plain {digits : List Char} {i : Nat} (h : Numeral digits i) : Position digits i
  | plus {digits : List Char} {i : Nat} (h : Numeral digits i) : Position ('+' :: digits) i

/-- A value stands in another one under a segment. -/
inductive Holds : Json → List Char → Json → Prop where
  | field {fields : List (String × Json)} {segment : List Char} {value : Json}
      (h : fields.lookup (String.ofList segment) = some value) : Holds (obj fields) segment value
  | item {items : List Json} {segment : List Char} {i : Nat} {value : Json}
      (hi : Position segment i) (h : items[i]? = some value) : Holds (arr items) segment value

/-- A path leads through one value after another. -/
inductive Leads : Json → List (List Char) → Json → Prop where
  | here {j : Json} : Leads j [] j
  | through {j next value : Json} {segment : List Char} {path : List (List Char)}
      (hnext : j.Holds segment next) (h : Leads next path value) : Leads j (segment :: path) value

theorem numeral_iff : (if digits.isEmpty ∨ !digits.all Char.isDigit then none
    else if Text.number digits < Text.wordLimit then some (Text.number digits) else none) =
      some i ↔ Numeral digits i := by
  constructor
  · intro h
    split at h
    · cases h
    · rename_i hdigits
      split at h
      · rename_i hlimit
        cases h
        simp only [List.isEmpty_iff, Bool.not_eq_true', not_or, Bool.not_eq_false,
          List.all_eq_true] at hdigits
        exact ⟨hdigits.1, hdigits.2, rfl, hlimit⟩
      · cases h
  · rintro ⟨hne, hdigit, rfl, hlimit⟩
    have hall : digits.all Char.isDigit = true := List.all_eq_true.2 hdigit
    simp [hne, hall, hlimit]

theorem index?_plus : index? ('+' :: digits) = some i ↔ Numeral digits i := numeral_iff

theorem index?_of_head_ne (h : ∀ digits, segment ≠ '+' :: digits) :
    index? segment = some i ↔ Numeral segment i := by
  rw [index?]
  · exact numeral_iff
  · exact h

theorem index?_eq_some : index? segment = some i ↔ Position segment i := by
  by_cases hplus : ∃ digits, segment = '+' :: digits
  · obtain ⟨digits, rfl⟩ := hplus
    rw [index?_plus]
    constructor
    · exact .plus
    · intro h
      cases h with
      | plain h => cases h.digit '+' List.mem_cons_self
      | plus h => exact h
  · rw [index?_of_head_ne fun digits h => hplus ⟨digits, h⟩]
    constructor
    · exact .plain
    · intro h
      cases h with
      | plain h => exact h
      | plus h => exact absurd ⟨_, rfl⟩ hplus

theorem child?_eq_some : j.child? segment = some value ↔ j.Holds segment value := by
  constructor
  · intro h
    cases j with
    | obj fields => exact .field h
    | arr items =>
      obtain ⟨i, hi, hvalue⟩ := Option.bind_eq_some_iff.1 h
      exact .item (index?_eq_some.1 hi) hvalue
    | null | bool | num | str => cases h
  · intro h
    cases h with
    | field h => exact h
    | item hi h => exact Option.bind_eq_some_iff.2 ⟨_, index?_eq_some.2 hi, h⟩

theorem follow?_eq_some : j.follow? path = some value ↔ j.Leads path value := by
  induction path generalizing j with
  | nil =>
    constructor
    · intro h
      cases h
      exact .here
    · intro h
      cases h
      rfl
  | cons segment path ih =>
    rw [follow?, Option.bind_eq_some_iff]
    constructor
    · rintro ⟨next, hnext, h⟩
      exact .through (child?_eq_some.1 hnext) (ih.1 h)
    · intro h
      cases h with
      | through hnext h => exact ⟨_, child?_eq_some.2 hnext, ih.2 h⟩

/-- The way from a value into it: a key of an object or a position in a list. -/
inductive Step where
  | key (name : String)
  | position (i : Nat)

/-- A step as it stands in a path. A position is written in decimal, and a plus and zeros can stand
before its digits; positions of lists are below the limit of a word. A numeral can be a key as
well. -/
inductive Step.WrittenAs : Step → String → Prop where
  | key {name : String} : WrittenAs (key name) name
  | position {i zeros : Nat} {sign : List Char} {name : String} (hi : i < Text.wordLimit)
      (hsign : sign = [] ∨ sign = ['+'])
      (h : name.toList = sign ++ (List.replicate zeros '0' ++ Nat.toDigits 10 i)) :
      WrittenAs (position i) name

/-- A value stands in another one under a step. A key leads nowhere in a list, nor a position in an
object. -/
inductive Under : Json → Step → Json → Prop where
  | field {fields : List (String × Json)} {name : String} {value : Json}
      (h : fields.lookup name = some value) : Under (obj fields) (.key name) value
  | item {items : List Json} {i : Nat} {value : Json} (h : items[i]? = some value) :
      Under (arr items) (.position i) value

/-- Steps lead through one value after another. -/
inductive Reaches : Json → List Step → Json → Prop where
  | here {j : Json} : Reaches j [] j
  | through {j next value : Json} {step : Step} {steps : List Step} (hnext : j.Under step next)
      (h : Reaches next steps value) : Reaches j (step :: steps) value

variable {name : String} {names : List String}

theorem numeral_iff_zeros_append : Numeral digits i ↔
    i < Text.wordLimit ∧ ∃ zeros, digits = List.replicate zeros '0' ++ Nat.toDigits 10 i := by
  constructor
  · rintro ⟨hne, hdigit, rfl, hlimit⟩
    exact ⟨hlimit, Text.exists_zeros_append hdigit hne⟩
  · rintro ⟨hlimit, zeros, rfl⟩
    refine ⟨List.append_ne_nil_of_right_ne_nil _ Nat.toDigits_ne_nil, ?_, ?_, hlimit⟩
    · intro c hc
      rcases List.mem_append.1 hc with hc | hc
      · rw [List.eq_of_mem_replicate hc]
        rfl
      · exact Text.isDigit_of_mem_toDigits hc
    · rw [Text.number_zeros_append, Text.number_toDigits]

theorem writtenAs_position_iff :
    (Step.position i).WrittenAs name ↔ Position name.toList i := by
  constructor
  · intro h
    cases h with
    | @position _ zeros _ _ hi hsign h =>
      have hnumeral := numeral_iff_zeros_append.2 ⟨hi, zeros, rfl⟩
      rw [h]
      rcases hsign with rfl | rfl
      · exact .plain hnumeral
      · exact .plus hnumeral
  · intro h
    generalize hsegment : name.toList = segment at h
    cases h with
    | plain h =>
      obtain ⟨hi, zeros, rfl⟩ := numeral_iff_zeros_append.1 h
      exact .position hi (.inl rfl) hsegment
    | plus h =>
      obtain ⟨hi, zeros, rfl⟩ := numeral_iff_zeros_append.1 h
      exact .position hi (.inr rfl) hsegment

/-- The value decides how a name is read: as a key in an object, as a position in a list. -/
theorem holds_iff_under :
    j.Holds name.toList value ↔ ∃ step : Step, step.WrittenAs name ∧ j.Under step value := by
  constructor
  · intro h
    cases h with
    | field h =>
      rw [String.ofList_toList] at h
      exact ⟨.key name, .key, .field h⟩
    | item hi h => exact ⟨.position _, writtenAs_position_iff.2 hi, .item h⟩
  · rintro ⟨step, hwritten, hunder⟩
    cases hunder with
    | field h =>
      cases hwritten
      exact .field (by rwa [String.ofList_toList])
    | item h => exact .item (writtenAs_position_iff.1 hwritten) h

theorem leads_iff_reaches : j.Leads (names.map String.toList) value ↔
    ∃ steps, List.Forall₂ Step.WrittenAs steps names ∧ j.Reaches steps value := by
  induction names generalizing j with
  | nil =>
    constructor
    · intro h
      cases h
      exact ⟨[], .nil, .here⟩
    · rintro ⟨steps, hwritten, hreaches⟩
      cases hwritten
      cases hreaches
      exact .here
  | cons name names ih =>
    constructor
    · intro h
      cases h with
      | through hnext h =>
        obtain ⟨step, hstep, hunder⟩ := holds_iff_under.1 hnext
        obtain ⟨steps, hwritten, hreaches⟩ := ih.1 h
        exact ⟨step :: steps, .cons hstep hwritten, .through hunder hreaches⟩
    · rintro ⟨steps, hwritten, hreaches⟩
      cases hwritten with
      | cons hstep hwritten =>
        cases hreaches with
        | through hunder hreaches =>
          exact .through (holds_iff_under.2 ⟨_, hstep, hunder⟩) (ih.2 ⟨_, hwritten, hreaches⟩)

theorem follow?_append (j : Json) (path more : List (List Char)) :
    j.follow? (path ++ more) = (j.follow? path).bind (·.follow? more) := by
  induction path generalizing j with
  | nil => rfl
  | cons segment path ih =>
    rw [List.cons_append, follow?, follow?, Option.bind_assoc]
    congr
    funext next
    exact ih next

/-- Dots at the ends of the two paths make no segment of their own. -/
theorem pathSegments_append (p q : String) :
    pathSegments (p ++ "." ++ q) = pathSegments p ++ pathSegments q := by
  have hchars : (p ++ "." ++ q).toList = p.toList ++ '.' :: q.toList := by simp
  unfold pathSegments
  rw [hchars, Text.splitAll_append, List.filter_append]

theorem pathSegments_intercalate (h : ∀ name ∈ names, name ≠ "" ∧ '.' ∉ name.toList) :
    pathSegments (".".intercalate names) = names.map String.toList := by
  cases names with
  | nil => rfl
  | cons first rest =>
    have hdots : ∀ piece ∈ (first :: rest).map String.toList, '.' ∉ piece :=
      List.forall_mem_map.2 fun name hname => (h name hname).2
    have hfilled : ∀ piece ∈ (first :: rest).map String.toList, (!piece.isEmpty) = true :=
      List.forall_mem_map.2 fun name hname => by simpa using (h name hname).1
    have hchars : (".".intercalate (first :: rest)).toList =
        ['.'].intercalate ((first :: rest).map String.toList) := String.toList_intercalate
    rw [pathSegments, hchars, Text.splitAll_intercalate hdots (List.cons_ne_nil _ _),
      List.filter_eq_self.2 hfilled]

/-- A path that is put together of two is followed to the end of the first and from there to the end
of the second. A path of names that are not empty and have no dot in them ends where the steps lead
that the names write, and nowhere if these lead nowhere. -/
theorem lookupPath_composes (j : Json) :
    (∀ p q : String, j.lookupPath (p ++ "." ++ q) = (j.lookupPath p).bind (·.lookupPath q)) ∧
      ∀ names : List String, (∀ name ∈ names, name ≠ "" ∧ '.' ∉ name.toList) → ∀ value,
        j.lookupPath (".".intercalate names) = some value ↔
          ∃ steps, List.Forall₂ Step.WrittenAs steps names ∧ j.Reaches steps value := by
  constructor
  · intro p q
    rw [lookupPath, pathSegments_append, follow?_append]
    rfl
  · intro names hnames value
    rw [lookupPath, pathSegments_intercalate hnames, follow?_eq_some, leads_iff_reaches]

/-- An object with a list, in which the second item has a numeral for a key. -/
def numbered : Json := obj [("rows", arr [null, obj [("0", str "a")]])]

/-- One numeral is a position and the next one a key. -/
theorem numbered_found : (∀ name ∈ ["rows", "1", "0"], name ≠ "" ∧ '.' ∉ name.toList) ∧
    numbered.lookupPath "rows.1.0" = some (str "a") := by
  have hplain : ∀ name ∈ ["rows", "1", "0"], name ≠ "" ∧ '.' ∉ name.toList := by decide
  have hdigits : "1".toList = [] ++ (List.replicate 0 '0' ++ Nat.toDigits 10 1) := rfl
  have hwritten : List.Forall₂ Step.WrittenAs [.key "rows", .position 1, .key "0"]
      ["rows", "1", "0"] :=
    .cons .key (.cons (.position (by decide) (.inl rfl) hdigits) (.cons .key .nil))
  have hreaches : numbered.Reaches [.key "rows", .position 1, .key "0"] (str "a") :=
    .through (.field rfl) (.through (.item rfl) (.through (.field rfl) .here))
  exact ⟨hplain, ((lookupPath_composes numbered).2 _ hplain _).2 ⟨_, hwritten, hreaches⟩⟩

end PageLayers.Json
