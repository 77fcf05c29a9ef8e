import PageLayers.Json.Reader
import PageLayers.Json.Text
import PageLayers.Proofs.Text.Digits
import Mathlib.Tactic.IntervalCases
import Mathlib.Tactic.Linarith
import Mathlib.Tactic.SplitIfs

/-! Reading numbers: a number that its own text reads as is read in the same way where more text
stands behind it. -/

namespace PageLayers

/-- A value that stands before this text ends there. -/
def Json.AtEnd (rest : List Char) : Prop :=
  ∀ c ∈ rest.head?, isBlank c = true ∨ c = ',' ∨ c = ']' ∨ c = '}'

namespace Number

variable {n : Number} {negative : Bool} {significand : Nat} {e : Int} {c : Char}
  {cs r rest : List Char}

/-- The text of the number reads as that number. -/
def ReadsBack (n : Number) : Prop := read? n.chars = some (n, [])

/-- No digit, sign, point or exponent stands where a value has ended. -/
theorem ne_of_atEnd (h : Json.AtEnd (c :: rest)) :
    c.isDigit = false ∧ c ≠ '.' ∧ c ≠ 'e' ∧ c ≠ 'E' ∧ c ≠ '+' ∧ c ≠ '-' := by
  have hc := h c rfl
  simp only [Json.isBlank, Bool.or_eq_true, decide_eq_true_eq] at hc
  rcases hc with ((((rfl | rfl) | rfl) | rfl) | rfl | rfl | rfl) <;> decide

theorem startsWithDigit_atEnd (h : Json.AtEnd rest) : startsWithDigit rest = false := by
  cases rest with
  | nil => rfl
  | cons c rest => exact (ne_of_atEnd h).1

theorem startsWithDigit_append (h : Json.AtEnd rest) :
    startsWithDigit (cs ++ rest) = startsWithDigit cs := by
  cases cs with
  | nil => exact startsWithDigit_atEnd h
  | cons c cs => rfl

theorem takeDigits_append {n : Nat} (h : Json.AtEnd rest) :
    takeDigits n (cs ++ rest) = ((takeDigits n cs).1, (takeDigits n cs).2 ++ rest) := by
  induction cs generalizing n with
  | nil =>
    cases rest with
    | nil => rfl
    | cons c rest => simp [takeDigits, (ne_of_atEnd h).1]
  | cons c cs ih =>
    rw [List.cons_append]
    unfold takeDigits
    split
    · exact ih
    · rfl

theorem dropDigits_append (h : Json.AtEnd rest) :
    (cs ++ rest).dropWhile Char.isDigit = cs.dropWhile Char.isDigit ++ rest := by
  induction cs with
  | nil =>
    cases rest with
    | nil => rfl
    | cons c rest => simp [(ne_of_atEnd h).1]
  | cons c cs ih =>
    by_cases hc : c.isDigit = true
    · simp [hc, ih]
    · simp [hc]

theorem takeWhile_digits_append (h : Json.AtEnd rest) :
    (cs ++ rest).takeWhile Char.isDigit = cs.takeWhile Char.isDigit := by
  induction cs with
  | nil =>
    cases rest with
    | nil => rfl
    | cons c rest => simp [(ne_of_atEnd h).1]
  | cons c cs ih =>
    by_cases hc : c.isDigit = true
    · simp [hc, ih]
    · simp [hc]

theorem exponentSign_append (h : Json.AtEnd rest) :
    exponentSign (cs ++ rest) = ((exponentSign cs).1, (exponentSign cs).2 ++ rest) := by
  cases cs with
  | nil =>
    cases rest with
    | nil => rfl
    | cons c rest =>
      obtain ⟨-, -, -, -, hplus, hminus⟩ := ne_of_atEnd h
      simp [exponentSign, hplus, hminus]
  | cons c cs =>
    by_cases hplus : c = '+'
    · subst hplus
      rfl
    · by_cases hminus : c = '-'
      · subst hminus
        rfl
      · simp [exponentSign, hplus, hminus]

theorem exponent?_append (h : Json.AtEnd rest) :
    exponent? negative significand e (cs ++ rest) =
      (exponent? negative significand e cs).map fun x => (x.1, x.2 ++ rest) := by
  simp only [exponent?, exponentSign_append h, takeWhile_digits_append h, dropDigits_append h]
  split_ifs <;> simp [Option.map_map, Function.comp_def]

theorem afterDigits?_append (h : Json.AtEnd rest) :
    afterDigits? negative significand e (cs ++ rest) =
      (afterDigits? negative significand e cs).map fun x => (x.1, x.2 ++ rest) := by
  cases cs with
  | nil =>
    cases rest with
    | nil => simp [afterDigits?, Option.map_map, Function.comp_def]
    | cons c rest =>
      obtain ⟨-, -, hlower, hupper, -⟩ := ne_of_atEnd h
      simp [afterDigits?, hlower, hupper, Option.map_map, Function.comp_def]
  | cons c cs =>
    by_cases hlower : c = 'e'
    · subst hlower
      exact exponent?_append h
    · by_cases hupper : c = 'E'
      · subst hupper
        exact exponent?_append h
      · simp [afterDigits?, hlower, hupper, Option.map_map, Function.comp_def]

theorem fraction?_append (h : Json.AtEnd rest) :
    fraction? negative significand e (cs ++ rest) =
      (fraction? negative significand e cs).map fun x => (x.1, x.2 ++ rest) := by
  unfold fraction?
  rw [startsWithDigit_append h]
  split
  · have hlength : (cs ++ rest).length - ((takeDigits significand cs).2 ++ rest).length =
        cs.length - (takeDigits significand cs).2.length := by
      simp only [List.length_append]
      omega
    simp only [takeDigits_append h, hlength, dropDigits_append h, afterDigits?_append h]
  · rfl

theorem afterWhole?_append {n dropped : Nat} (h : Json.AtEnd rest) :
    afterWhole? negative n dropped (cs ++ rest) =
      (afterWhole? negative n dropped cs).map fun x => (x.1, x.2 ++ rest) := by
  have hother : ∀ c cs, c ≠ '.' → c ≠ 'e' → c ≠ 'E' → afterWhole? negative n dropped (c :: cs) =
      if dropped ≠ 0 then (ofParts? negative n dropped).map (·, c :: cs)
      else if !negative then some (int n, c :: cs)
      else if 1 ≤ n ∧ n ≤ 0x8000000000000000 then some (int (-n), c :: cs)
      else some (float (-Float.ofNat n), c :: cs) := by
    intro c cs hpoint hlower hupper
    simp [afterWhole?, hpoint, hlower, hupper]
  cases cs with
  | nil =>
    cases rest with
    | nil => simp
    | cons c rest =>
      obtain ⟨-, hpoint, hlower, hupper, -⟩ := ne_of_atEnd h
      rw [List.nil_append, hother c rest hpoint hlower hupper]
      simp only [afterWhole?]
      split_ifs <;> simp [Option.map_map, Function.comp_def]
  | cons c cs =>
    by_cases hpoint : c = '.'
    · subst hpoint
      exact fraction?_append h
    by_cases hlower : c = 'e'
    · subst hlower
      exact exponent?_append h
    by_cases hupper : c = 'E'
    · subst hupper
      exact exponent?_append h
    rw [List.cons_append, hother c _ hpoint hlower hupper, hother c _ hpoint hlower hupper]
    split_ifs <;> simp [Option.map_map, Function.comp_def]

theorem unsigned?_append (h : Json.AtEnd rest) :
    unsigned? negative (cs ++ rest) =
      (unsigned? negative cs).map fun x => (x.1, x.2 ++ rest) := by
  unfold unsigned?
  rw [startsWithDigit_append h]
  cases cs with
  | nil => rfl
  | cons c cs =>
    have hzero :
        (c :: cs ++ rest).head? = some '0' ∧ startsWithDigit (c :: cs ++ rest).tail = true ↔
          (c :: cs).head? = some '0' ∧ startsWithDigit (c :: cs).tail = true := by
      rw [List.cons_append, List.tail_cons, List.tail_cons, startsWithDigit_append h]
      rfl
    by_cases hdigit : startsWithDigit (c :: cs) = true
    · by_cases hlead : (c :: cs).head? = some '0' ∧ startsWithDigit (c :: cs).tail = true
      · rw [if_pos (hzero.2 hlead), if_pos hlead]
        simp
      · rw [if_neg (mt hzero.1 hlead), if_neg hlead]
        simp only [takeDigits_append h, dropDigits_append h, List.length_append,
          Nat.add_sub_add_right, afterWhole?_append h, hdigit, Bool.not_true, Bool.false_eq_true,
          if_false]
    · simp [hdigit]

theorem read?_append (h : Json.AtEnd rest) :
    read? (cs ++ rest) = (read? cs).map fun x => (x.1, x.2 ++ rest) := by
  cases cs with
  | nil =>
    cases rest with
    | nil => rfl
    | cons c rest =>
      obtain ⟨hdigit, -, -, -, -, hminus⟩ := ne_of_atEnd h
      simp [read?, hminus, unsigned?, startsWithDigit, hdigit]
  | cons c cs =>
    by_cases hminus : c = '-'
    · subst hminus
      exact unsigned?_append h
    · have hread : unsigned? false (c :: cs ++ rest) =
          (unsigned? false (c :: cs)).map fun x => (x.1, x.2 ++ rest) := unsigned?_append h
      simpa [read?, hminus] using hread

/-! ### Whole numbers -/

/-- What a number of JSON can be: a whole number of sixty-four bits, or a finite double. -/
def WellFormed : Number → Prop
  | int i => -0x8000000000000000 ≤ i ∧ i < 0x10000000000000000
  | float x => x.isFinite = true

instance : DecidablePred WellFormed := fun n =>
  match n with
  | int _ => inferInstanceAs (Decidable (_ ∧ _))
  | float _ => inferInstanceAs (Decidable (_ = true))

theorem takeDigits_of_digits {n : Nat} (hdigits : ∀ c ∈ cs, c.isDigit = true)
    (hfits : Nat.ofDigitChars 10 cs n < Text.wordLimit) :
    takeDigits n cs = (Nat.ofDigitChars 10 cs n, []) := by
  induction cs generalizing n with
  | nil => simp [takeDigits]
  | cons c cs ih =>
    rw [List.forall_mem_cons] at hdigits
    rw [Nat.ofDigitChars_cons, ← Text.addDigit_eq] at hfits ⊢
    have hle : Text.addDigit n c ≤ Nat.ofDigitChars 10 cs (Text.addDigit n c) := by
      rw [Nat.ofDigitChars_eq_ofDigitChars_zero]
      have hpow : 0 < 10 ^ cs.length := Nat.pow_pos (by decide)
      nlinarith
    unfold takeDigits
    rw [if_pos ⟨hdigits.1, by omega⟩]
    exact ih hdigits.2 hfits

theorem takeDigits_toDigits {n : Nat} (h : n < Text.wordLimit) :
    takeDigits 0 (Nat.toDigits 10 n) = (n, []) := by
  have hvalue : Nat.ofDigitChars 10 (Nat.toDigits 10 n) 0 = n := Nat.ofDigitChars_ten_toDigits
  rw [takeDigits_of_digits, hvalue]
  · intro c hc
    exact Text.isDigit_of_mem_toDigits hc
  · rw [hvalue]
    exact h

/-- The digits of a number start with a zero only where it is zero. -/
theorem eq_zero_of_head?_toDigits {n : Nat} (h : (Nat.toDigits 10 n).head? = some '0') : n = 0 := by
  induction n using Nat.strong_induction_on with
  | _ n ih =>
    by_cases hn : n < 10
    · rw [Nat.toDigits_of_lt_base hn] at h
      interval_cases n <;> simp_all [Nat.digitChar]
    · rw [Nat.toDigits_of_base_le (by decide) (by omega), List.head?_append,
        List.head?_eq_some_head Nat.toDigits_ne_nil, Option.some_or,
        ← List.head?_eq_some_head Nat.toDigits_ne_nil] at h
      have hquotient := ih (n / 10) (by omega) h
      omega

theorem unsigned?_toDigits {n : Nat} (h : n < Text.wordLimit) :
    unsigned? negative (Nat.toDigits 10 n) = afterWhole? negative n 0 [] := by
  have hdigit : startsWithDigit (Nat.toDigits 10 n) = true := by
    obtain ⟨c, cs, hcs⟩ := List.exists_cons_of_ne_nil (Nat.toDigits_ne_nil (n := n) (b := 10))
    rw [hcs]
    exact Text.isDigit_of_mem_toDigits (hcs ▸ List.mem_cons_self)
  have hzero : ¬((Nat.toDigits 10 n).head? = some '0' ∧
      startsWithDigit (Nat.toDigits 10 n).tail = true) := by
    rintro ⟨hhead, htail⟩
    rw [eq_zero_of_head?_toDigits hhead] at htail
    cases htail
  simp [unsigned?, hdigit, hzero, takeDigits_toDigits h]

/-- Whole numbers of sixty-four bits are read back. -/
theorem readsBack_int {i : Int} (h : (int i).WellFormed) : (int i).ReadsBack := by
  obtain ⟨hlow, hhigh⟩ := h
  show read? (if i < 0 then '-' :: Nat.toDigits 10 i.natAbs else Nat.toDigits 10 i.natAbs) =
    some (int i, [])
  by_cases hneg : i < 0
  · obtain ⟨n, rfl⟩ : ∃ n : Nat, i = -n := ⟨i.natAbs, by omega⟩
    have hbounds : 1 ≤ n ∧ n ≤ 0x8000000000000000 := by omega
    have hfits : n < Text.wordLimit := by
      unfold Text.wordLimit
      omega
    rw [if_pos hneg, Int.natAbs_neg, Int.natAbs_natCast]
    simp [read?, unsigned?_toDigits hfits, afterWhole?, hbounds]
  · obtain ⟨n, rfl⟩ : ∃ n : Nat, i = n := ⟨i.natAbs, by omega⟩
    have hfits : n < Text.wordLimit := by
      unfold Text.wordLimit
      omega
    rw [if_neg hneg, Int.natAbs_natCast]
    have hread : read? (Nat.toDigits 10 n) = unsigned? false (Nat.toDigits 10 n) := by
      unfold read?
      split
      · rename_i rest hrest
        exact absurd hrest (Text.toDigits_ne_minus n rest)
      · rfl
    simp [hread, unsigned?_toDigits hfits, afterWhole?]

def isFloat : Number → Bool
  | int _ => false
  | float _ => true

/-- The floats among some numbers are read back. -/
def FloatsReadBack (ns : List Number) : Prop := ∀ n ∈ ns, n.isFloat = true → n.ReadsBack

instance : DecidablePred ReadsBack := fun n => inferInstanceAs (Decidable (read? n.chars = _))

instance : DecidablePred FloatsReadBack := fun ns =>
  inferInstanceAs (Decidable (∀ n ∈ ns, n.isFloat = true → n.ReadsBack))

theorem FloatsReadBack.all {ns : List Number} (h : FloatsReadBack ns)
    (hwellFormed : ∀ n ∈ ns, n.WellFormed) : ∀ n ∈ ns, n.ReadsBack := by
  intro n hn
  cases n with
  | int i => exact readsBack_int (hwellFormed _ hn)
  | float x => exact h _ hn rfl

/-- What stands behind a number that reads back is left. -/
theorem ReadsBack.append (h : n.ReadsBack) (hrest : Json.AtEnd rest) :
    read? (n.chars ++ rest) = some (n, rest) := by
  rw [read?_append hrest, h]
  rfl

/-- A text that reads as a number starts with a digit or a sign. -/
theorem head_of_read? (h : read? cs = some (n, r)) :
    ∃ c rest, cs = c :: rest ∧ (c.isDigit = true ∨ c = '-') := by
  cases cs with
  | nil => cases h
  | cons c rest =>
    refine ⟨c, rest, rfl, ?_⟩
    by_cases hminus : c = '-'
    · exact .inr hminus
    · refine .inl ?_
      by_contra hdigit
      simp [read?, hminus, unsigned?, startsWithDigit, hdigit] at h

end Number

end PageLayers
