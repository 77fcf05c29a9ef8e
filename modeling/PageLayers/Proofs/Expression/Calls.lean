import PageLayers.Proofs.Expression.Balance
import PageLayers.Proofs.Expression.ParserComplete

/-! Calls that are nested too deeply. All arguments of a call are read at one depth, so that their
number does not matter. -/

namespace PageLayers.Parser

open Cursor

variable {fuel : Nat} {c a b inside : Cursor} {name : String} {e : Expr}

/-- A call starts here, and what stands between its parentheses starts one level deeper. -/
structure Cursor.Calls (c : Cursor) (name : String) (inside : Cursor) : Prop where
  named : constant? name = none
  next : c.next? = some (.ident name)
  opened : c.advance.next? = some (.punct .openParen)
  inside : inside = c.advance.advance.deeper 1

/-- An argument of the call that starts here is read from there. All but the first come after a
comma. -/
inductive Cursor.Argument (c : Cursor) : Cursor → Prop where
  | first {name : String} {inside : Cursor} (h : c.Calls name inside)
      (hsome : inside.next? ≠ some (.punct .closeParen)) : Argument c inside
  | next {a b : Cursor} {e : Expr} (h : Argument c a)
      (hread : ternary (fuelFor a.tokens) a = .ok (e, b))
      (hcomma : b.next? = some (.punct .comma)) : Argument c b.advance

/-- The depth does not grow from one argument to the next. -/
theorem Cursor.Argument.depth_eq (h : c.Argument a) : a.depth = c.depth + 1 := by
  induction h with
  | first hcall =>
    rw [hcall.inside]
    rfl
  | next _ hread _ ih =>
    obtain ⟨ts, hover, -⟩ := reads_ternary hread
    exact hover.depth.trans ih

/-- Any fuel that is enough gives the same. -/
theorem ternary_of_fuel (hfuel : 12 * a.tokens.length + 10 ≤ fuel) :
    ternary fuel a = ternary (fuelFor a.tokens) a := by
  rcases Nat.le_total (fuelFor a.tokens) fuel with hmore | hless
  · exact ternary_steady hmore
  · exact (((steadyAt hless).ternary a).eq_of_ne (ternary_ne_spent hfuel)).symm

theorem arguments_of_error {stop : Stop} (hfuel : 12 * a.tokens.length + 11 ≤ fuel)
    (hread : ternary (fuelFor a.tokens) a = .error stop) : arguments fuel a = .error stop := by
  obtain ⟨more, rfl⟩ : ∃ more, fuel = more + 1 := ⟨fuel - 1, by omega⟩
  rw [arguments, ternary_of_fuel (by omega), hread]
  rfl

/-- After a comma the arguments go on, and fail if the rest of them does. -/
theorem arguments_of_comma (hread : ternary (fuelFor a.tokens) a = .ok (e, b))
    (hcomma : b.next? = some (.punct .comma)) (hfuel : 12 * a.tokens.length + 11 ≤ fuel + 1) :
    arguments (fuel + 1) a = (arguments fuel b.advance).map fun r => (e :: r.1, r.2) := by
  have hclose : b.next? ≠ some (.punct .closeParen) := by simp [hcomma]
  rw [arguments, ternary_of_fuel (by omega), hread]
  simp only [bind, Except.bind, eat?_of_next_ne hclose, expect, eat?_of_next hcomma]
  cases arguments fuel b.advance <;> rfl

/-- Arguments are nested too deeply only if one of them is. -/
theorem tooDeep_of_arguments (h : c.Argument a) (hfuel : 12 * a.tokens.length + 11 ≤ fuel)
    (hdeep : arguments fuel a = .error (.refused .tooDeep)) :
    ∃ a, c.Argument a ∧ ternary (fuelFor a.tokens) a = .error (.refused .tooDeep) := by
  induction fuel generalizing a with
  | zero => omega
  | succ fuel ih =>
    cases hread : ternary (fuelFor a.tokens) a with
    | error stop =>
      rw [arguments_of_error hfuel hread] at hdeep
      cases hdeep
      exact ⟨a, h, hread⟩
    | ok x =>
      obtain ⟨e, b⟩ := x
      by_cases hcomma : b.next? = some (.punct .comma)
      · have hlength := (reads_ternary hread).length_lt
        have hadvance := @length_advance_le b
        rw [arguments_of_comma hread hcomma hfuel, except_map_eq_error] at hdeep
        exact ih (h.next hread hcomma) (by dsimp only at hlength; omega) hdeep
      · -- the list ends here, or is not one
        rw [arguments, ternary_of_fuel (by omega), hread] at hdeep
        simp only [bind, Except.bind, expect, eat?_of_next_ne hcomma] at hdeep
        split at hdeep <;> cases hdeep

theorem Cursor.Calls.primary_eq (h : c.Calls name inside) : primary (fuel + 1) c =
    if c.depth + 1 > c.limit then .error (.refused .tooDeep)
    else match inside.eat? .closeParen with
      | some c => .ok (.call name [], c.leave 1)
      | none => (arguments fuel inside).map fun r => (.call name r.1, r.2.leave 1) := by
  obtain ⟨hname, hnext, hopened, rfl⟩ := h
  obtain ⟨place, rest, htokens⟩ := tokens_of_next hnext
  rw [primary_of_ident htokens, hname]
  dsimp only
  rw [Parser.named, eat?_of_next hopened]
  dsimp only
  rw [enter_eq]
  by_cases hlimit : c.advance.advance.depth + 1 > c.advance.advance.limit
  · rw [if_pos hlimit, if_pos (show c.depth + 1 > c.limit from hlimit)]
    rfl
  · rw [if_neg hlimit, if_neg (show ¬c.depth + 1 > c.limit from hlimit)]
    simp only [bind, Except.bind]
    cases (c.advance.advance.deeper 1).eat? .closeParen with
    | some c => rfl
    | none => cases arguments fuel (c.advance.advance.deeper 1) <;> rfl

/-- Where no level is left an argument is nested too deeply. -/
theorem ternary_of_limit (hlimit : a.limit < a.depth + 1) :
    ternary (fuelFor a.tokens) a = .error (.refused .tooDeep) := by
  obtain ⟨fuel, hfuel⟩ : ∃ fuel, fuelFor a.tokens = fuel + 1 := ⟨12 * a.tokens.length + 11, rfl⟩
  rw [hfuel, ternary, enter_eq, if_pos hlimit]
  rfl

/-- Fuel that is enough for a call is enough for the arguments in it. -/
theorem Cursor.Calls.exists_fuel (h : c.Calls name inside) (hfuel : fuelFor c.tokens ≤ fuel) :
    ∃ more, fuel = more + 1 ∧ 12 * inside.tokens.length + 11 ≤ more := by
  have hname := length_of_over (over_advance h.next)
  have hopened := length_of_over (over_advance h.opened)
  rw [h.inside, tokens_deeper]
  unfold fuelFor at hfuel
  exact ⟨fuel - 1, by omega, by omega⟩

/-- A call is nested too deeply if its arguments, from one of them on, are. -/
theorem tooDeep_of_argument (h : c.Argument a)
    (hdeep : ∀ fuel, 12 * a.tokens.length + 11 ≤ fuel →
      arguments fuel a = .error (.refused .tooDeep))
    (hfuel : fuelFor c.tokens ≤ fuel) : primary fuel c = .error (.refused .tooDeep) := by
  induction h with
  | first hcall hsome =>
    obtain ⟨fuel, rfl, hinside⟩ := hcall.exists_fuel hfuel
    rw [hcall.primary_eq]
    split
    · rfl
    · rw [eat?_of_next_ne hsome]
      exact except_map_eq_error.2 (hdeep fuel hinside)
  | next _ hread hcomma ih =>
    refine ih fun fuel hfuel => ?_
    obtain ⟨fuel, rfl⟩ : ∃ more, fuel = more + 1 := ⟨fuel - 1, by omega⟩
    have hlength := (reads_ternary hread).length_lt
    have hadvance := length_of_over (over_advance hcomma)
    rw [arguments_of_comma hread hcomma hfuel]
    exact except_map_eq_error.2 (hdeep fuel (by dsimp only at hlength; omega))

/-- A call with arguments is nested too deeply where one of them is, each read one level inside the
call, and a call without any where no level is left for it. -/
theorem primary_tooDeep_iff (h : c.Calls name inside) (hfuel : fuelFor c.tokens ≤ fuel) :
    primary fuel c = .error (.refused .tooDeep) ↔
      (∃ a, c.Argument a ∧ a.depth = c.depth + 1 ∧
        ternary (fuelFor a.tokens) a = .error (.refused .tooDeep)) ∨
      inside.next? = some (.punct .closeParen) ∧ c.limit < c.depth + 1 := by
  obtain ⟨fuel, rfl, hinside⟩ := h.exists_fuel hfuel
  constructor
  · intro hdeep
    by_cases hnone : inside.next? = some (.punct .closeParen)
    · refine .inr ⟨hnone, Nat.lt_of_not_le fun hlevel => ?_⟩
      rw [h.primary_eq, if_neg (by omega), eat?_of_next hnone] at hdeep
      cases hdeep
    · refine .inl ?_
      have hfirst : c.Argument inside := .first h hnone
      by_cases hlimit : c.depth + 1 > c.limit
      · refine ⟨inside, hfirst, hfirst.depth_eq, ternary_of_limit ?_⟩
        rw [h.inside]
        exact Nat.lt_succ_of_lt hlimit
      · rw [h.primary_eq, if_neg hlimit, eat?_of_next_ne hnone] at hdeep
        obtain ⟨a, ha, hdeep⟩ :=
          tooDeep_of_arguments hfirst hinside (except_map_eq_error.1 hdeep)
        exact ⟨a, ha, ha.depth_eq, hdeep⟩
  · rintro (⟨a, ha, -, hdeep⟩ | ⟨hnone, hlimit⟩)
    · exact tooDeep_of_argument ha (fun _ hfuel => arguments_of_error hfuel hdeep) hfuel
    · rw [h.primary_eq, if_pos hlimit]

/-- The routines of the parser get ahead in the tokens and leave the depth as they found it. So each
source is read to its end, whatever the depth, and a call is nested too deeply only if one of its
arguments is at the depth inside the call, or if it has none and no level is left for it. -/
theorem routines_restore_depth :
    (∀ fuel, Restores (ternary fuel) ∧ (∀ l, Restores (binary fuel l)) ∧ Restores (unary fuel) ∧
      Restores (access fuel) ∧ Restores (primary fuel)) ∧
    (∀ source fuel, 12 * (source.length + 1) ≤ fuel →
      Expr.read fuel source = (Expr.parse source).mapError .refused) ∧
    ∀ fuel c name inside, c.Calls name inside → fuelFor c.tokens ≤ fuel →
      (primary fuel c = .error (.refused .tooDeep) ↔
        (∃ a, c.Argument a ∧ a.depth = c.depth + 1 ∧
          ternary (fuelFor a.tokens) a = .error (.refused .tooDeep)) ∨
        inside.next? = some (.punct .closeParen) ∧ c.limit < c.depth + 1) := by
  refine ⟨fun fuel => ⟨?_, fun _ => restores_binary, ?_, ?_, ?_⟩, fun _ _ => Expr.read_eq_parse,
    fun _ _ _ _ => primary_tooDeep_iff⟩
  · exact restores_of_reads fun _ _ => reads_ternary
  · exact restores_of_reads fun _ _ => reads_unary
  · exact restores_of_reads fun _ _ => reads_access
  · exact restores_of_reads fun _ _ => reads_primary

/-- The tokens of `f(a, f(b))` with two levels left. -/
def callInCall : Cursor where
  tokens := [(0, .ident "f"), (1, .punct .openParen), (2, .ident "a"), (3, .punct .comma),
    (5, .ident "f"), (6, .punct .openParen), (7, .ident "b"), (8, .punct .closeParen),
    (9, .punct .closeParen)]
  depth := maxDepth - 2
  limit := maxDepth
  finish := 10

/-- The call in the call is nested too deeply, so the outer one is. -/
theorem callInCall_tooDeep :
    callInCall.Calls "f" (callInCall.advance.advance.deeper 1) ∧
    fuelFor callInCall.tokens ≤ 120 ∧ primary 120 callInCall = .error (.refused .tooDeep) ∧
    ((∃ a, callInCall.Argument a ∧ a.depth = callInCall.depth + 1 ∧
        ternary (fuelFor a.tokens) a = .error (.refused .tooDeep)) ∨
      (callInCall.advance.advance.deeper 1).next? = some (.punct .closeParen) ∧
        callInCall.limit < callInCall.depth + 1) := by
  have hcall : callInCall.Calls "f" (callInCall.advance.advance.deeper 1) :=
    ⟨by decide, rfl, rfl, rfl⟩
  have hfuel : fuelFor callInCall.tokens ≤ 120 := by decide
  have hdeep : primary 120 callInCall = .error (.refused .tooDeep) := rfl
  exact ⟨hcall, hfuel, hdeep, (routines_restore_depth.2.2 120 _ _ _ hcall hfuel).1 hdeep⟩

/-- Without arguments there is none to be nested too deeply, but the call may be. -/
theorem emptyCall_tooDeep : ¬∀ c name inside, c.Calls name inside →
    primary (fuelFor c.tokens) c = .error (.refused .tooDeep) →
      ∃ a, c.Argument a ∧ ternary (fuelFor a.tokens) a = .error (.refused .tooDeep) := by
  intro h
  let c : Cursor := ⟨[(0, .ident "f"), (1, .punct .openParen), (2, .punct .closeParen)], maxDepth,
    maxDepth, 3⟩
  obtain ⟨a, ha, -⟩ := h c "f" _ ⟨by decide, rfl, rfl, rfl⟩ rfl
  induction ha with
  | first hcall hsome =>
    rw [hcall.inside] at hsome
    exact hsome rfl
  | next _ _ _ ih => exact ih

end PageLayers.Parser
