import PageLayers.Proofs.Expression.ParserSound

/-! The parser never wants for fuel. More of it changes no answer but that of spent fuel, and with
as much as the tokens ask for there is no such answer. -/

namespace PageLayers.Parser

open Cursor

variable {α β : Type} {fuel fuel' l : Nat} {c c' : Cursor} {e : Expr} {k : Phrase}

/-- The second answer is the first one, unless that is for want of fuel. -/
def Steady (r r' : Except Stop α) : Prop := r = .error .spent ∨ r' = r

namespace Steady

variable {r r' : Except Stop α} {f f' : α → Except Stop β}

theorem refl : Steady r r := .inr rfl

theorem bind (h : Steady r r') (hf : ∀ a, Steady (f a) (f' a)) :
    Steady (r >>= f) (r' >>= f') := by
  rcases h with rfl | rfl
  · exact .inl rfl
  · cases r' with
    | ok a => exact hf a
    | error stop => exact .refl

theorem eq_of_ne (h : Steady r r') (hr : r ≠ .error .spent) : r' = r := h.resolve_left hr

end Steady

/-- What each routine does with more fuel. -/
structure SteadyAt (fuel fuel' : Nat) : Prop where
  ternary : ∀ c, Steady (ternary fuel c) (ternary fuel' c)
  binary : ∀ l c, Steady (binary fuel l c) (binary fuel' l c)
  chain : ∀ l entered e c, Steady (chain fuel l entered e c) (chain fuel' l entered e c)
  unary : ∀ c, Steady (unary fuel c) (unary fuel' c)
  suffixes : ∀ entered e c, Steady (suffixes fuel entered e c) (suffixes fuel' entered e c)
  primary : ∀ c, Steady (primary fuel c) (primary fuel' c)
  arguments : ∀ c, Steady (arguments fuel c) (arguments fuel' c)

theorem steady_ternary (h : SteadyAt fuel fuel') :
    Steady (ternary (fuel + 1) c) (ternary (fuel' + 1) c) := by
  rw [ternary, ternary]
  refine Steady.refl.bind fun c => (h.binary 0 c).bind ?_
  rintro ⟨condition, c⟩
  dsimp only
  split
  · exact .refl
  · rename_i c _
    refine (h.ternary c).bind ?_
    rintro ⟨yes, c⟩
    exact Steady.refl.bind fun c => (h.ternary c).bind fun _ => .refl

theorem steady_binary (h : SteadyAt fuel fuel') :
    Steady (binary (fuel + 1) l c) (binary (fuel' + 1) l c) := by
  rw [binary, binary]
  split
  · exact h.unary c
  · refine (h.binary (l + 1) c).bind ?_
    rintro ⟨left, c⟩
    exact h.chain l 0 left c

theorem steady_chain (h : SteadyAt fuel fuel') {entered : Nat} :
    Steady (chain (fuel + 1) l entered e c) (chain (fuel' + 1) l entered e c) := by
  rw [chain, chain]
  split
  · exact .refl
  · refine Steady.refl.bind fun c => (h.binary (l + 1) c).bind ?_
    rintro ⟨right, c⟩
    exact h.chain l (entered + 1) _ c

theorem steady_unary (h : SteadyAt fuel fuel') :
    Steady (unary (fuel + 1) c) (unary (fuel' + 1) c) := by
  rw [unary, unary]
  split
  · exact Steady.refl.bind fun c => (h.unary c).bind fun _ => .refl
  · exact Steady.refl.bind fun c => (h.unary c).bind fun _ => .refl
  · refine (h.primary c).bind ?_
    rintro ⟨e, c⟩
    exact h.suffixes 0 e c

theorem steady_suffixes (h : SteadyAt fuel fuel') {entered : Nat} :
    Steady (suffixes (fuel + 1) entered e c) (suffixes (fuel' + 1) entered e c) := by
  rw [suffixes, suffixes]
  split
  · refine Steady.refl.bind fun c => ?_
    split
    · exact h.suffixes _ _ _
    · exact .refl
  · refine Steady.refl.bind fun c => ?_
    split
    · split
      · exact Steady.refl.bind fun c => h.suffixes _ _ c
      · exact .refl
    · exact .refl
  · exact .refl

theorem steady_named (h : SteadyAt fuel fuel') {name : String} :
    Steady (named fuel name c) (named fuel' name c) := by
  unfold named
  split
  · exact .refl
  · refine Steady.refl.bind fun c => ?_
    split
    · exact .refl
    · exact (h.arguments c).bind fun _ => .refl

theorem steady_primary (h : SteadyAt fuel fuel') :
    Steady (primary (fuel + 1) c) (primary (fuel' + 1) c) := by
  match htokens : c.tokens with
  | [] =>
    simp only [primary, htokens]
    exact .refl
  | (place, .number x) :: rest =>
    simp only [primary, htokens]
    exact .refl
  | (place, .str s) :: rest =>
    simp only [primary, htokens]
    exact .refl
  | (place, .ident name) :: rest =>
    rw [primary_of_ident htokens, primary_of_ident htokens]
    split
    · exact .refl
    · exact steady_named h
  | (place, .punct p) :: rest =>
    by_cases hp : p = .openParen
    · subst hp
      simp only [primary, htokens]
      exact (h.ternary _).bind fun _ => .refl
    · rw [primary_of_punct htokens hp, primary_of_punct htokens hp]
      exact .refl

theorem steady_arguments (h : SteadyAt fuel fuel') :
    Steady (arguments (fuel + 1) c) (arguments (fuel' + 1) c) := by
  rw [arguments, arguments]
  refine (h.ternary c).bind ?_
  rintro ⟨e, c⟩
  dsimp only
  split
  · exact .refl
  · exact Steady.refl.bind fun c => (h.arguments c).bind fun _ => .refl

theorem steadyAt (h : fuel ≤ fuel') : SteadyAt fuel fuel' := by
  induction fuel generalizing fuel' with
  | zero =>
    exact ⟨fun _ => .inl rfl, fun _ _ => .inl rfl, fun _ _ _ _ => .inl rfl, fun _ => .inl rfl,
      fun _ _ _ => .inl rfl, fun _ => .inl rfl, fun _ => .inl rfl⟩
  | succ fuel ih =>
    obtain ⟨more, rfl⟩ : ∃ more, fuel' = more + 1 := ⟨fuel' - 1, by omega⟩
    have hsteady := ih (Nat.le_of_succ_le_succ h)
    exact ⟨fun _ => steady_ternary hsteady, fun _ _ => steady_binary hsteady,
      fun _ _ _ _ => steady_chain hsteady, fun _ => steady_unary hsteady,
      fun _ _ _ => steady_suffixes hsteady, fun _ => steady_primary hsteady,
      fun _ => steady_arguments hsteady⟩

/-- Fuel that the tokens ask for is not spent. -/
theorem ternary_ne_spent (hfuel : 12 * c.tokens.length + 10 ≤ fuel) :
    ternary fuel c ≠ .error .spent := by
  intro hspent
  have houtcome := (readsAt fuel).ternary c
  rw [hspent] at houtcome
  rcases houtcome with ⟨e, he, -⟩ | hshort
  · cases he
  · exact absurd hfuel (Nat.not_le_of_gt hshort)

/-- No amount of fuel above that for the tokens makes a difference. -/
theorem ternary_steady (h : fuelFor c.tokens ≤ fuel) :
    ternary fuel c = ternary (fuelFor c.tokens) c :=
  ((steadyAt h).ternary c).eq_of_ne (ternary_ne_spent (by unfold fuelFor; omega))

theorem Reads.length_lt {x : Expr × Cursor} (h : Reads k c x) :
    x.2.tokens.length < c.tokens.length := by
  obtain ⟨ts, hover, hderives⟩ := h
  have hpos := hderives.length_pos
  have hlength := hover.length_eq
  omega

theorem length_of_over {t : Token} (h : c.Over [t] c') :
    c.tokens.length = c'.tokens.length + 1 := by
  have hlength := h.length_eq
  rw [List.length_singleton] at hlength
  omega

theorem length_advance_le : c.advance.tokens.length ≤ c.tokens.length := by
  simp [advance]

end PageLayers.Parser
