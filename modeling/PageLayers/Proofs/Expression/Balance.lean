import PageLayers.Proofs.Expression.ParserFuel
import PageLayers.Proofs.Expression.Places

/-! What a routine of the parser reads takes up tokens, and the depth that it entered is left again.
Reading an expression comes to an end: twelve units of fuel for each character and twelve more are
never spent. -/

namespace PageLayers

/-- Reads an expression with so much fuel. -/
def Expr.read (fuel : Nat) (source : String) : Except Stop Expr := do
  let tokens ← Lexer.tokens fuel 0 source.toList
  Parser.whole fuel maxDepth source.utf8ByteSize tokens

namespace Parser

open Cursor

variable {fuel l : Nat} {c : Cursor} {x : Expr × Cursor} {k : Phrase}
  {f : Cursor → Except Stop (Expr × Cursor)}

/-- A primary with the members and positions that follow. -/
def access (fuel : Nat) (c : Cursor) : Except Stop (Expr × Cursor) := do
  let (e, c) ← primary fuel c
  suffixes fuel 0 e c

/-- Where no sign comes next the members of a primary are read. -/
theorem unary_of_access (hbang : c.eat? .bang = none) (hminus : c.eat? .minus = none) :
    unary (fuel + 1) c = access fuel c := by
  rw [unary, hbang, hminus]
  rfl

/-- Where the parser stands after so many tokens. -/
def placeAt (tokens : List (Nat × Token)) (limit finish position depth : Nat) : Cursor :=
  ⟨tokens.drop position, depth, limit, finish⟩

/-- From each place a routine gets ahead in the tokens, if it reads anything, and is then at the
depth it started from. -/
def Restores (f : Cursor → Except Stop (Expr × Cursor)) : Prop :=
  ∀ tokens limit finish position depth e c',
    f (placeAt tokens limit finish position depth) = .ok (e, c') →
      ∃ position', position < position' ∧ position' ≤ tokens.length ∧
        c' = placeAt tokens limit finish position' depth

theorem restores_of_reads (h : ∀ c x, f c = .ok x → Reads k c x) : Restores f := by
  intro tokens limit finish position depth e c' hread
  obtain ⟨ts, ⟨⟨passed, htokens, rfl⟩, hdepth, hlimit, hfinish⟩, hderives⟩ := h _ _ hread
  have hpos := hderives.length_pos
  dsimp only [placeAt] at htokens hdepth hlimit hfinish
  have hlength := congrArg List.length htokens
  simp only [List.length_drop, List.length_append, List.length_map] at hlength hpos
  refine ⟨position + passed.length, by omega, by omega, ?_⟩
  have hrest : c'.tokens = tokens.drop (position + passed.length) := by
    rw [← List.drop_drop, htokens, List.drop_left]
  obtain ⟨tokens', depth', limit', finish'⟩ := c'
  dsimp only at hrest hdepth hlimit hfinish
  rw [placeAt, hrest, hdepth, hlimit, hfinish]

theorem reads_unary (h : unary fuel c = .ok x) : Reads .unary c x :=
  ((readsAt fuel).unary c).of_eq_ok h

theorem reads_access (h : access fuel c = .ok x) : Reads .member c x := by
  have houtcome : Outcome (Reads .member c) (fun _ => True) (access fuel c) := by
    refine ((readsAt fuel).primary c).bind (fun _ _ => trivial) ?_
    rintro ⟨e, c₁⟩ ⟨ts, hts, he⟩
    refine ((readsAt fuel).suffixes 0 e c₁).mono (fun _ _ => trivial) ?_
    rintro ⟨e', c₂⟩ ⟨us, hus, hextends⟩
    exact ⟨_, hts.trans hus, hextends _ (.ofPrimary he)⟩
  exact houtcome.of_eq_ok h

/-- There are no operators above the last level, so nothing is read there. -/
theorem binary_of_levels_lt (hl : levels < l) : binary fuel l c = .error .spent := by
  induction fuel generalizing l with
  | zero => rfl
  | succ fuel ih =>
    rw [binary, if_neg (Nat.ne_of_gt hl), ih (Nat.lt_succ_of_lt hl)]
    rfl

theorem restores_binary : Restores (binary fuel l) := by
  by_cases hl : l ≤ levels
  · exact restores_of_reads fun _ _ => reads_binary hl
  · intro tokens limit finish position depth e c' hread
    rw [binary_of_levels_lt (Nat.lt_of_not_le hl)] at hread
    cases hread

variable {limit finish : Nat} {ts : List (Nat × Token)}

theorem whole_ne_spent (hfuel : fuelFor ts ≤ fuel) :
    whole fuel limit finish ts ≠ .error .spent := by
  intro hspent
  have houtcome := @whole_outcome limit finish ts fuel hfuel
  rw [hspent] at houtcome
  rcases houtcome with ⟨e, he, -⟩ | ⟨hdeep, -⟩
  · cases he
  · cases hdeep

theorem whole_steady (hfuel : fuelFor ts ≤ fuel) :
    whole fuel limit finish ts = whole (fuelFor ts) limit finish ts := by
  have hsteady :
      ternary fuel ⟨ts, 0, limit, finish⟩ = ternary (fuelFor ts) ⟨ts, 0, limit, finish⟩ :=
    ternary_steady hfuel
  unfold whole
  rw [hsteady]

end Parser

namespace Lexer

variable {fuel fuel' place : Nat} {cs : List Char}

/-- Each token takes a character, so that no more fuel than there are characters is asked for. -/
theorem tokens_steady (h : cs.length ≤ fuel) (h' : cs.length ≤ fuel') :
    tokens fuel' place cs = tokens fuel place cs := by
  induction fuel generalizing fuel' place cs with
  | zero =>
    obtain rfl := List.eq_nil_of_length_eq_zero (Nat.le_zero.1 h)
    cases fuel' <;> rfl
  | succ fuel ih =>
    cases cs with
    | nil => cases fuel' <;> rfl
    | cons c rest =>
      rw [List.length_cons] at h h'
      obtain ⟨fuel', rfl⟩ : ∃ more, fuel' = more + 1 := ⟨fuel' - 1, by omega⟩
      cases hc : Text.isBlank c with
      | true =>
        rw [tokens, tokens, if_pos hc, if_pos hc]
        exact ih (by omega) (by omega)
      | false =>
        cases htoken : token place c rest with
        | error e => rw [tokens_error hc htoken, tokens_error hc htoken]
        | ok r =>
          obtain ⟨t, next, left⟩ := r
          obtain ⟨taken, rfl, -⟩ := token_ok htoken
          rw [List.length_append] at h h'
          have hmore : tokens fuel' next left = tokens fuel next left := ih (by omega) (by omega)
          rw [tokens_token hc htoken, tokens_token hc htoken, hmore]

theorem tokens_ne_spent (h : cs.length ≤ fuel) : tokens fuel place cs ≠ .error .spent := by
  intro hspent
  obtain ⟨_, _, _, _, -, -, -, hrefused⟩ := cuts_of_error hspent h
  cases hrefused

theorem length_tokens_le {ts : List (Nat × Token)} (h : tokens fuel place cs = .ok ts) :
    ts.length ≤ cs.length := by
  induction fuel generalizing place cs ts with
  | zero =>
    cases cs with
    | nil =>
      cases h
      exact Nat.le_refl _
    | cons => cases h
  | succ fuel ih =>
    cases cs with
    | nil =>
      cases h
      exact Nat.le_refl _
    | cons c rest =>
      cases hc : Text.isBlank c with
      | true =>
        rw [tokens, if_pos hc] at h
        exact Nat.le_succ_of_le (ih h)
      | false =>
        cases htoken : token place c rest with
        | error e =>
          rw [tokens_error hc htoken] at h
          cases h
        | ok r =>
          obtain ⟨t, next, left⟩ := r
          rw [tokens_token hc htoken] at h
          obtain ⟨more, hmore, rfl⟩ := except_map_eq_ok.1 h
          obtain ⟨taken, rfl, -⟩ := token_ok htoken
          have hlength := ih hmore
          simp only [List.length_cons, List.length_append]
          omega

end Lexer

/-- Apart from spent fuel an answer is what it is told as. -/
theorem mapError_refused {α : Type} {r : Except Stop α} (h : r ≠ .error .spent) :
    (r.mapError Stop.error).mapError .refused = r := by
  match r with
  | .ok _ => rfl
  | .error (.refused _) => rfl
  | .error .spent => exact absurd rfl h

/-- With enough fuel a text is read to its end, or turned down. -/
theorem Expr.read_eq_parse {fuel : Nat} {source : String} (h : 12 * (source.length + 1) ≤ fuel) :
    read fuel source = (parse source).mapError .refused := by
  have hlength : source.toList.length = source.length := String.length_toList
  have htokens : Lexer.tokens fuel 0 source.toList =
      (Lexer.tokenize source.toList).mapError .refused := by
    rw [Lexer.tokenize, mapError_refused (Lexer.tokens_ne_spent (Nat.le_refl _))]
    exact Lexer.tokens_steady (Nat.le_refl _) (by omega)
  unfold read parse
  rw [htokens]
  cases hcut : Lexer.tokenize source.toList with
  | error e => rfl
  | ok ts =>
    have hcount := Lexer.length_tokens_le (except_mapError_eq_ok.1 hcut)
    have hfuel : Parser.fuelFor ts ≤ fuel := by
      unfold Parser.fuelFor
      omega
    show Parser.whole fuel maxDepth source.utf8ByteSize ts = _
    rw [Parser.whole_steady hfuel]
    exact (mapError_refused (Parser.whole_ne_spent (Nat.le_refl _))).symm

end PageLayers
