import Mathlib.Logic.Function.Iterate
import PageLayers.Proofs.Expression.Lexemes
import PageLayers.Proofs.Expression.Nesting

/-! Expressions nested as deeply as the parser lets them be. A storey is a parenthesis around an
operand with as many members as there is room for, then as many operators of each level, from the
strongest to the weakest, then a question; the operand is the storey below, for which there is one
level less. -/

namespace PageLayers.Parser

open Cursor Lexer

variable {α β : Type} {l r n : Nat} {c c' : Cursor} {e : Expr} {x : Expr × Cursor} {p : Punct}

/-- A routine succeeds with enough fuel. -/
def Succeeds (f : Nat → Except Stop α) (a : α) : Prop :=
  ∃ least, ∀ fuel, least ≤ fuel → f fuel = .ok a

namespace Succeeds

variable {f f' : Nat → Except Stop α} {a : α}

theorem of_forall (h : ∀ fuel, f fuel = .ok a) : Succeeds f a := ⟨0, fun fuel _ => h fuel⟩

theorem succ (h : Succeeds f a) (hf : ∀ fuel, f' (fuel + 1) = f fuel) : Succeeds f' a := by
  obtain ⟨least, hok⟩ := h
  refine ⟨least + 1, fun fuel hfuel => ?_⟩
  obtain ⟨fuel, rfl⟩ := Nat.exists_eq_add_of_le' hfuel
  rw [← Nat.add_assoc, hf, hok _ (Nat.le_add_left _ _)]

theorem bind {g : Nat → α → Except Stop β} {b : β} (h : Succeeds f a)
    (hg : Succeeds (g · a) b) : Succeeds (fun fuel => f fuel >>= g fuel) b := by
  obtain ⟨least, hok⟩ := h
  obtain ⟨least', hok'⟩ := hg
  refine ⟨max least least', fun fuel hfuel => ?_⟩
  dsimp only
  rw [hok fuel (Nat.le_trans (Nat.le_max_left _ _) hfuel)]
  exact hok' fuel (Nat.le_trans (Nat.le_max_right _ _) hfuel)

end Succeeds

theorem enter_of_room (h : 0 < c.room) : c.enter = .ok (c.deeper 1) := by
  have hdepth : ¬c.depth + 1 > c.limit := by
    simp only [room] at h
    omega
  rw [enter_eq, if_neg hdepth]

/-- An expression with a way to write it. -/
structure Written where
  lexemes : List Lexeme
  expr : Expr

namespace Written

def tokens (w : Written) : List Token := w.lexemes.map Lexeme.token

/-- The name `a`. -/
def letter : Written := ⟨[.name ⟨'a', [], by decide +kernel, by simp⟩], .var "a"⟩

def call : Written := ⟨letter.lexemes ++ [.punct .openParen, .punct .closeParen], .call "a" []⟩

def member (w : Written) : Written :=
  ⟨w.lexemes ++ .punct .dot :: letter.lexemes, .get w.expr (.field "a")⟩

/-- The first of the operators of a level. -/
def operator (l : Nat) : Punct × BinaryOp := (operators l).headD (.percent, .rem)

/-- The left operand of an operator of the level. -/
def operand (l : Nat) (w : Written) : Written :=
  ⟨w.lexemes ++ .punct (operator l).1 :: letter.lexemes,
    .binary (operator l).2 w.expr letter.expr⟩

def question (w : Written) : Written :=
  ⟨w.lexemes ++ .punct .question :: letter.lexemes ++ .punct .colon :: letter.lexemes,
    .ternary w.expr letter.expr letter.expr⟩

def parens (w : Written) : Written :=
  ⟨.punct .openParen :: w.lexemes ++ [.punct .closeParen], w.expr⟩

/-- Chains of `r` at each level down to some, on top of as many members. -/
def stacked (r : Nat) (w : Written) : Nat → Written
  | 0 => member^[r] w
  | k + 1 => (operand (levels - (k + 1)))^[r] (stacked r w k)

/-- What is in the parentheses of the storey for which there is room for `r + 2` levels, and the
storey below it for which there is one less. -/
def storey : Nat → Written
  | 0 => question (stacked 1 call levels)
  | r + 1 => question (stacked (r + 2) (storey r).parens levels)

/-- No sign stands before it. -/
def Unsigned (w : Written) : Prop :=
  ∃ t ts, w.tokens = t :: ts ∧ t ≠ .punct .bang ∧ t ≠ .punct .minus

variable {w : Written}

theorem tokens_member : w.member.tokens = w.tokens ++ [.punct .dot, .ident "a"] := by
  simp only [tokens, member, List.map_append]
  rfl

theorem tokens_operand :
    (w.operand l).tokens = w.tokens ++ [.punct (operator l).1, .ident "a"] := by
  simp only [tokens, operand, List.map_append]
  rfl

theorem tokens_question : w.question.tokens =
    w.tokens ++ .punct .question :: [.ident "a"] ++ .punct .colon :: [.ident "a"] := by
  simp only [tokens, question, List.map_append]
  rfl

theorem tokens_parens :
    w.parens.tokens = .punct .openParen :: w.tokens ++ [.punct .closeParen] := by
  simp [tokens, parens, Lexeme.token]

end Written

open Written

variable {w : Written} {k : Phrase}

/-- The routine that reads the phrases of a kind. -/
def routine : Phrase → Nat → Cursor → Except Stop (Expr × Cursor)
  | .ternary, fuel, c => ternary fuel c
  | .level l, fuel, c => binary fuel l c
  | .unary, fuel, c => unary fuel c
  | .member, fuel, c => unary fuel c
  | .primary, fuel, c => primary fuel c

/-- A phrase is read wherever there is room for so many levels. -/
def Fits (k : Phrase) (r : Nat) (w : Written) : Prop :=
  ∀ c c' : Cursor, r ≤ c.room → c.Over w.tokens c' → c'.Stops k →
    Succeeds (routine k · c) (w.expr, c')

theorem room_deeper_of_le (h : n + r ≤ c.room) : r ≤ (c.deeper n).room := by
  simp only [room, deeper] at h ⊢
  omega

theorem operator?_operator (hl : l < levels) :
    (operator l).1.operator? = some (l, (operator l).2) := by
  match l with
  | 0 | 1 | 2 | 3 | 4 | 5 => rfl
  | l + 6 => exact absurd hl (Nat.not_lt.2 (Nat.le_add_left _ _))

theorem fits_letter_primary : Fits .primary 0 letter := by
  intro c c' _ hover hstops
  have hover : c.Over [.ident "a"] c' := hover
  obtain ⟨place, rest, htokens⟩ := tokens_of_next hover.next?_eq
  obtain rfl := hover.advance.eq_of_nil
  have hopen : c.advance.next? ≠ some (.punct .openParen) := fun hopen =>
    absurd (hstops _ 9 hopen rfl) (Nat.lt_irrefl _)
  refine Succeeds.succ (.of_forall fun _ => rfl) fun fuel => ?_
  simp only [routine]
  rw [primary_of_ident htokens, show constant? "a" = none by decide]
  dsimp only
  rw [named, eat?_of_next_ne hopen]
  rfl

/-- Members are read one after another, each one level deeper than the one before. -/
theorem succeeds_members (h : Fits .primary r w) (hsign : w.Unsigned) (hn : n ≤ r)
    (hroom : r ≤ c.room) (hover : c.Over (member^[n] w).tokens c') (hstops : c'.Stops .primary)
    (hrest : Succeeds (fun fuel => suffixes fuel n (member^[n] w).expr (c'.deeper n)) x) :
    Succeeds (unary · c) x := by
  induction n generalizing c' with
  | zero =>
    obtain ⟨t, ts, htokens, hbang, hminus⟩ := hsign
    have hnext : c.next? = some t := Over.next?_eq (htokens ▸ hover)
    have hread := Succeeds.bind (g := fun fuel y => suffixes fuel 0 y.1 y.2)
      (h c c' hroom hover hstops) hrest
    refine hread.succ fun fuel => ?_
    rw [unary, eat?_of_next_ne (by simp [hnext, hbang]), eat?_of_next_ne (by simp [hnext, hminus])]
    rfl
  | succ n ih =>
    rw [Function.iterate_succ_apply'] at hover hrest
    rw [tokens_member] at hover
    obtain ⟨c₁, hfirst, hmember⟩ := hover.split
    have hfollows : c₁.Stops .primary := hmember.stops fun s hs => by
      obtain rfl := Option.some.inj hs
      decide
    have hfree : n + 1 ≤ c₁.advance.room := by
      refine Nat.le_trans hn (Nat.le_trans hroom (Nat.le_of_eq ?_))
      exact hfirst.room_eq.symm
    refine ih (Nat.le_of_succ_le hn) hfirst hfollows (hrest.succ fun fuel => ?_)
    obtain ⟨place, rest, hname⟩ := tokens_of_next hmember.advance.next?_eq
    obtain rfl := hmember.advance.advance.eq_of_nil
    rw [suffixes, eat?_of_next hmember.deeper.next?_eq]
    dsimp only
    rw [advance_deeper, enter_of_room (room_deeper_of_le hfree)]
    dsimp only [bind, Except.bind]
    rw [tokens_deeper, tokens_deeper, hname, deeper_deeper]
    rfl

theorem fits_members (h : Fits .primary r w) (hsign : w.Unsigned) (hn : n ≤ r) :
    Fits .unary r (member^[n] w) := by
  intro c c' hroom hover hstops
  refine succeeds_members h hsign hn hroom hover (hstops.mono (by decide)) ?_
  refine Succeeds.succ (.of_forall fun _ => rfl) fun fuel => ?_
  have hdot : (c'.deeper n).next? ≠ some (.punct .dot) := fun hnext =>
    absurd (hstops _ 8 hnext rfl) (by decide)
  have hbracket : (c'.deeper n).next? ≠ some (.punct .openBracket) := fun hnext =>
    absurd (hstops _ 8 hnext rfl) (by decide)
  rw [suffixes, eat?_of_next_ne hdot, eat?_of_next_ne hbracket, leave_deeper]

/-- Operators of one level are read one after another, each one level deeper than the one before. -/
theorem succeeds_operands (hl : l < levels) (hletter : Fits (.level (l + 1)) 0 letter)
    (h : Fits (.level (l + 1)) r w) (hn : n ≤ r) (hroom : r ≤ c.room)
    (hover : c.Over ((operand l)^[n] w).tokens c') (hstops : c'.Stops (.level (l + 1)))
    (hrest : Succeeds (fun fuel => chain fuel l n ((operand l)^[n] w).expr (c'.deeper n)) x) :
    Succeeds (binary · l c) x := by
  have hop := operator?_operator hl
  induction n generalizing c' with
  | zero =>
    have hread := Succeeds.bind (g := fun fuel y => chain fuel l 0 y.1 y.2)
      (h c c' hroom hover hstops) hrest
    refine hread.succ fun fuel => ?_
    rw [binary, if_neg (Nat.ne_of_lt hl)]
    rfl
  | succ n ih =>
    rw [Function.iterate_succ_apply'] at hover hrest
    rw [tokens_operand] at hover
    obtain ⟨c₁, hfirst, hoperand⟩ := hover.split
    have hfollows : c₁.Stops (.level (l + 1)) := hoperand.stops_operator hop
    have hfree : n + 1 ≤ c₁.advance.room := by
      refine Nat.le_trans hn (Nat.le_trans hroom (Nat.le_of_eq ?_))
      exact hfirst.room_eq.symm
    refine ih (Nat.le_of_succ_le hn) hfirst hfollows ?_
    have hright := hletter (c₁.advance.deeper (n + 1)) (c'.deeper (n + 1)) (Nat.zero_le _)
      hoperand.advance.deeper hstops
    have hread := Succeeds.bind
      (g := fun fuel (y : Expr × Cursor) => chain fuel l (n + 1)
        (.binary (operator l).2 ((operand l)^[n] w).expr y.1) y.2) hright hrest
    refine hread.succ fun fuel => ?_
    have hnext : operator? l (c₁.deeper n) = some ((operator l).2, c₁.advance.deeper n) :=
      operator?_eq_some.2 ⟨_, hoperand.next?_eq, hop, rfl⟩
    rw [chain, hnext]
    dsimp only
    rw [enter_of_room (room_deeper_of_le hfree), deeper_deeper]
    rfl

theorem fits_operands (hl : l < levels) (hletter : Fits (.level (l + 1)) 0 letter)
    (h : Fits (.level (l + 1)) r w) (hn : n ≤ r) : Fits (.level l) r ((operand l)^[n] w) := by
  intro c c' hroom hover hstops
  refine succeeds_operands hl hletter h hn hroom hover (hstops.mono (Nat.le_succ _)) ?_
  refine Succeeds.succ (.of_forall fun _ => rfl) fun fuel => ?_
  rw [chain, operator?_of_stops (show (c'.deeper n).Stops (.level l) from hstops), leave_deeper]

theorem fits_levels (h : Fits .unary r w) : Fits (.level levels) r w := by
  intro c c' hroom hover hstops
  refine (h c c' hroom hover hstops).succ fun fuel => ?_
  rw [routine, binary, if_pos rfl]
  rfl

theorem fits_letter (hl : l ≤ levels) : Fits (.level l) 0 letter := by
  induction hl using Nat.decreasingInduction with
  | self =>
    refine fits_levels (fits_members (n := 0) fits_letter_primary ?_ (Nat.le_refl _))
    exact ⟨_, _, rfl, nofun, nofun⟩
  | of_succ l hl ih => exact fits_operands (n := 0) hl ih ih (Nat.le_refl _)

theorem fits_stacked {k : Nat} (hk : k ≤ levels) (h : Fits .primary r w) (hsign : w.Unsigned) :
    Fits (.level (levels - k)) r (stacked r w k) := by
  induction k with
  | zero => exact fits_levels (fits_members h hsign (Nat.le_refl _))
  | succ k ih =>
    have hl : levels - (k + 1) < levels := by omega
    have hnext : levels - (k + 1) + 1 = levels - k := by omega
    refine fits_operands hl (fits_letter hl) ?_ (Nat.le_refl _)
    rw [hnext]
    exact ih (Nat.le_of_succ_le hk)

/-- Where no question follows, a conditional is read as what it starts with. -/
theorem fits_ternary (h : Fits (.level 0) r w) : Fits .ternary (r + 1) w := by
  intro c c' hroom hover hstops
  have hfree : r ≤ (c.deeper 1).room := room_deeper_of_le (by omega)
  have hquestion : (c'.deeper 1).next? ≠ some (.punct .question) := fun hnext =>
    absurd (hstops _ 0 hnext rfl) (Nat.lt_irrefl _)
  obtain ⟨least, hok⟩ := h _ _ hfree hover.deeper (hstops.mono (Nat.zero_le _))
  refine ⟨least + 1, fun fuel hfuel => ?_⟩
  obtain ⟨fuel, rfl⟩ := Nat.exists_eq_add_of_le' (Nat.le_of_add_left_le hfuel)
  have hread : binary fuel 0 (c.deeper 1) = .ok (w.expr, c'.deeper 1) := hok fuel (by omega)
  simp only [routine, ternary]
  rw [enter_of_room (by omega)]
  dsimp only [bind, Except.bind]
  rw [hread]
  dsimp only
  rw [eat?_of_next_ne hquestion]
  dsimp only
  rw [leave_deeper]
  rfl

theorem fits_question (h : Fits (.level 0) r w) (hr : 0 < r) :
    Fits .ternary (r + 1) w.question := by
  intro c c' hroom hover hstops
  rw [tokens_question] at hover
  obtain ⟨c₂, hasked, hcolon⟩ := hover.split
  obtain ⟨c₁, hcondition, hquestion⟩ := hasked.split
  have hletter : Fits .ternary 1 letter := fits_ternary (fits_letter (Nat.zero_le _))
  have hfirst : c₁.Stops (.level 0) := hquestion.stops_question
  have hsecond : c₂.Stops .ternary := hcolon.stops fun s hs => by cases hs
  have hfree : r ≤ (c.deeper 1).room := room_deeper_of_le (by omega)
  have hroom₁ : c₁.advance.room = c.room := hcondition.room_eq
  have hroom₂ : c₂.advance.room = c.room := hasked.room_eq
  have hfree₁ : 1 ≤ (c₁.advance.deeper 1).room := room_deeper_of_le (by omega)
  have hfree₂ : 1 ≤ (c₂.advance.deeper 1).room := room_deeper_of_le (by omega)
  obtain ⟨least, hok⟩ := h _ _ hfree hcondition.deeper hfirst
  obtain ⟨least₁, hok₁⟩ := hletter _ _ hfree₁ hquestion.advance.deeper hsecond
  obtain ⟨least₂, hok₂⟩ := hletter _ _ hfree₂ hcolon.advance.deeper hstops
  refine ⟨max least (max least₁ least₂) + 1, fun fuel hfuel => ?_⟩
  obtain ⟨fuel, rfl⟩ := Nat.exists_eq_add_of_le' (Nat.le_of_add_left_le hfuel)
  have hread : binary fuel 0 (c.deeper 1) = .ok (w.expr, c₁.deeper 1) := hok fuel (by omega)
  have hread₁ : ternary fuel (c₁.advance.deeper 1) = .ok (letter.expr, c₂.deeper 1) :=
    hok₁ fuel (by omega)
  have hread₂ : ternary fuel (c₂.advance.deeper 1) = .ok (letter.expr, c'.deeper 1) :=
    hok₂ fuel (by omega)
  simp only [routine, ternary]
  rw [enter_of_room (by omega)]
  dsimp only [bind, Except.bind]
  rw [hread]
  dsimp only
  rw [eat?_of_next hquestion.deeper.next?_eq, advance_deeper]
  dsimp only
  rw [hread₁]
  dsimp only
  rw [expect, eat?_of_next hcolon.deeper.next?_eq, advance_deeper]
  dsimp only
  rw [hread₂]
  dsimp only
  rw [leave_deeper]
  rfl

theorem fits_parens (h : Fits .ternary r w) : Fits .primary r w.parens := by
  intro c c' hroom hover _
  rw [tokens_parens] at hover
  obtain ⟨c₁, hopened, hclose⟩ := hover.split
  obtain ⟨place, rest, htokens⟩ := tokens_of_next hopened.next?_eq
  have hstops : c₁.Stops .ternary := hclose.stops fun s hs => by cases hs
  obtain rfl := hclose.advance.eq_of_nil
  obtain ⟨least, hok⟩ := h c.advance c₁ hroom hopened.advance hstops
  refine ⟨least + 1, fun fuel hfuel => ?_⟩
  obtain ⟨fuel, rfl⟩ := Nat.exists_eq_add_of_le' (Nat.le_of_add_left_le hfuel)
  have hread : ternary fuel c.advance = .ok (w.expr, c₁) := hok fuel (by omega)
  simp only [routine, primary, htokens]
  rw [hread]
  dsimp only [bind, Except.bind]
  rw [expect, eat?_of_next hclose.next?_eq]
  rfl

theorem fits_call : Fits .primary 1 call := by
  intro c c' hroom hover _
  have hover : c.Over [.ident "a", .punct .openParen, .punct .closeParen] c' := hover
  obtain ⟨place, rest, htokens⟩ := tokens_of_next hover.next?_eq
  have hclose := hover.advance.advance
  obtain rfl := hclose.advance.eq_of_nil
  refine Succeeds.succ (.of_forall fun _ => rfl) fun fuel => ?_
  rw [routine, primary_of_ident htokens, show constant? "a" = none by decide]
  dsimp only
  rw [named, eat?_of_next hover.advance.next?_eq]
  dsimp only
  rw [enter_of_room (show 0 < c.advance.advance.room from hroom)]
  dsimp only [bind, Except.bind]
  rw [eat?_of_next hclose.deeper.next?_eq]
  dsimp only
  rw [advance_deeper, leave_deeper]
  rfl

theorem fits_storey : Fits .ternary (r + 2) (storey r) := by
  induction r with
  | zero =>
    refine fits_question (fits_stacked (k := levels) (Nat.le_refl _) fits_call ?_) Nat.one_pos
    exact ⟨_, _, rfl, nofun, nofun⟩
  | succ r ih =>
    refine fits_question (fits_stacked (k := levels) (Nat.le_refl _) (fits_parens ih) ?_)
      (Nat.succ_pos _)
    exact ⟨_, _, tokens_parens, nofun, nofun⟩

theorem height_members : (member^[n] w).expr.height = n + w.expr.height := by
  induction n with
  | zero => simp
  | succ n ih =>
    rw [Function.iterate_succ_apply', member, Expr.height, ih]
    omega

theorem height_operands : ((operand l)^[n] w).expr.height = n + w.expr.height := by
  induction n with
  | zero => simp
  | succ n ih =>
    rw [Function.iterate_succ_apply', operand, Expr.height, ih]
    simp only [letter, Expr.height]
    omega

theorem height_stacked {k : Nat} : (stacked r w k).expr.height = (k + 1) * r + w.expr.height := by
  induction k with
  | zero => rw [stacked, height_members, Nat.zero_add, Nat.one_mul]
  | succ k ih =>
    rw [stacked, height_operands, ih, Nat.succ_mul (k + 1)]
    omega

theorem height_question : w.question.expr.height = 1 + w.expr.height := by
  simp [question, Expr.height, letter]

/-- A storey is as tall as an expression may be. -/
theorem height_storey : (storey r).expr.height = tallest (r + 2) := by
  induction r with
  | zero => rfl
  | succ r ih =>
    have hparens : (storey r).parens.expr = (storey r).expr := rfl
    rw [storey, height_question, height_stacked, hparens, ih]
    conv_rhs => rw [tallest]

/-- Tokens that are written one after another with a blank after each. -/
def Written.writing (w : Written) : Writing where
  before := []
  parts := w.lexemes.map (·, [' '])
  blank := by
    intro c hc
    simp only [List.nil_append, List.mem_flatMap, List.mem_map] at hc
    obtain ⟨_, ⟨l, -, rfl⟩, hc⟩ := hc
    obtain rfl := List.mem_singleton.1 hc
    decide
  apart := by
    intro part hpart
    obtain ⟨l, -, rfl⟩ := List.mem_map.1 ((List.dropLast_sublist _).subset hpart)
    exact List.cons_ne_nil _ _

def Written.source (w : Written) : String := String.ofList w.writing.chars

theorem parseWithin_storey {finish : Nat} {tokens : List (Nat × Token)}
    (h : tokens.map Prod.snd = (storey r).tokens) :
    parseWithin (r + 2) finish tokens = .ok (storey r).expr := by
  have hover : Over ⟨tokens, 0, r + 2, finish⟩ (storey r).tokens ⟨[], 0, r + 2, finish⟩ :=
    ⟨⟨tokens, by simp, h⟩, rfl, rfl, rfl⟩
  obtain ⟨least, hok⟩ := fits_storey _ _ (Nat.le_refl _) hover nofun
  have hread := hok _ (Nat.le_max_left _ (fuelFor tokens))
  have hsteady := @ternary_steady _ ⟨tokens, 0, r + 2, finish⟩ (Nat.le_max_right least _)
  rw [parseWithin, whole, ← hsteady]
  simp only [routine] at hread
  rw [hread]
  rfl

theorem tokenize_source : ∃ ts, tokenize w.source.toList = .ok ts ∧ ts.map Prod.snd = w.tokens := by
  refine ⟨w.writing.tokens, ?_, ?_⟩
  · rw [source, String.toList_ofList, tokenize_chars]
  · rw [map_snd_tokens]
    simp [Writing.lexemes, writing, Written.tokens, Function.comp_def]

theorem parse_storey (h : r + 2 = maxDepth) :
    Expr.parse (storey r).source = .ok (storey r).expr := by
  obtain ⟨ts, htokenize, hsnd⟩ := @tokenize_source (storey r)
  have hparse := @parseWithin_storey r (storey r).source.utf8ByteSize ts hsnd
  rw [h] at hparse
  rw [Expr.parse, htokenize]
  exact hparse

end PageLayers.Parser

namespace PageLayers.Expr

/-- Some text is read as an expression with as many nodes on a way to a leaf as there ever are. -/
theorem exists_tallest : ∃ source e, parse source = .ok e ∧ e.height = 14176 := by
  have htallest : Parser.tallest maxDepth = 14176 := by decide +kernel
  obtain ⟨r, hr⟩ : ∃ r, r + 2 = maxDepth := ⟨62, rfl⟩
  refine ⟨_, _, Parser.parse_storey hr, ?_⟩
  rw [Parser.height_storey, hr, htallest]

end PageLayers.Expr
