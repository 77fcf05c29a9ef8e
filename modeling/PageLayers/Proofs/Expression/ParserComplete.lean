import Mathlib.Data.Nat.Init
import PageLayers.Proofs.Expression.ParserFuel
import PageLayers.Proofs.Outcome

/-! What the grammar derives the parser accepts, unless it is nested too deeply. The parser looks
one token ahead, so all turns on which token can follow a phrase without going on with it. -/

namespace PageLayers

/-- How strongly a token binds to what stands before it, if it can go on with it at all. -/
def Punct.strength : Punct → Option Nat
  | .question => some 0
  | .dot => some 8
  | .openBracket => some 8
  | .openParen => some 9
  | p => p.operator?.map fun o => o.1 + 1

/-- A phrase goes on with all that binds as strongly as it does or more. -/
def Phrase.rank : Phrase → Nat
  | ternary => 0
  | level l => l + 1
  | unary => 7
  | member => 8
  | primary => 9

theorem strength_of_operator {p : Punct} {l : Nat} {op : BinaryOp}
    (h : p.operator? = some (l, op)) : p.strength = some (l + 1) := by
  cases p <;> simp_all [Punct.strength, Punct.operator?]

theorem Derives.head_append {k : Phrase} {ts us : List Token} {e : Expr} {t : Token}
    (h : Derives k ts e) (ht : (ts ++ us).head? = some t) : ts.head? = some t := by
  obtain ⟨first, rest, rfl⟩ := List.exists_cons_of_length_pos h.length_pos
  exact ht

/-- Of punctuation only a parenthesis starts a phrase, and signs start those that may have them. -/
theorem Derives.head {k : Phrase} {ts : List Token} {e : Expr} {p : Punct} (h : Derives k ts e)
    (hp : ts.head? = some (.punct p)) :
    p = .openParen ∨ (p = .bang ∨ p = .minus) ∧ k.rank ≤ Phrase.unary.rank := by
  induction h with
  | ofLevel _ ih => exact (ih hp).imp_right fun h => ⟨h.1, Nat.zero_le _⟩
  | ternary hcondition _ _ ih =>
    rw [List.append_assoc] at hp
    exact (ih (hcondition.head_append hp)).imp_right fun h => ⟨h.1, Nat.zero_le _⟩
  | tighter hl _ ih => exact (ih hp).imp_right fun h => ⟨h.1, Nat.le_succ_of_le hl⟩
  | binary hop hleft _ ih =>
    exact (ih (hleft.head_append hp)).imp_right fun h => ⟨h.1, Nat.le_succ_of_le (level_lt hop)⟩
  | ofUnary _ ih => exact ih hp
  | not =>
    obtain rfl : Punct.bang = p := by simpa using hp
    exact .inr ⟨.inl rfl, Nat.le_refl _⟩
  | neg =>
    obtain rfl : Punct.minus = p := by simpa using hp
    exact .inr ⟨.inr rfl, Nat.le_refl _⟩
  | ofMember _ ih => exact (ih hp).imp_right fun h => ⟨h.1, Nat.le_refl _⟩
  | field h ih => exact ih (h.head_append hp)
  | index h _ ih => exact ih (h.head_append hp)
  | ofPrimary _ ih => exact (ih hp).imp_right fun h => ⟨h.1, Nat.le_of_succ_le h.2⟩
  | parens =>
    obtain rfl : Punct.openParen = p := by simpa using hp
    exact .inl rfl
  | number | str | constant | var | call => simp at hp

namespace Parser

variable {α β : Type} {fuel l n : Nat} {c c' c'' : Cursor} {p : Punct} {e : Expr} {k k' : Phrase}
  {ts us : List Token}

namespace Cursor

/-- The next token does not go on with a phrase of that kind. -/
def Stops (c : Cursor) (k : Phrase) : Prop :=
  ∀ p s, c.next? = some (.punct p) → p.strength = some s → s < k.rank

theorem Stops.mono (h : c.Stops k) (hk : k.rank ≤ k'.rank) : c.Stops k' :=
  fun p s hp hs => Nat.lt_of_lt_of_le (h p s hp hs) hk

theorem Over.stops (h : c.Over (.punct p :: ts) c') (hp : ∀ s, p.strength = some s → s < k.rank) :
    c.Stops k := by
  intro q s hq hs
  obtain rfl : p = q := by simpa [h.next?_eq] using hq
  exact hp s hs

theorem Over.stops_operator {op : BinaryOp} (h : c.Over (.punct p :: ts) c')
    (hp : p.operator? = some (l, op)) : c.Stops (.level (l + 1)) := by
  refine h.stops fun s hs => ?_
  rw [strength_of_operator hp] at hs
  obtain rfl := Option.some.inj hs
  exact Nat.lt_succ_self _

theorem Over.stops_question (h : c.Over (.punct .question :: ts) c') : c.Stops (.level 0) :=
  h.stops fun s hs => by
    obtain rfl := Option.some.inj hs
    exact Nat.one_pos

theorem Over.split (h : c.Over (ts ++ us) c'') : ∃ c', c.Over ts c' ∧ c'.Over us c'' := by
  obtain ⟨⟨passed, htokens, hpassed⟩, hdepth, hlimit, hfinish⟩ := h
  obtain ⟨first, second, rfl, rfl, rfl⟩ := List.map_eq_append_iff.1 hpassed
  refine ⟨{ c with tokens := second ++ c''.tokens }, ⟨⟨first, ?_, rfl⟩, rfl, rfl, rfl⟩,
    ⟨⟨second, rfl, rfl⟩, hdepth, hlimit, hfinish⟩⟩
  rw [htokens, List.append_assoc]

theorem Over.eq_of_nil (h : c.Over [] c') : c = c' := by
  obtain ⟨⟨passed, htokens, hpassed⟩, hdepth, hlimit, hfinish⟩ := h
  obtain rfl := List.map_eq_nil_iff.1 hpassed
  obtain ⟨tokens, depth, limit, finish⟩ := c
  obtain ⟨tokens', depth', limit', finish'⟩ := c'
  cases htokens
  cases hdepth
  cases hlimit
  cases hfinish
  rfl

theorem tokens_of_next {t : Token} (h : c.next? = some t) :
    ∃ place rest, c.tokens = (place, t) :: rest := by
  obtain ⟨tokens, depth, limit, finish⟩ := c
  cases tokens with
  | nil => cases h
  | cons first rest =>
    obtain rfl : first.2 = t := Option.some.inj h
    exact ⟨first.1, rest, rfl⟩

theorem eat?_of_next (h : c.next? = some (.punct p)) : c.eat? p = some c.advance := by
  rw [eat?_eq, if_pos h]

theorem eat?_of_next_ne (h : c.next? ≠ some (.punct p)) : c.eat? p = none := by
  rw [eat?_eq, if_neg h]

theorem operator?_of_stops (h : c.Stops (.level l)) : operator? l c = none := by
  cases hop : operator? l c with
  | none => rfl
  | some x =>
    obtain ⟨p, hnext, hp, -⟩ := operator?_eq_some.1 hop
    exact absurd (h p _ hnext (strength_of_operator hp)) (Nat.lt_irrefl _)

end Cursor

open Cursor

/-- One result comes down to another, unless it stops for want of levels or of fuel. -/
def Leads (r r' : Except Stop α) : Prop :=
  r = r' ∨ ∃ stop, r = .error stop ∧ stop.error = .tooDeep

namespace Leads

variable {r r' r'' : Except Stop α}

theorem refl : Leads r r := .inl rfl

theorem spent : Leads (.error .spent) r := .inr ⟨_, rfl, rfl⟩

theorem trans (h : Leads r r') (h' : Leads r' r'') : Leads r r'' := by
  rcases h with rfl | h
  · exact h'
  · exact .inr h

theorem bind {a : α} {f : α → Except Stop β} {s : Except Stop β} (h : Leads r (.ok a))
    (hf : Leads (f a) s) : Leads (r >>= f) s := by
  rcases h with rfl | ⟨stop, rfl, hstop⟩
  · exact hf
  · exact .inr ⟨stop, rfl, hstop⟩

theorem eq_ok {a : α} (h : Leads r r') (hok : r = .ok a) : r' = .ok a := by
  rcases h with rfl | ⟨stop, rfl, -⟩
  · exact hok
  · cases hok

/-- What does not stop goes on with what its first step comes down to. -/
theorem bind_eq_ok {a : α} {b : β} {f : α → Except Stop β} (h : Leads r (.ok a))
    (hok : r >>= f = .ok b) : r = .ok a ∧ f a = .ok b := by
  rcases h with rfl | ⟨stop, rfl, -⟩
  · exact ⟨rfl, hok⟩
  · cases hok

end Leads

theorem enter_leads : Leads c.enter (.ok (c.deeper 1)) := by
  rw [enter_eq]
  split
  · exact .inr ⟨_, rfl, rfl⟩
  · exact .refl

theorem expect_leads (h : c.next? = some (.punct p)) : Leads (c.expect p) (.ok c.advance) := by
  unfold expect
  rw [eat?_of_next h]
  exact .refl

/-- The parser reads the tokens of a phrase, with any fuel. Levels and members are read up to a
place where they may go on, for the operators and the members that follow. -/
def Complete : Phrase → List Token → Expr → Prop
  | .ternary, ts, e => ∀ fuel c c', c.Over ts c' → c'.Stops .ternary →
      Leads (ternary fuel c) (.ok (e, c'))
  | .level l, ts, e => ∀ fuel c c', c.Over ts c' →
      (c'.Stops (.level l) → Leads (binary fuel l c) (.ok (e, c'))) ∧
      (l < levels → c'.Stops (.level (l + 1)) →
        ∃ fuel' n, Leads (binary fuel l c) (chain fuel' l n e (c'.deeper n)))
  | .unary, ts, e => ∀ fuel c c', c.Over ts c' → c'.Stops .unary →
      Leads (unary fuel c) (.ok (e, c'))
  | .member, ts, e => ∀ fuel c c', c.Over ts c' → c'.Stops .primary →
      ∃ fuel' n, Leads (do let (e, c) ← primary fuel c; suffixes fuel 0 e c)
        (suffixes fuel' n e (c'.deeper n))
  | .primary, ts, e => ∀ fuel c c', c.Over ts c' → c'.Stops .primary →
      Leads (primary fuel c) (.ok (e, c'))

theorem chain_of_stops {fuel' : Nat} (h : c.Stops (.level l)) :
    Leads (chain fuel' l n e (c.deeper n)) (.ok (e, c)) := by
  cases fuel' with
  | zero => exact .spent
  | succ fuel' =>
    unfold chain
    rw [operator?_of_stops (show (c.deeper n).Stops (.level l) from h), leave_deeper]
    exact .refl

/-- Where operators of the level may follow and none does, the level is read to its end. -/
theorem complete_level
    (h : ∀ fuel c c', c.Over ts c' → c'.Stops (.level (l + 1)) →
      ∃ fuel' n, Leads (binary fuel l c) (chain fuel' l n e (c'.deeper n))) :
    Complete (.level l) ts e := by
  intro fuel c c' hover
  refine ⟨fun hstops => ?_, fun _ hstops => h fuel c c' hover hstops⟩
  obtain ⟨fuel', n, hleads⟩ := h fuel c c' hover (hstops.mono (Nat.le_succ _))
  exact hleads.trans (chain_of_stops hstops)

theorem complete_tighter (hl : l < levels) (h : Complete (.level (l + 1)) ts e) :
    Complete (.level l) ts e := by
  refine complete_level fun fuel c c' hover hstops => ?_
  cases fuel with
  | zero => exact ⟨0, 0, .spent⟩
  | succ fuel =>
    refine ⟨fuel, 0, ?_⟩
    unfold binary
    rw [if_neg (Nat.ne_of_lt hl)]
    exact .bind ((h fuel c c' hover).1 hstops) .refl

theorem complete_binary {op : BinaryOp} {left right : Expr} {ls rs : List Token}
    (hp : p.operator? = some (l, op)) (hleft : Complete (.level l) ls left)
    (hright : Complete (.level (l + 1)) rs right) :
    Complete (.level l) (ls ++ .punct p :: rs) (.binary op left right) := by
  have hl := level_lt hp
  refine complete_level fun fuel c c' hover hstops => ?_
  obtain ⟨c₁, hls, hrest⟩ := hover.split
  -- the left operand is itself the start of the chain that takes up this operator
  obtain ⟨fuel', n, hleads⟩ := (hleft fuel c c₁ hls).2 hl (hrest.stops_operator hp)
  cases fuel' with
  | zero => exact ⟨0, 0, hleads.trans .spent⟩
  | succ fuel' =>
    refine ⟨fuel', n + 1, hleads.trans ?_⟩
    have hop : operator? l (c₁.deeper n) = some (op, c₁.advance.deeper n) :=
      operator?_eq_some.2 ⟨p, hrest.next?_eq, hp, rfl⟩
    rw [chain, hop]
    refine .bind enter_leads ?_
    rw [deeper_deeper]
    exact .bind ((hright fuel' _ _ hrest.advance.deeper).1 hstops) .refl

theorem complete_ofUnary (h : Complete .unary ts e) : Complete (.level levels) ts e := by
  intro fuel c c' hover
  refine ⟨fun hstops => ?_, fun hl => absurd hl (Nat.lt_irrefl _)⟩
  cases fuel with
  | zero => exact .spent
  | succ fuel =>
    unfold binary
    rw [if_pos rfl]
    exact h fuel c c' hover hstops

theorem complete_ternary {cs ys ns : List Token} {condition yes no : Expr}
    (hcondition : Complete (.level 0) cs condition) (hyes : Complete .ternary ys yes)
    (hno : Complete .ternary ns no) :
    Complete .ternary (cs ++ .punct .question :: ys ++ .punct .colon :: ns)
      (.ternary condition yes no) := by
  intro fuel c c' hover hstops
  cases fuel with
  | zero => exact .spent
  | succ fuel =>
    obtain ⟨c₂, hasked, hcolon⟩ := hover.split
    obtain ⟨c₁, hcs, hquestion⟩ := hasked.split
    have hfirst : c₁.Stops (.level 0) := hquestion.stops_question
    have hsecond : c₂.Stops .ternary := hcolon.stops fun s hs => by cases hs
    unfold ternary
    refine .bind enter_leads ?_
    refine .bind ((hcondition fuel _ _ hcs.deeper).1 hfirst) ?_
    dsimp only
    rw [eat?_of_next hquestion.deeper.next?_eq]
    refine .bind (hyes fuel _ _ hquestion.advance.deeper hsecond) ?_
    dsimp only
    refine .bind (expect_leads hcolon.deeper.next?_eq) ?_
    refine .bind (hno fuel _ _ hcolon.advance.deeper hstops) ?_
    dsimp only
    rw [leave_deeper]
    exact .refl

theorem complete_ofLevel (h : Complete (.level 0) ts e) : Complete .ternary ts e := by
  intro fuel c c' hover hstops
  cases fuel with
  | zero => exact .spent
  | succ fuel =>
    have hlevel : c'.Stops (.level 0) := hstops.mono (Nat.zero_le _)
    have hquestion : (c'.deeper 1).next? ≠ some (.punct .question) := by
      intro hnext
      exact absurd (hstops _ 0 hnext rfl) (Nat.lt_irrefl _)
    unfold ternary
    refine .bind enter_leads ?_
    refine .bind ((h fuel _ _ hover.deeper).1 hlevel) ?_
    dsimp only
    rw [eat?_of_next_ne hquestion]
    dsimp only
    rw [leave_deeper]
    exact .refl

theorem complete_sign {op : UnaryOp} (hp : p = .bang ∧ op = .not ∨ p = .minus ∧ op = .neg)
    (h : Complete .unary ts e) : Complete .unary (.punct p :: ts) (.unary op e) := by
  intro fuel c c' hover hstops
  cases fuel with
  | zero => exact .spent
  | succ fuel =>
    have hnext := hover.next?_eq
    have hread : Leads (do
        let c ← c.advance.enter
        let (e, c) ← unary fuel c
        return (Expr.unary op e, c.leave 1)) (.ok (Expr.unary op e, c')) := by
      refine .bind enter_leads ?_
      refine .bind (h fuel _ _ hover.advance.deeper hstops) ?_
      dsimp only
      rw [leave_deeper]
      exact .refl
    unfold unary
    rcases hp with ⟨rfl, rfl⟩ | ⟨rfl, rfl⟩
    · rw [eat?_of_next hnext]
      exact hread
    · rw [eat?_of_next_ne (by simp [hnext]), eat?_of_next hnext]
      exact hread

theorem suffixes_of_stops {fuel' : Nat} (h : c.Stops .member) :
    Leads (suffixes fuel' n e (c.deeper n)) (.ok (e, c)) := by
  have hdot : (c.deeper n).next? ≠ some (.punct .dot) := fun hnext =>
    absurd (h _ 8 hnext rfl) (Nat.lt_irrefl _)
  have hbracket : (c.deeper n).next? ≠ some (.punct .openBracket) := fun hnext =>
    absurd (h _ 8 hnext rfl) (Nat.lt_irrefl _)
  cases fuel' with
  | zero => exact .spent
  | succ fuel' =>
    unfold suffixes
    rw [eat?_of_next_ne hdot, eat?_of_next_ne hbracket, leave_deeper]
    exact .refl

/-- The parser looks for signs before it looks for a member, which starts with none. -/
theorem unary_of_member (hderives : Derives .member ts e) (hover : c.Over ts c') :
    unary (fuel + 1) c = (do let (e, c) ← primary fuel c; suffixes fuel 0 e c) := by
  have hsign : ∀ p, p = .bang ∨ p = .minus → c.next? ≠ some (.punct p) := by
    intro p hp hnext
    rw [next?, hover.ahead_eq] at hnext
    rcases hderives.head (hderives.head_append hnext) with rfl | ⟨-, hrank⟩
    · rcases hp with hp | hp <;> cases hp
    · exact absurd hrank (by decide)
  rw [unary, eat?_of_next_ne (hsign _ (.inl rfl)), eat?_of_next_ne (hsign _ (.inr rfl))]

theorem complete_ofMember (hderives : Derives .member ts e) (h : Complete .member ts e) :
    Complete .unary ts e := by
  intro fuel c c' hover hstops
  cases fuel with
  | zero => exact .spent
  | succ fuel =>
    obtain ⟨fuel', n, hleads⟩ := h fuel c c' hover (hstops.mono (by decide))
    rw [unary_of_member hderives hover]
    exact hleads.trans (suffixes_of_stops (hstops.mono (by decide)))

/-- The tokens of a member or a position, which is read from what stands before them. -/
structure Appends (us : List Token) (segment : Segment) : Prop where
  mark : us.head? = some (.punct .dot) ∨ us.head? = some (.punct .openBracket)
  leads : ∀ {fuel n e} {c c' : Cursor}, c.Over us c' →
    Leads (suffixes (fuel + 1) n e (c.deeper n))
      (suffixes fuel (n + 1) (.get e segment) (c'.deeper (n + 1)))

theorem appends_field {name : String} : Appends [.punct .dot, .ident name] (.field name) where
  mark := .inl rfl
  leads {fuel n e c c'} hover := by
    obtain ⟨place, rest, hname⟩ := tokens_of_next hover.advance.next?_eq
    obtain rfl := hover.advance.advance.eq_of_nil
    rw [suffixes, eat?_of_next hover.deeper.next?_eq]
    refine .bind enter_leads ?_
    simp only [advance_deeper, deeper_deeper, tokens_deeper, hname]
    exact .refl

theorem appends_index {x : Float} {i : Nat} (hx : indexOf? x = some i) :
    Appends [.punct .openBracket, .number x, .punct .closeBracket] (.index i) where
  mark := .inr rfl
  leads {fuel n e c c'} hover := by
    have hnext : (c.deeper n).next? = some (.punct .openBracket) := hover.next?_eq
    have hnumber := hover.advance
    have hclose := hnumber.advance
    obtain ⟨place, rest, htokens⟩ := tokens_of_next hnumber.next?_eq
    obtain rfl := hclose.advance.eq_of_nil
    rw [suffixes, eat?_of_next_ne (by simp [hnext]), eat?_of_next hnext]
    refine .bind enter_leads ?_
    simp only [advance_deeper, deeper_deeper, tokens_deeper, htokens, hx]
    refine .bind (expect_leads ?_) .refl
    exact hclose.next?_eq

theorem Appends.next? {segment : Segment} (h : Appends us segment) (hover : c.Over us c') :
    c.next? = some (.punct .dot) ∨ c.next? = some (.punct .openBracket) := by
  rw [Cursor.next?, hover.ahead_eq, List.head?_append]
  rcases h.mark with hmark | hmark
  · exact .inl (by rw [hmark]; rfl)
  · exact .inr (by rw [hmark]; rfl)

theorem Appends.stops {segment : Segment} (h : Appends us segment) (hover : c.Over us c') :
    c.Stops .primary := by
  intro p s hp hs
  rcases h.next? hover with hnext | hnext <;>
  · obtain rfl := Token.punct.inj (Option.some.inj (hp.symm.trans hnext))
    obtain rfl := Option.some.inj hs
    decide

theorem complete_segment {segment : Segment} (hsegment : Appends us segment)
    (h : Complete .member ts e) : Complete .member (ts ++ us) (.get e segment) := by
  intro fuel c c' hover _
  obtain ⟨c₁, hts, hus⟩ := hover.split
  obtain ⟨fuel', n, hleads⟩ := h fuel c c₁ hts (hsegment.stops hus)
  cases fuel' with
  | zero => exact ⟨0, 0, hleads.trans .spent⟩
  | succ fuel' => exact ⟨fuel', n + 1, hleads.trans (hsegment.leads hus)⟩

theorem complete_ofPrimary (h : Complete .primary ts e) : Complete .member ts e := by
  intro fuel c c' hover hstops
  exact ⟨fuel, 0, .bind (h fuel c c' hover hstops) .refl⟩

/-- A token that is an expression by itself. -/
theorem complete_token {t : Token}
    (h : ∀ fuel (c : Cursor), c.next? = some t → c.advance.Stops .primary →
      primary (fuel + 1) c = .ok (e, c.advance)) :
    Complete .primary [t] e := by
  intro fuel c c' hover hstops
  cases fuel with
  | zero => exact .spent
  | succ fuel =>
    obtain rfl := hover.advance.eq_of_nil
    exact .inl (h fuel c hover.next?_eq hstops)

theorem complete_number {x : Float} {j : Json} (hx : Json.ofFloat? x = some j) :
    Complete .primary [.number x] (.literal j) :=
  complete_token fun fuel c hnext _ => by
    obtain ⟨place, rest, htokens⟩ := tokens_of_next hnext
    simp only [primary, htokens, hx]

theorem complete_str {s : String} : Complete .primary [.str s] (.literal (.str s)) :=
  complete_token fun fuel c hnext _ => by
    obtain ⟨place, rest, htokens⟩ := tokens_of_next hnext
    simp only [primary, htokens]

theorem complete_constant {name : String} {j : Json} (hname : constant? name = some j) :
    Complete .primary [.ident name] (.literal j) :=
  complete_token fun fuel c hnext _ => by
    obtain ⟨place, rest, htokens⟩ := tokens_of_next hnext
    rw [primary_of_ident htokens, hname]

theorem complete_var {name : String} (hname : constant? name = none) :
    Complete .primary [.ident name] (.var name) :=
  complete_token fun fuel c hnext hstops => by
    obtain ⟨place, rest, htokens⟩ := tokens_of_next hnext
    have hopen : c.advance.next? ≠ some (.punct .openParen) := fun hopen =>
      absurd (hstops _ 9 hopen rfl) (Nat.lt_irrefl _)
    rw [primary_of_ident htokens, hname]
    dsimp only
    rw [named, eat?_of_next_ne hopen]

theorem complete_parens (h : Complete .ternary ts e) :
    Complete .primary (.punct .openParen :: ts ++ [.punct .closeParen]) e := by
  intro fuel c c' hover _
  cases fuel with
  | zero => exact .spent
  | succ fuel =>
    obtain ⟨c₁, hopened, hclose⟩ := hover.split
    obtain ⟨place, rest, htokens⟩ := tokens_of_next hopened.next?_eq
    have hstops : c₁.Stops .ternary := hclose.stops fun s hs => by cases hs
    obtain rfl := hclose.advance.eq_of_nil
    simp only [primary, htokens]
    refine .bind (h fuel _ _ hopened.advance hstops) ?_
    exact .bind (expect_leads hclose.next?_eq) .refl

theorem complete_arguments {args : List (List Token × Expr)} (hne : args ≠ [])
    (h : ∀ a ∈ args, Complete .ternary a.1 a.2) (hover : c.Over
      ([Token.punct .comma].intercalate (args.map Prod.fst) ++ [.punct .closeParen]) c') :
    Leads (arguments fuel c) (.ok (args.map Prod.snd, c')) := by
  induction args generalizing fuel c with
  | nil => exact absurd rfl hne
  | cons a rest ih =>
    cases fuel with
    | zero => exact .spent
    | succ fuel =>
      obtain ⟨ha, hrest⟩ := List.forall_mem_cons.1 h
      rw [arguments]
      cases rest with
      | nil =>
        obtain ⟨c₁, hfirst, hclose⟩ := hover.split
        have hfirst : c.Over a.1 c₁ := by simpa using hfirst
        have hstops : c₁.Stops .ternary := hclose.stops fun s hs => by cases hs
        obtain rfl := hclose.advance.eq_of_nil
        refine .bind (ha fuel _ _ hfirst hstops) ?_
        dsimp only
        rw [eat?_of_next hclose.next?_eq]
        exact .refl
      | cons b more =>
        rw [List.map_cons, intercalate_comma (by simp), List.append_assoc] at hover
        obtain ⟨c₁, hfirst, hcomma⟩ := hover.split
        have hnext := hcomma.next?_eq
        have hstops : c₁.Stops .ternary := hcomma.stops fun s hs => by cases hs
        refine .bind (ha fuel _ _ hfirst hstops) ?_
        dsimp only
        rw [eat?_of_next_ne (by simp [hnext])]
        refine .bind (expect_leads hnext) ?_
        refine .bind (ih (by simp) hrest hcomma.advance) ?_
        exact .refl

/-- No phrase starts with a closing parenthesis, so arguments are not taken for none. -/
theorem next?_arguments {args : List (List Token × Expr)} (hne : args ≠ [])
    (h : ∀ a ∈ args, Derives .ternary a.1 a.2) (hover : c.Over
      ([Token.punct .comma].intercalate (args.map Prod.fst) ++ [.punct .closeParen]) c') :
    c.next? ≠ some (.punct .closeParen) := by
  obtain ⟨a, rest, rfl⟩ := List.exists_cons_of_ne_nil hne
  have ha := h a List.mem_cons_self
  have hfirst : ∃ us, [Token.punct .comma].intercalate ((a :: rest).map Prod.fst) = a.1 ++ us := by
    cases rest with
    | nil => exact ⟨[], by simp⟩
    | cons => exact ⟨_, intercalate_comma (by simp)⟩
  obtain ⟨us, hus⟩ := hfirst
  intro hnext
  rw [next?, hover.ahead_eq, hus, List.append_assoc, List.append_assoc] at hnext
  rcases ha.head (ha.head_append hnext) with hclose | ⟨hclose | hclose, -⟩ <;> cases hclose

theorem complete_call {name : String} {args : List (List Token × Expr)}
    (hname : constant? name = none) (hderives : ∀ a ∈ args, Derives .ternary a.1 a.2)
    (h : ∀ a ∈ args, Complete .ternary a.1 a.2) :
    Complete .primary
      (.ident name :: .punct .openParen ::
        [Token.punct .comma].intercalate (args.map Prod.fst) ++ [.punct .closeParen])
      (.call name (args.map Prod.snd)) := by
  intro fuel c c' hover _
  cases fuel with
  | zero => exact .spent
  | succ fuel =>
    obtain ⟨place, rest, htokens⟩ := tokens_of_next hover.next?_eq
    have hopened := hover.advance
    have hinside := hopened.advance
    rw [primary_of_ident htokens, hname]
    dsimp only
    rw [named, eat?_of_next hopened.next?_eq]
    refine .bind enter_leads ?_
    dsimp only
    cases args with
    | nil =>
      have hclose : c.advance.advance.Over [.punct .closeParen] c' := hinside
      obtain rfl := hclose.advance.eq_of_nil
      rw [eat?_of_next hclose.deeper.next?_eq]
      dsimp only
      rw [advance_deeper, leave_deeper]
      exact .refl
    | cons a more =>
      have hclose := next?_arguments (by simp) hderives hinside
      rw [eat?_of_next_ne (show (c.advance.advance.deeper 1).next? ≠ _ from hclose)]
      refine .bind (complete_arguments (by simp) h hinside.deeper) ?_
      dsimp only
      rw [leave_deeper]
      exact .refl

theorem complete_of_derives {k : Phrase} (h : Derives k ts e) : Complete k ts e := by
  induction h with
  | ofLevel _ ih => exact complete_ofLevel ih
  | ternary _ _ _ hcondition hyes hno => exact complete_ternary hcondition hyes hno
  | tighter hl _ ih => exact complete_tighter hl ih
  | binary hp _ _ hleft hright => exact complete_binary hp hleft hright
  | ofUnary _ ih => exact complete_ofUnary ih
  | not _ ih => exact complete_sign (.inl ⟨rfl, rfl⟩) ih
  | neg _ ih => exact complete_sign (.inr ⟨rfl, rfl⟩) ih
  | ofMember h ih => exact complete_ofMember h ih
  | field _ ih => exact complete_segment appends_field ih
  | index _ hx ih => exact complete_segment (appends_index hx) ih
  | ofPrimary _ ih => exact complete_ofPrimary ih
  | number hx => exact complete_number hx
  | str => exact complete_str
  | constant hname => exact complete_constant hname
  | var hname => exact complete_var hname
  | call hname hargs ih => exact complete_call hname hargs ih
  | parens _ ih => exact complete_parens ih

variable {limit finish : Nat} {tokens : List (Nat × Token)}

theorem whole_leads {fuel : Nat} (h : Derives .ternary (tokens.map Prod.snd) e) :
    Leads (whole fuel limit finish tokens) (.ok e) := by
  have hover : Over ⟨tokens, 0, limit, finish⟩ (tokens.map Prod.snd) ⟨[], 0, limit, finish⟩ :=
    ⟨⟨tokens, by simp, rfl⟩, rfl, rfl, rfl⟩
  exact .bind (complete_of_derives h _ _ _ hover nofun) .refl

theorem parseWithin_of_derives (h : Derives .ternary (tokens.map Prod.snd) e) :
    parseWithin limit finish tokens = .ok e ∨
      parseWithin limit finish tokens = .error .tooDeep := by
  unfold parseWithin
  have hleads : Leads (whole (fuelFor tokens) limit finish tokens) (.ok e) := whole_leads h
  rcases hleads with hok | ⟨stop, herror, hstop⟩
  · exact .inl (by rw [hok]; rfl)
  · exact .inr (by rw [herror, ← hstop]; rfl)

theorem derives_of_parseWithin (h : parseWithin limit finish tokens = .ok e) :
    Derives .ternary (tokens.map Prod.snd) e :=
  (whole_outcome (Nat.le_refl _)).of_eq_ok (except_mapError_eq_ok.1 h)

/-- What is turned down is no expression, or nested too deeply. -/
theorem refuses_of_parseWithin {err : ExpressionError}
    (h : parseWithin limit finish tokens = .error err) :
    err.Refuses ∨ err = .tooDeep ∧ limit ≤ tokens.length := by
  obtain ⟨stop, hstop, rfl⟩ := except_mapError_eq_error.1 h
  have houtcome := @whole_outcome limit finish tokens (fuelFor tokens) (Nat.le_refl _)
  rw [hstop] at houtcome
  rcases houtcome with ⟨e, rfl, he⟩ | ⟨rfl, hlimit⟩
  · exact .inl he
  · exact .inr ⟨rfl, hlimit⟩

/-- Tokens that are nested no deeper than the limit is are read as what the grammar derives from
them. -/
theorem parseWithin_eq_ok_iff (h : tokens.length < limit) :
    parseWithin limit finish tokens = .ok e ↔ Derives .ternary (tokens.map Prod.snd) e := by
  refine ⟨derives_of_parseWithin, fun he => (parseWithin_of_derives he).resolve_right ?_⟩
  intro hdeep
  rcases refuses_of_parseWithin hdeep with hrefuses | ⟨-, hlimit⟩
  · exact not_refuses_tooDeep hrefuses
  · omega

end Parser

/-- Tokens have one parse at most. -/
theorem Derives.unique {ts : List Token} {e e' : Expr} (h : Derives .ternary ts e)
    (h' : Derives .ternary ts e') : e = e' := by
  -- with room for as many levels as there are tokens the parser gives every parse there is
  have hsnd : (ts.map ((0, ·))).map Prod.snd = ts := by simp [Function.comp_def]
  have hlength : (ts.map ((0, ·))).length < ts.length + 1 := by simp
  have hok := (@Parser.parseWithin_eq_ok_iff e _ 0 _ hlength).2 (by rwa [hsnd])
  have hok' := (@Parser.parseWithin_eq_ok_iff e' _ 0 _ hlength).2 (by rwa [hsnd])
  exact Except.ok.inj (hok.symm.trans hok')

/-- The parser accepts what the grammar derives, unless it is nested too deeply, and reads it as the
one expression that the grammar gives it. Everything else it turns down. Few tokens are never nested
too deeply, and however many there are, the parser does not want for fuel. -/
theorem parseTokens_grammar (finish : Nat) (tokens : List (Nat × Token)) :
    (∀ e, Parser.parseTokens finish tokens = .ok e → Derives .ternary (tokens.map Prod.snd) e) ∧
    (∀ e, Derives .ternary (tokens.map Prod.snd) e →
      Parser.parseTokens finish tokens = .ok e ∨
        Parser.parseTokens finish tokens = .error .tooDeep) ∧
    (∀ e e', Derives .ternary (tokens.map Prod.snd) e →
      Derives .ternary (tokens.map Prod.snd) e' → e = e') ∧
    ((¬∃ e, Derives .ternary (tokens.map Prod.snd) e) →
      (∃ position fault, Parser.parseTokens finish tokens = .error (.malformed position fault)) ∨
      (∃ x, Parser.parseTokens finish tokens = .error (.type (.notFinite x))) ∨
      Parser.parseTokens finish tokens = .error .tooDeep) ∧
    (tokens.length < maxDepth → Parser.parseTokens finish tokens ≠ .error .tooDeep) ∧
    (∀ fuel, Parser.fuelFor tokens ≤ fuel →
      Parser.ternary fuel ⟨tokens, 0, maxDepth, finish⟩ =
        Parser.ternary (Parser.fuelFor tokens) ⟨tokens, 0, maxDepth, finish⟩ ∧
      Parser.ternary fuel ⟨tokens, 0, maxDepth, finish⟩ ≠ .error .spent) := by
  unfold Parser.parseTokens
  refine ⟨fun e he => Parser.derives_of_parseWithin he,
    fun e he => Parser.parseWithin_of_derives he, fun e e' he he' => he.unique he',
    fun hnone => ?_, fun hlength hdeep => ?_, fun fuel hfuel => ⟨Parser.ternary_steady hfuel, ?_⟩⟩
  · cases hr : Parser.parseWithin maxDepth finish tokens with
    | ok e => exact absurd ⟨e, Parser.derives_of_parseWithin hr⟩ hnone
    | error err =>
      rcases Parser.refuses_of_parseWithin hr with (⟨position, fault, rfl⟩ | ⟨x, rfl⟩) | ⟨rfl, -⟩
      · exact .inl ⟨position, fault, rfl⟩
      · exact .inr (.inl ⟨x, rfl⟩)
      · exact .inr (.inr rfl)
  · rcases Parser.refuses_of_parseWithin hdeep with hrefuses | ⟨-, hlimit⟩
    · exact not_refuses_tooDeep hrefuses
    · omega
  · refine Parser.ternary_ne_spent ?_
    unfold Parser.fuelFor at hfuel
    dsimp only
    omega

/-- What binds as strongly as a sign has a place at every level. -/
theorem Derives.level {ts : List Token} {e : Expr} {l : Nat} (h : Derives .unary ts e)
    (hl : l ≤ Parser.levels) : Derives (.level l) ts e := by
  induction hl using Nat.decreasingInduction with
  | self => exact .ofUnary h
  | of_succ l hl ih => exact .tighter hl ih

/-- The tokens of `a + b * c`. -/
def sumTokens : List (Nat × Token) :=
  [(0, .ident "a"), (2, .punct .plus), (4, .ident "b"), (6, .punct .star), (8, .ident "c")]

def sumExpr : Expr := .binary .add (.var "a") (.binary .mul (.var "b") (.var "c"))

theorem sumTokens_parsed :
    Derives .ternary (sumTokens.map Prod.snd) sumExpr ∧ sumTokens.length < maxDepth ∧
      Parser.parseTokens 9 sumTokens = .ok sumExpr := by
  have hname : ∀ name, constant? name = none → Derives .unary [.ident name] (.var name) :=
    fun name h => .ofMember (.ofPrimary (.var h))
  have hproduct : Derives (.level 5) [.ident "b", .punct .star, .ident "c"]
      (.binary .mul (.var "b") (.var "c")) :=
    .binary rfl ((hname "b" (by decide)).level (by decide))
      ((hname "c" (by decide)).level (by decide))
  have hsum : Derives (.level 4) (sumTokens.map Prod.snd) sumExpr :=
    .binary rfl ((hname "a" (by decide)).level (by decide)) hproduct
  have hderives : Derives .ternary (sumTokens.map Prod.snd) sumExpr :=
    .ofLevel (.tighter (by decide) (.tighter (by decide) (.tighter (by decide)
      (.tighter (by decide) hsum))))
  have hlength : sumTokens.length < maxDepth := by decide
  obtain ⟨-, haccepts, -, -, hdeep, -⟩ := parseTokens_grammar 9 sumTokens
  exact ⟨hderives, hlength, (haccepts _ hderives).resolve_right (hdeep hlength)⟩

end PageLayers
