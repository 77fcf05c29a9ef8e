import PageLayers.Proofs.Expression.Grammar

/-! What the parser takes for an expression is one by the grammar. What it does not take it turns
down as no expression or as nested too deeply, and the latter only where the depth falls short of
the number of tokens. Its fuel is never spent. -/

namespace PageLayers

/-- How tokens that make up no expression are turned down. -/
def ExpressionError.Refuses (e : ExpressionError) : Prop :=
  (∃ position fault, e = .malformed position fault) ∨ ∃ x, e = .type (.notFinite x)

theorem not_refuses_tooDeep : ¬ExpressionError.tooDeep.Refuses := by
  rintro (⟨_, _, h⟩ | ⟨_, h⟩) <;> cases h

namespace Parser

open Cursor

/-- A step of the parser yields something of a kind, or turns the tokens down. It stops for want of
levels or of fuel under a condition only. -/
def Outcome {α : Type} (Q : α → Prop) (want : Stop → Prop) : Except Stop α → Prop
  | .ok a => Q a
  | .error stop => (∃ e, stop = .refused e ∧ e.Refuses) ∨ want stop

/-- The tokens that are left may ask for more fuel than there is, or for more levels. -/
def Short (fuel : Nat) (c : Cursor) (cost slack : Nat) : Stop → Prop
  | .spent => fuel < 12 * c.tokens.length + cost
  | .refused e => e = .tooDeep ∧ c.limit < c.depth + c.tokens.length + slack

/-- An expression of some kind was read from one place to another. -/
def Reads (k : Phrase) (c : Cursor) (x : Expr × Cursor) : Prop :=
  ∃ ts, c.Over ts x.2 ∧ Derives k ts x.1

/-- The arguments of a call were read, with the parenthesis that closes them. -/
def ReadsArguments (c : Cursor) (x : List Expr × Cursor) : Prop :=
  ∃ args : List (List Token × Expr), args ≠ [] ∧ args.map Prod.snd = x.1 ∧
    (∀ a ∈ args, Derives .ternary a.1 a.2) ∧
    c.Over ([Token.punct .comma].intercalate (args.map Prod.fst) ++ [.punct .closeParen]) x.2

/-- A phrase that was read goes on to a longer one of the same kind. -/
def Extends (k : Phrase) (e : Expr) (c : Cursor) (x : Expr × Cursor) : Prop :=
  ∃ ts, c.Over ts x.2 ∧ ∀ before, Derives k before e → Derives k (before ++ ts) x.1

/-- What each routine does with so much fuel. -/
structure ReadsAt (fuel : Nat) : Prop where
  ternary : ∀ c, Outcome (Reads .ternary c) (Short fuel c 10 1) (ternary fuel c)
  binary : ∀ l ≤ levels, ∀ c,
    Outcome (Reads (.level l) c) (Short fuel c (9 - l) 0) (binary fuel l c)
  chain : ∀ l < levels, ∀ entered e c, Outcome (Extends (.level l) e c)
    (Short fuel (c.deeper entered) 1 0) (chain fuel l entered e (c.deeper entered))
  unary : ∀ c, Outcome (Reads .unary c) (Short fuel c 2 0) (unary fuel c)
  suffixes : ∀ entered e c, Outcome (Extends .member e c)
    (Short fuel (c.deeper entered) 1 0) (suffixes fuel entered e (c.deeper entered))
  primary : ∀ c, Outcome (Reads .primary c) (Short fuel c 1 0) (primary fuel c)
  arguments : ∀ c, Outcome (ReadsArguments c) (Short fuel c 11 1) (arguments fuel c)

variable {α β : Type} {fuel l n : Nat} {c c' : Cursor} {p : Punct} {e : Expr}

namespace Outcome

variable {Q : α → Prop} {Q' : β → Prop} {want want' : Stop → Prop} {r : Except Stop α}
  {f : α → Except Stop β}

theorem bind (h : Outcome Q want r) (hwant : ∀ stop, want stop → want' stop)
    (hf : ∀ a, Q a → Outcome Q' want' (f a)) : Outcome Q' want' (r >>= f) := by
  cases r with
  | ok a => exact hf a h
  | error stop => exact h.imp_right (hwant stop)

theorem mono {Q' : α → Prop} (h : Outcome Q want r) (hwant : ∀ stop, want stop → want' stop)
    (hQ : ∀ a, Q a → Q' a) : Outcome Q' want' r := by
  cases r with
  | ok a => exact hQ a h
  | error stop => exact h.imp_right (hwant stop)

theorem fail {fault : SyntaxFault} : Outcome Q want (c.fail fault) :=
  .inl ⟨_, rfl, .inl ⟨_, _, rfl⟩⟩

end Outcome

theorem enter_outcome :
    Outcome (· = c.deeper 1) (fun stop => stop = .refused .tooDeep ∧ c.limit < c.depth + 1)
      c.enter := by
  rw [enter_eq]
  split
  · rename_i h
    exact .inr ⟨rfl, h⟩
  · exact rfl

theorem over_of_eat? (h : c.eat? p = some c') : c.Over [.punct p] c' := by
  rw [eat?_eq] at h
  split at h
  · rename_i hnext
    obtain rfl := Option.some.inj h
    exact over_advance hnext
  · cases h

theorem expect_outcome {want : Stop → Prop} : Outcome (c.Over [.punct p] ·) want (c.expect p) := by
  unfold expect
  split
  · rename_i h
    exact over_of_eat? h
  · exact .fail

/-- A routine that works on a place that is the deeper of two leaves the other one with the same
expression. -/
theorem Reads.exists_deeper {k : Phrase} {x : Expr × Cursor} (h : Reads k (c.deeper n) x) :
    ∃ c', x.2 = c'.deeper n ∧ Reads k c (x.1, c') := by
  obtain ⟨ts, hover, hderives⟩ := h
  obtain ⟨c', hc', hover⟩ := hover.exists_deeper
  exact ⟨c', hc', ts, hover, hderives⟩

namespace Short

variable {cost cost' slack slack' fuel' : Nat} {ts : List Token} {stop : Stop}

theorem deeper (h : Short fuel (c.deeper n) cost slack stop) :
    Short fuel c cost (slack + n) stop := by
  cases stop with
  | spent => exact h
  | refused e =>
    refine h.imp_right fun h => ?_
    simp only [Cursor.deeper] at h
    omega

/-- What falls short after some tokens fell short before them. -/
theorem before (h : Short fuel c' cost slack stop) (hover : c.Over ts c')
    (hfuel : fuel' + cost ≤ fuel + 12 * ts.length + cost') (hdepth : slack ≤ ts.length + slack') :
    Short fuel' c cost' slack' stop := by
  have hlength := hover.length_eq
  have hlimit := hover.limit
  have hsame := hover.depth
  cases stop with
  | spent =>
    dsimp only [Short] at h ⊢
    omega
  | refused e => exact h.imp_right fun h => by omega

end Short

/-- Once a token is passed over there is a level to enter for it. -/
theorem enter_after {cost slack : Nat} {ts : List Token} (hover : c.Over ts c')
    (hpos : 0 < ts.length) : Outcome (· = c'.deeper 1) (Short fuel c cost slack) c'.enter := by
  refine enter_outcome.mono ?_ fun _ h => h
  rintro _ ⟨rfl, hlimit⟩
  refine ⟨rfl, ?_⟩
  have hlength := hover.length_eq
  have hsame := hover.limit
  have hdepth := hover.depth
  omega

theorem ternary_step (h : ReadsAt fuel) :
    Outcome (Reads .ternary c) (Short (fuel + 1) c 10 1) (ternary (fuel + 1) c) := by
  unfold ternary
  refine enter_outcome.bind ?_ ?_
  · rintro _ ⟨rfl, hlimit⟩
    exact ⟨rfl, by omega⟩
  rintro _ rfl
  refine (h.binary 0 (Nat.zero_le _) _).bind ?_ ?_
  · exact fun _ hs => hs.deeper.before .refl (by simp) (by simp)
  rintro ⟨condition, c₁⟩ hcondition
  obtain ⟨c₁, rfl, cs, hcs, hcondition⟩ := hcondition.exists_deeper
  have hpos := hcondition.length_pos
  dsimp only
  split
  · refine ⟨cs, ?_, .ofLevel hcondition⟩
    simpa using hcs
  · rename_i c₂ hquestion
    obtain ⟨c₂, rfl, hmark⟩ := (over_of_eat? hquestion).exists_deeper
    have hasked := hcs.trans hmark
    refine (h.ternary _).bind ?_ ?_
    · exact fun _ hs => hs.deeper.before hasked (by simp; omega) (by simp)
    rintro ⟨yes, c₃⟩ hyes
    obtain ⟨c₃, rfl, ys, hys, hyes⟩ := hyes.exists_deeper
    dsimp only
    refine expect_outcome.bind (fun _ => id) ?_
    intro c₄ hcolon
    obtain ⟨c₄, rfl, hmark⟩ := hcolon.exists_deeper
    have hchosen := (hasked.trans hys).trans hmark
    refine (h.ternary _).bind ?_ ?_
    · exact fun _ hs => hs.deeper.before hchosen (by simp; omega) (by simp; omega)
    rintro ⟨no, c₅⟩ hno
    obtain ⟨c₅, rfl, ns, hns, hno⟩ := hno.exists_deeper
    refine ⟨_, ?_, .ternary hcondition hyes hno⟩
    simpa using hchosen.trans hns

theorem binary_step (h : ReadsAt fuel) (hl : l ≤ levels) :
    Outcome (Reads (.level l) c) (Short (fuel + 1) c (9 - l) 0) (binary (fuel + 1) l c) := by
  unfold binary
  split
  · rename_i hlevel
    obtain rfl := hlevel
    refine (h.unary c).mono (fun _ hs => hs.before .refl (by simp [levels]) (by simp)) ?_
    rintro ⟨e, c'⟩ ⟨ts, hover, hderives⟩
    exact ⟨ts, hover, .ofUnary hderives⟩
  · rename_i hlevel
    have hl : l < levels := Nat.lt_of_le_of_ne hl hlevel
    have hsix : levels = 6 := rfl
    refine (h.binary (l + 1) hl c).bind ?_ ?_
    · exact fun _ hs => hs.before .refl (by simp; omega) (by simp)
    rintro ⟨left, c₁⟩ ⟨ls, hls, hleft⟩
    have hpos := hleft.length_pos
    refine (h.chain l hl 0 left c₁).mono ?_ ?_
    · exact fun _ hs => hs.deeper.before hls (by omega) (by omega)
    rintro ⟨e, c₂⟩ ⟨ts, hts, hextends⟩
    exact ⟨ls ++ ts, hls.trans hts, hextends ls (.tighter hl hleft)⟩

theorem over_of_operator? {op : BinaryOp} (h : operator? l c = some (op, c')) :
    ∃ p, p.operator? = some (l, op) ∧ c.Over [.punct p] c' := by
  obtain ⟨p, hnext, hp, rfl⟩ := operator?_eq_some.1 h
  exact ⟨p, hp, over_advance hnext⟩

theorem chain_step (h : ReadsAt fuel) (hl : l < levels) {entered : Nat} :
    Outcome (Extends (.level l) e c) (Short (fuel + 1) (c.deeper entered) 1 0)
      (chain (fuel + 1) l entered e (c.deeper entered)) := by
  unfold chain
  split
  · rw [leave_deeper]
    exact ⟨[], .refl, fun before hbefore => by simpa using hbefore⟩
  · rename_i op c₁ hop
    obtain ⟨p, hp, hover⟩ := over_of_operator? hop
    obtain ⟨c₁, rfl, hpassed⟩ := hover.exists_deeper
    refine (enter_after hover Nat.one_pos).bind (fun _ => id) ?_
    rintro _ rfl
    refine (h.binary (l + 1) hl _).bind ?_ ?_
    · exact fun _ hs => hs.deeper.before hover (by simp; omega) (by simp)
    rintro ⟨right, c₂⟩ hright
    rw [deeper_deeper] at hright
    obtain ⟨c₂, rfl, rs, hrs, hright⟩ := hright.exists_deeper
    have hpos := hright.length_pos
    dsimp only
    -- the chain goes on with the longer operand, one level deeper than before
    refine (h.chain l hl (entered + 1) (.binary op e right) c₂).mono ?_ ?_
    · intro _ hs
      rw [← deeper_deeper] at hs
      exact hs.deeper.before (hpassed.trans hrs).deeper (by simp; omega) (by simp)
    rintro ⟨e', c₃⟩ ⟨ts, hts, hextends⟩
    refine ⟨_, (hpassed.trans hrs).trans hts, fun before hbefore => ?_⟩
    have hbinary := hextends _ (.binary hp hbefore hright)
    simpa using hbinary

theorem sign_step (h : ReadsAt fuel) {op : UnaryOp}
    (hderives : ∀ {ts e}, Derives .unary ts e → Derives .unary (.punct p :: ts) (.unary op e))
    (hsign : c.eat? p = some c') : Outcome (Reads .unary c) (Short (fuel + 1) c 2 0) (do
      let c ← c'.enter
      let (e, c) ← unary fuel c
      return (.unary op e, c.leave 1)) := by
  have hover := over_of_eat? hsign
  refine (enter_after hover Nat.one_pos).bind (fun _ => id) ?_
  rintro _ rfl
  refine (h.unary _).bind ?_ ?_
  · exact fun _ hs => hs.deeper.before hover (by simp) (by simp)
  rintro ⟨e, c₂⟩ he
  obtain ⟨c₂, rfl, ts, hts, he⟩ := he.exists_deeper
  refine ⟨_, ?_, hderives he⟩
  simpa using hover.trans hts

theorem unary_step (h : ReadsAt fuel) :
    Outcome (Reads .unary c) (Short (fuel + 1) c 2 0) (unary (fuel + 1) c) := by
  unfold unary
  split
  · rename_i hbang
    exact sign_step h .not hbang
  · rename_i hminus
    exact sign_step h .neg hminus
  · refine (h.primary c).bind ?_ ?_
    · exact fun _ hs => hs.before .refl (by simp) (by simp)
    rintro ⟨e, c₁⟩ ⟨ts, hts, he⟩
    have hpos := he.length_pos
    refine (h.suffixes 0 e c₁).mono ?_ ?_
    · exact fun _ hs => hs.deeper.before hts (by omega) (by simp)
    rintro ⟨e', c₂⟩ ⟨us, hus, hextends⟩
    exact ⟨_, hts.trans hus, .ofMember (hextends _ (.ofPrimary he))⟩

/-- A member or a position that was read is one more of those that follow. -/
theorem segment_step (h : ReadsAt fuel) {entered : Nat} {segment : Segment} {ts : List Token}
    (hover : c.Over ts c') (hpos : 0 < ts.length)
    (hderives : ∀ {before}, Derives .member before e →
      Derives .member (before ++ ts) (.get e segment)) :
    Outcome (Extends .member e c) (Short (fuel + 1) (c.deeper entered) 1 0)
      (suffixes fuel (entered + 1) (.get e segment) (c'.deeper (entered + 1))) := by
  refine (h.suffixes (entered + 1) (.get e segment) c').mono ?_ ?_
  · intro _ hs
    rw [← deeper_deeper] at hs
    exact hs.deeper.before hover.deeper (by omega) (by omega)
  rintro ⟨e', c₂⟩ ⟨us, hus, hextends⟩
  refine ⟨_, hover.trans hus, fun before hbefore => ?_⟩
  simpa using hextends _ (hderives hbefore)

theorem over_of_tokens {t : Token} {place : Nat} {rest : List (Nat × Token)}
    (h : c.tokens = (place, t) :: rest) : c.Over [t] c.advance :=
  over_advance (by simp [next?, ahead, h])

theorem suffixes_step (h : ReadsAt fuel) {entered : Nat} :
    Outcome (Extends .member e c) (Short (fuel + 1) (c.deeper entered) 1 0)
      (suffixes (fuel + 1) entered e (c.deeper entered)) := by
  unfold suffixes
  split
  · rename_i c₁ hdot
    have hover := over_of_eat? hdot
    obtain ⟨c₁, rfl, hpassed⟩ := hover.exists_deeper
    refine (enter_after hover Nat.one_pos).bind (fun _ => id) ?_
    rintro _ rfl
    split
    · rename_i name rest hname
      have hfield := hpassed.trans (@over_of_tokens c₁ _ _ _ hname)
      exact segment_step h hfield Nat.two_pos .field
    · exact .fail
  · rename_i c₁ hbracket
    have hover := over_of_eat? hbracket
    obtain ⟨c₁, rfl, hpassed⟩ := hover.exists_deeper
    refine (enter_after hover Nat.one_pos).bind (fun _ => id) ?_
    rintro _ rfl
    split
    · rename_i x rest hnumber
      have hposition := hpassed.trans (@over_of_tokens c₁ _ _ _ hnumber)
      split
      · rename_i i hx
        refine expect_outcome.bind (fun _ => id) ?_
        intro c₂ hclose
        rw [deeper_deeper, advance_deeper] at hclose
        obtain ⟨c₂, rfl, hmark⟩ := hclose.exists_deeper
        exact segment_step h (hposition.trans hmark) (by simp) (.index · hx)
      · exact .fail
    · exact .fail
  · rw [leave_deeper]
    exact ⟨[], .refl, fun before hbefore => by simpa using hbefore⟩

theorem named_step (h : ReadsAt fuel) {name : String} (hname : constant? name = none)
    (hover : c.Over [.ident name] c') :
    Outcome (Reads .primary c) (Short (fuel + 1) c 1 0) (named fuel name c') := by
  unfold named
  split
  · exact ⟨_, hover, .var hname⟩
  · rename_i c₁ hopen
    have hcall := hover.trans (over_of_eat? hopen)
    refine (enter_after hcall (by simp)).bind (fun _ => id) ?_
    rintro _ rfl
    dsimp only
    split
    · rename_i c₂ hclose
      obtain ⟨c₂, rfl, hmark⟩ := (over_of_eat? hclose).exists_deeper
      refine ⟨_, ?_, @Derives.call name [] hname (by simp)⟩
      simpa using hcall.trans hmark
    · refine (h.arguments _).bind ?_ ?_
      · exact fun _ hs => hs.deeper.before hcall (by simp) (by simp)
      rintro ⟨_, c₂⟩ ⟨args, -, rfl, hargs, htokens⟩
      obtain ⟨c₂, rfl, hclosed⟩ := htokens.exists_deeper
      refine ⟨_, ?_, .call hname hargs⟩
      simpa using hcall.trans hclosed

theorem primary_step (h : ReadsAt fuel) :
    Outcome (Reads .primary c) (Short (fuel + 1) c 1 0) (primary (fuel + 1) c) := by
  match htokens : c.tokens with
  | [] =>
    simp only [primary, htokens]
    exact .fail
  | (place, .number x) :: rest =>
    simp only [primary, htokens]
    split
    · rename_i j hj
      exact ⟨_, over_of_tokens htokens, .number hj⟩
    · exact .inl ⟨_, rfl, .inr ⟨_, rfl⟩⟩
  | (place, .str s) :: rest =>
    simp only [primary, htokens]
    exact ⟨_, over_of_tokens htokens, .str⟩
  | (place, .ident name) :: rest =>
    rw [primary_of_ident htokens]
    cases hname : constant? name with
    | some j => exact ⟨_, over_of_tokens htokens, .constant hname⟩
    | none => exact named_step h hname (over_of_tokens htokens)
  | (place, .punct p) :: rest =>
    by_cases hp : p = .openParen
    · subst hp
      have hover := over_of_tokens htokens
      simp only [primary, htokens]
      refine (h.ternary _).bind ?_ ?_
      · exact fun _ hs => hs.before hover (by simp) (by simp)
      rintro ⟨e, c₁⟩ ⟨ts, hts, he⟩
      refine expect_outcome.bind (fun _ => id) ?_
      intro c₂ hclose
      refine ⟨_, ?_, .parens he⟩
      simpa using (hover.trans hts).trans hclose
    · rw [primary_of_punct htokens hp]
      exact .fail

theorem intercalate_comma {t : Token} {ts : List Token} {l : List (List Token)} (h : l ≠ []) :
    [t].intercalate (ts :: l) = ts ++ t :: [t].intercalate l := by
  rw [List.intercalate_cons_of_ne_nil h, List.append_assoc]
  rfl

theorem arguments_step (h : ReadsAt fuel) :
    Outcome (ReadsArguments c) (Short (fuel + 1) c 11 1) (arguments (fuel + 1) c) := by
  unfold arguments
  refine (h.ternary c).bind ?_ ?_
  · exact fun _ hs => hs.before .refl (by simp) (by simp)
  rintro ⟨e, c₁⟩ ⟨ts, hts, he⟩
  have hpos := he.length_pos
  dsimp only
  split
  · rename_i c₂ hclose
    refine ⟨[(ts, e)], by simp, rfl, by simpa using he, ?_⟩
    simpa using hts.trans (over_of_eat? hclose)
  · refine expect_outcome.bind (fun _ => id) ?_
    intro c₂ hcomma
    have hover := hts.trans hcomma
    refine (h.arguments c₂).bind ?_ ?_
    · exact fun _ hs => hs.before hover (by simp; omega) (by simp)
    rintro ⟨_, c₃⟩ ⟨args, hne, rfl, hargs, htokens⟩
    refine ⟨(ts, e) :: args, by simp, rfl, ?_, ?_⟩
    · exact List.forall_mem_cons.2 ⟨he, hargs⟩
    · rw [List.map_cons, intercalate_comma (by simpa using hne)]
      simpa using hover.trans htokens

theorem readsAt (fuel : Nat) : ReadsAt fuel := by
  -- all routines at once: each step takes the others at one less
  induction fuel with
  | zero =>
    have hsix : levels = 6 := rfl
    have hspent {α : Type} {Q : α → Prop} {c : Cursor} {cost slack : Nat} (hcost : 0 < cost) :
        Outcome Q (Short 0 c cost slack) (.error .spent) := .inr (Nat.add_pos_right _ hcost)
    exact ⟨fun _ => hspent (by omega), fun _ _ _ => hspent (by omega),
      fun _ _ _ _ _ => hspent (by omega), fun _ => hspent (by omega),
      fun _ _ _ => hspent (by omega), fun _ => hspent (by omega), fun _ => hspent (by omega)⟩
  | succ fuel ih =>
    exact ⟨fun _ => ternary_step ih, fun _ hl _ => binary_step ih hl,
      fun _ hl _ _ _ => chain_step ih hl,
      fun _ => unary_step ih, fun _ _ _ => suffixes_step ih, fun _ => primary_step ih,
      fun _ => arguments_step ih⟩

section Accepted

variable {x : Expr × Cursor}

theorem Outcome.of_eq_ok {α : Type} {Q : α → Prop} {want : Stop → Prop} {result : Except Stop α}
    {a : α} (h : Outcome Q want result) (hresult : result = .ok a) : Q a := by
  subst hresult
  exact h

theorem reads_ternary (h : ternary fuel c = .ok x) : Reads .ternary c x :=
  ((readsAt fuel).ternary c).of_eq_ok h

theorem reads_binary (hl : l ≤ levels) (h : binary fuel l c = .ok x) : Reads (.level l) c x :=
  ((readsAt fuel).binary l hl c).of_eq_ok h

theorem reads_primary (h : primary fuel c = .ok x) : Reads .primary c x :=
  ((readsAt fuel).primary c).of_eq_ok h

end Accepted

variable {limit finish : Nat} {tokens : List (Nat × Token)}

/-- The parser derives what it accepts. It turns down other tokens as no expression, or as nested
too deeply where the depth is less than the number of tokens. -/
theorem whole_outcome {fuel : Nat} (hfuel : fuelFor tokens ≤ fuel) :
    Outcome (Derives .ternary (tokens.map Prod.snd))
      (fun stop => stop = .refused .tooDeep ∧ limit ≤ tokens.length)
      (whole fuel limit finish tokens) := by
  unfold whole
  refine ((readsAt _).ternary _).bind ?_ ?_
  · intro stop hshort
    cases stop with
    | spent =>
      dsimp only [Short] at hshort
      unfold fuelFor at hfuel
      omega
    | refused e =>
      obtain ⟨rfl, hlimit⟩ := hshort
      dsimp only at hlimit
      exact ⟨rfl, by omega⟩
  rintro ⟨e, c⟩ ⟨ts, hover, he⟩
  have hahead := hover.ahead_eq
  dsimp only
  split
  · rename_i hnone
    obtain rfl : tokens.map Prod.snd = ts := by simpa [ahead, hnone] using hahead
    exact he
  · exact .inl ⟨_, rfl, .inl ⟨_, _, rfl⟩⟩

end Parser

end PageLayers
