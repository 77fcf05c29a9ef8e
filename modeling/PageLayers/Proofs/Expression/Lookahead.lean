import PageLayers.Proofs.Expression.ParserComplete

/-! Where the parser stops. It looks one token ahead, so what it reads and where it finds a fault
is settled by the tokens up to that one. Those before the place of a fault start an expression, and
with the next of them they start none. -/

namespace PageLayers

/-- What a fault of the parser says of the token that comes next. -/
def SyntaxFault.Accuses : SyntaxFault → Option Token → Prop
  | .trailing t, next => next = some t
  | .missing p, next => next ≠ some (.punct p)
  | .missingField, next => ∀ name, next ≠ some (.ident name)
  | .missingIndex, next => ∀ x, next = some (.number x) → Parser.indexOf? x = none
  | .ended, next => next = none
  | .misplaced p, next => next = some (.punct p)
  | _, _ => False

namespace Parser

open Cursor

variable {α β : Type} {fuel l n : Nat} {c c' c'' d d' d'' : Cursor} {p : Punct} {e : Expr}
  {ts us : List Token}

/-- From the second place the same tokens lead to where the same token comes next. -/
structure Twin (c c' : Cursor) (ts : List Token) (d d' : Cursor) : Prop where
  reads : d.Over ts d'
  next : d'.next? = c'.next?
  depth : d.depth = c.depth
  limit : d.limit = c.limit

theorem next?_of_tokens {place : Nat} {t : Token} {rest : List (Nat × Token)}
    (h : c.tokens = (place, t) :: rest) : c.next? = some t := by
  rw [next?, ahead, h]
  rfl

theorem tokens_of_next_none (h : c.next? = none) : c.tokens = [] := by
  simpa [next?, ahead] using h

namespace Twin

theorem refl (h : c.Over ts c') : Twin c c' ts c c' := ⟨h, rfl, rfl, rfl⟩

theorem next_eq (h : Twin c c' ts d d') (hover : c.Over ts c') : d.next? = c.next? := by
  cases ts with
  | nil => rw [hover.eq_of_nil, h.reads.eq_of_nil, h.next]
  | cons t ts => rw [hover.next?_eq, h.reads.next?_eq]

theorem deeper (h : Twin c c' ts d d') :
    Twin (c.deeper n) (c'.deeper n) ts (d.deeper n) (d'.deeper n) :=
  ⟨h.reads.deeper, h.next, congrArg (· + n) h.depth, h.limit⟩

theorem split (h : Twin c c'' (ts ++ us) d d'') (hts : c.Over ts c') (hus : c'.Over us c'') :
    ∃ d', Twin c c' ts d d' ∧ Twin c' c'' us d' d'' := by
  obtain ⟨d', hover, hover'⟩ := h.reads.split
  have hlast : Twin c' c'' us d' d'' := ⟨hover', h.next, by rw [hover.depth, hts.depth, h.depth],
    by rw [hover.limit, hts.limit, h.limit]⟩
  exact ⟨d', ⟨hover, hlast.next_eq hus, h.depth, h.limit⟩, hlast⟩

end Twin

/-- A routine comes to its end with what it read or with a fault. -/
inductive Ending (α : Type) where
  | read (a : α)
  | stop (fault : SyntaxFault)

def Ending.result : Ending α → Cursor → Except Stop (α × Cursor)
  | .read a, c => .ok (a, c)
  | .stop fault, c => c.fail fault

/-- A routine comes to the same end wherever the tokens up to the next one are the same. If that is
a fault, the next token is to blame, and the tokens before it have some property. -/
def LooksAhead (f : Cursor → Except Stop (α × Cursor)) (c : Cursor)
    (V : List Token → Prop) : Prop :=
  (∃ stop, f c = .error stop ∧ ∀ place fault, stop.error ≠ .malformed place fault) ∨
    ∃ ts c', ∃ ending : Ending α, c.Over ts c' ∧
      (∀ d d', Twin c c' ts d d' → f d = ending.result d') ∧
      ∀ fault, ending = .stop fault → fault.Accuses c'.next? ∧ V ts

namespace LooksAhead

variable {f f' : Cursor → Except Stop (α × Cursor)} {V V' : List Token → Prop}
  {g : α × Cursor → Except Stop (β × Cursor)}

theorem of_same (h : LooksAhead f c V)
    (hsame : ∀ d, d.next? = c.next? → d.depth = c.depth → d.limit = c.limit → f' d = f d) :
    LooksAhead f' c V := by
  rcases h with ⟨stop, herror, hother⟩ | ⟨ts, c', ending, hover, htwin, hfault⟩
  · exact .inl ⟨stop, (hsame c rfl rfl rfl).trans herror, hother⟩
  · refine .inr ⟨ts, c', ending, hover, fun d d' hd => ?_, hfault⟩
    rw [hsame d (hd.next_eq hover) hd.depth hd.limit, htwin d d' hd]

theorem mono (h : LooksAhead f c V) (hV : ∀ ts, V ts → V' ts) : LooksAhead f c V' := by
  refine h.imp_right ?_
  rintro ⟨ts, c', ending, hover, htwin, hfault⟩
  exact ⟨ts, c', ending, hover, htwin, fun fault h => (hfault fault h).imp_right (hV ts)⟩

theorem bind (hf : LooksAhead f (c.deeper n) V) (hV : ∀ ts, V ts → V' ts)
    (hg : ∀ ts a c', f (c.deeper n) = .ok (a, c'.deeper n) → c.Over ts c' →
      LooksAhead (fun c => g (a, c.deeper n)) c' fun us => V' (ts ++ us)) :
    LooksAhead (fun c => f (c.deeper n) >>= g) c V' := by
  rcases hf with ⟨stop, herror, hother⟩ | ⟨ts, c', ending, hover, htwin, hfault⟩
  · refine .inl ⟨stop, ?_, hother⟩
    simp only [herror]
    rfl
  obtain ⟨c', rfl, hts⟩ := hover.exists_deeper
  cases ending with
  | stop fault =>
    obtain ⟨hblame, hts'⟩ := hfault fault rfl
    refine .inr ⟨ts, c', .stop fault, hts, fun d d' hd => ?_, ?_⟩
    · simp only [htwin _ _ hd.deeper]
      rfl
    · rintro _ ⟨⟩
      exact ⟨hblame, hV ts hts'⟩
  | read a =>
    rcases hg ts a c' (htwin _ _ (.refl hover)) hts with
      ⟨stop, herror, hother⟩ | ⟨us, c'', ending, hus, htwin', hfault'⟩
    · refine .inl ⟨stop, ?_, hother⟩
      simp only [htwin _ _ (.refl hover)]
      exact herror
    · refine .inr ⟨ts ++ us, c'', ending, hts.trans hus, fun d d'' hd => ?_, hfault'⟩
      obtain ⟨d', hd, hd'⟩ := hd.split hts hus
      simp only [htwin _ _ hd.deeper]
      exact htwin' d' d'' hd'

theorem ok {a : α} : LooksAhead (fun c => .ok (a, c)) c V := by
  refine .inr ⟨[], c, .read a, .refl, fun d d' hd => ?_, fun fault h => by simp at h⟩
  rw [hd.reads.eq_of_nil]
  rfl

theorem fail (fault : SyntaxFault) (hblame : fault.Accuses c.next?) (hV : V []) :
    LooksAhead (fun c => (c.fail fault : Except Stop (α × Cursor))) c V := by
  refine .inr ⟨[], c, .stop fault, .refl, fun d d' hd => ?_, ?_⟩
  · rw [hd.reads.eq_of_nil]
    rfl
  · rintro _ ⟨⟩
    exact ⟨hblame, hV⟩

theorem advance {t : Token} (hnext : c.next? = some t)
    (h : LooksAhead f c.advance fun us => V (t :: us)) : LooksAhead (fun c => f c.advance) c V := by
  refine h.imp_right ?_
  rintro ⟨us, c', ending, hover, htwin, hfault⟩
  refine ⟨t :: us, c', ending, (over_advance hnext).trans hover, fun d d' hd => ?_, hfault⟩
  exact htwin _ _ ⟨hd.reads.advance, hd.next, hd.depth, hd.limit⟩

theorem enter (h : LooksAhead (fun c => f (c.deeper (n + 1))) c V) :
    LooksAhead (fun c => (c.deeper n).enter >>= f) c V := by
  by_cases hlimit : (c.deeper n).depth + 1 > (c.deeper n).limit
  · refine .inl ⟨.refused .tooDeep, ?_, fun _ _ => by simp [Stop.error]⟩
    dsimp only
    rw [enter_eq, if_pos hlimit]
    rfl
  · refine h.of_same fun d _ hdepth hlim => ?_
    have hroom : ¬(d.deeper n).depth + 1 > (d.deeper n).limit := by
      simpa only [Cursor.deeper, hdepth, hlim] using hlimit
    rw [enter_eq, if_neg hroom, deeper_deeper]
    rfl

theorem expect (hV : V [])
    (h : LooksAhead (fun c => f (c.deeper n)) c.advance fun us => V (.punct p :: us)) :
    LooksAhead (fun c => (c.deeper n).expect p >>= f) c V := by
  by_cases hnext : c.next? = some (.punct p)
  · refine (h.advance hnext).of_same fun d hd _ _ => ?_
    rw [Cursor.expect, eat?_of_next (c := d.deeper n) (hd.trans hnext)]
    rfl
  · refine (fail (.missing p) hnext hV).of_same fun d hd _ _ => ?_
    rw [Cursor.expect, eat?_of_next_ne (c := d.deeper n) (hd ▸ hnext)]
    rfl

/-- What comes next decides which way to go. -/
theorem eat (hsome : c.next? = some (.punct p) →
      LooksAhead (fun c => f (c.deeper n)) c.advance fun us => V (.punct p :: us))
    (hnone : c.next? ≠ some (.punct p) → LooksAhead f' c V) :
    LooksAhead (fun c => match (c.deeper n).eat? p with
      | none => f' c
      | some c => f c) c V := by
  by_cases hnext : c.next? = some (.punct p)
  · refine ((hsome hnext).advance hnext).of_same fun d hd _ _ => ?_
    rw [eat?_of_next (c := d.deeper n) (hd.trans hnext)]
    rfl
  · refine (hnone hnext).of_same fun d hd _ _ => ?_
    rw [eat?_of_next_ne (c := d.deeper n) (hd ▸ hnext)]

/-- Of the operators only those of the level count. -/
theorem operator {f : BinaryOp → Cursor → Except Stop (α × Cursor)}
    (hsome : ∀ p op, p.operator? = some (l, op) →
      LooksAhead (fun c => f op (c.deeper n)) c.advance fun us => V (.punct p :: us))
    (hnone : LooksAhead f' c V) :
    LooksAhead (fun c => match operator? l (c.deeper n) with
      | none => f' c
      | some (op, c) => f op c) c V := by
  by_cases hop : ∃ p op, c.next? = some (.punct p) ∧ p.operator? = some (l, op)
  · obtain ⟨p, op, hnext, hp⟩ := hop
    refine ((hsome p op hp).advance hnext).of_same fun d hd _ _ => ?_
    rw [(operator?_eq_some (c := d.deeper n)).2 ⟨p, hd.trans hnext, hp, rfl⟩]
    rfl
  · refine hnone.of_same fun d hd _ _ => ?_
    cases hop' : operator? l (d.deeper n) with
    | none => rfl
    | some x =>
      obtain ⟨p, hnext, hp, -⟩ := operator?_eq_some.1 hop'
      exact absurd ⟨p, x.1, hd.symm.trans hnext, hp⟩ hop

end LooksAhead

/-! What was read when the parser stops can be made a phrase, in the shortest way. -/

/-- The tokens are the first ones of a phrase. -/
def Starts (k : Phrase) (ts : List Token) : Prop := ∃ more e, Derives k (ts ++ more) e

theorem derives_empty : Derives .ternary [.str ""] (.literal (.str "")) :=
  .ofLevel (.level (.ofMember (.ofPrimary .str)) (Nat.zero_le _))

namespace Starts

variable {k k' : Phrase} {cs ys before : List Token} {condition yes left : Expr} {op : BinaryOp}
  {name : String}

theorem of_derives (h : Derives k ts e) : Starts k ts := ⟨[], e, by rwa [List.append_nil]⟩

theorem of_append (h : Starts k (ts ++ us)) : Starts k ts := by
  obtain ⟨more, e, he⟩ := h
  exact ⟨us ++ more, e, by rwa [← List.append_assoc]⟩

/-- Phrases of one kind start some of another. -/
theorem imp (before : List Token) (f : Expr → Expr) (h : Starts k ts)
    (hk : ∀ {us e}, Derives k us e → Derives k' (before ++ us) (f e)) :
    Starts k' (before ++ ts) := by
  obtain ⟨more, e, he⟩ := h
  have hlonger := hk he
  rw [← List.append_assoc] at hlonger
  exact ⟨more, f e, hlonger⟩

theorem up (h : Starts k ts) (hk : ∀ {us e}, Derives k us e → Derives k' us e) : Starts k' ts :=
  h.imp [] id hk

theorem of_yes (hcondition : Derives (.level 0) cs condition) (h : Starts .ternary ys) :
    Starts .ternary (cs ++ .punct .question :: ys) := by
  obtain ⟨more, e, he⟩ := h
  have hternary := Derives.ternary hcondition he derives_empty
  exact ⟨more ++ .punct .colon :: [.str ""], _, by simpa using hternary⟩

theorem of_no (hcondition : Derives (.level 0) cs condition) (hyes : Derives .ternary ys yes)
    (h : Starts .ternary ts) :
    Starts .ternary (cs ++ .punct .question :: ys ++ .punct .colon :: ts) := by
  obtain ⟨more, e, he⟩ := h
  have hternary := Derives.ternary hcondition hyes he
  exact ⟨more, _, by simpa using hternary⟩

theorem of_parens (h : Starts .ternary ts) : Starts .primary (.punct .openParen :: ts) := by
  obtain ⟨more, e, he⟩ := h
  exact ⟨more ++ [.punct .closeParen], e, by simpa using he.parens⟩

theorem of_dot (h : Derives .member before e) : Starts .member (before ++ [.punct .dot]) := by
  have hfield : Derives .member (before ++ [.punct .dot, .ident ""]) _ := .field h
  exact ⟨[.ident ""], _, by simpa using hfield⟩

theorem of_position {x : Float} {i : Nat} (h : Derives .member before e)
    (hx : indexOf? x = some i) :
    Starts .member (before ++ [.punct .openBracket, .number x]) := by
  have hindex := Derives.index h hx
  exact ⟨[.punct .closeBracket], _, by simpa using hindex⟩

theorem of_bracket (h : Derives .member before e) :
    Starts .member (before ++ [.punct .openBracket]) := by
  have hzero : indexOf? (Float.ofBits 0) = some 0 := by decide +kernel
  have hindex := Derives.index h hzero
  exact ⟨[.number (Float.ofBits 0), .punct .closeBracket], _, by simpa using hindex⟩

end Starts

/-- The tokens are the first ones of the arguments of a call. -/
def StartsArguments (ts : List Token) : Prop :=
  ∃ more, ∃ args : List (List Token × Expr), (∀ a ∈ args, Derives .ternary a.1 a.2) ∧ args ≠ [] ∧
    ts ++ more = [Token.punct .comma].intercalate (args.map Prod.fst) ++ [.punct .closeParen]

theorem StartsArguments.first (h : Starts .ternary ts) : StartsArguments ts := by
  obtain ⟨more, e, he⟩ := h
  refine ⟨more ++ [.punct .closeParen], [(ts ++ more, e)], ?_, by simp, by simp⟩
  simpa using he

theorem StartsArguments.more (he : Derives .ternary ts e) (h : StartsArguments us) :
    StartsArguments (ts ++ .punct .comma :: us) := by
  obtain ⟨more, args, hargs, hne, htokens⟩ := h
  refine ⟨more, (ts, e) :: args, List.forall_mem_cons.2 ⟨he, hargs⟩, by simp, ?_⟩
  rw [List.map_cons, intercalate_comma (by simpa using hne)]
  simp [htokens]

theorem Starts.of_call {name : String} (hname : constant? name = none) (h : StartsArguments ts) :
    Starts .primary (.ident name :: .punct .openParen :: ts) := by
  obtain ⟨more, args, hargs, -, htokens⟩ := h
  have hcall := Derives.call hname hargs
  rw [List.cons_append, List.cons_append, ← htokens] at hcall
  exact ⟨more, _, hcall⟩

/-- Each routine looks one token ahead with so much fuel. -/
structure LooksAt (fuel : Nat) : Prop where
  ternary : ∀ c, LooksAhead (ternary fuel) c (Starts .ternary)
  binary : ∀ l ≤ levels, ∀ c, LooksAhead (binary fuel l) c (Starts (.level l))
  chain : ∀ l < levels, ∀ entered e c,
    LooksAhead (fun c => chain fuel l entered e (c.deeper entered)) c fun ts =>
      ∀ before, Derives (.level l) before e → Starts (.level l) (before ++ ts)
  unary : ∀ c, LooksAhead (unary fuel) c (Starts .unary)
  suffixes : ∀ entered e c,
    LooksAhead (fun c => suffixes fuel entered e (c.deeper entered)) c fun ts =>
      ∀ before, Derives .member before e → Starts .member (before ++ ts)
  primary : ∀ c, LooksAhead (primary fuel) c (Starts .primary)
  arguments : ∀ c, LooksAhead (arguments fuel) c StartsArguments

/-- What was read from one place to another are the tokens between them. -/
theorem Reads.derives {k : Phrase} (h : Reads k c (e, c')) (hover : c.Over ts c') :
    Derives k ts e := by
  obtain ⟨us, ⟨⟨passed', htokens', rfl⟩, -⟩, he⟩ := h
  obtain ⟨⟨passed, htokens, rfl⟩, -⟩ := hover
  rw [htokens] at htokens'
  rwa [List.append_cancel_right htokens']

theorem ternary_looks (h : LooksAt fuel) :
    LooksAhead (ternary (fuel + 1)) c (Starts .ternary) := by
  change LooksAhead (fun c => ternary (fuel + 1) c) c _
  simp only [ternary]
  refine .enter (n := 0) (.bind (h.binary 0 (Nat.zero_le _) _) (fun ts hts => ?_) ?_)
  · exact hts.up .ofLevel
  intro cs condition c₁ hread hover
  have hcondition := (reads_binary (Nat.zero_le _) hread).derives hover.deeper
  refine .eat (fun _ => ?_) fun _ => .ok
  refine .bind (n := 1) (h.ternary _) (fun ts hts => .of_yes hcondition hts) ?_
  intro ys yes c₂ hread hover
  have hyes := (reads_ternary hread).derives hover.deeper
  refine .expect ?_ (.bind (n := 1) (h.ternary _) (fun ts hts => ?_) fun _ _ _ _ _ => .ok)
  · simpa using Starts.of_yes hcondition (.of_derives hyes)
  · simpa using Starts.of_no hcondition hyes hts

theorem binary_looks (h : LooksAt fuel) (hl : l ≤ levels) :
    LooksAhead (binary (fuel + 1) l) c (Starts (.level l)) := by
  change LooksAhead (fun c => binary (fuel + 1) l c) c _
  simp only [binary]
  split
  · rename_i hlevel
    obtain rfl := hlevel
    exact (h.unary c).mono fun ts hts => hts.up .ofUnary
  · rename_i hlevel
    have hl : l < levels := Nat.lt_of_le_of_ne hl hlevel
    refine .bind (n := 0) (h.binary (l + 1) hl _) (fun ts hts => ?_) ?_
    · exact hts.up (.tighter hl)
    intro ls left c₁ hread hover
    have hleft := (reads_binary hl hread).derives hover.deeper
    exact (h.chain l hl 0 left c₁).mono fun ts hts => hts ls (.tighter hl hleft)

theorem chain_looks (h : LooksAt fuel) (hl : l < levels) {entered : Nat} :
    LooksAhead (fun c => chain (fuel + 1) l entered e (c.deeper entered)) c fun ts =>
      ∀ before, Derives (.level l) before e → Starts (.level l) (before ++ ts) := by
  simp only [chain]
  refine .operator (fun p op hp => ?_) ?_
  · refine .enter (.bind (h.binary (l + 1) hl _) (fun rs hrs before hbefore => ?_) ?_)
    · have hstart := hrs.imp (before ++ [.punct p]) (.binary op e) fun hright => by
        simpa using Derives.binary hp hbefore hright
      simpa using hstart
    intro rs right c₁ hread hover
    have hright := (reads_binary hl hread).derives hover.deeper
    refine (h.chain l hl (entered + 1) _ c₁).mono fun ts hts before hbefore => ?_
    simpa using hts _ (.binary hp hbefore hright)
  · simp only [leave_deeper]
    exact .ok

theorem sign_looks (h : LooksAt fuel) {op : UnaryOp}
    (hderives : ∀ {ts e}, Derives .unary ts e → Derives .unary (.punct p :: ts) (.unary op e)) :
    LooksAhead (fun c => do
      let c ← c.enter
      let (e, c) ← unary fuel c
      return (Expr.unary op e, c.leave 1)) c fun ts => Starts .unary (.punct p :: ts) := by
  refine .enter (n := 0) (.bind (h.unary _) (fun ts hts => ?_) fun _ _ _ _ _ => .ok)
  exact hts.imp [.punct p] (.unary op) hderives

theorem unary_looks (h : LooksAt fuel) : LooksAhead (unary (fuel + 1)) c (Starts .unary) := by
  by_cases hbang : c.next? = some (.punct .bang)
  · refine ((sign_looks h .not).advance hbang).of_same fun d hd _ _ => ?_
    rw [unary, eat?_of_next (hd.trans hbang)]
  by_cases hminus : c.next? = some (.punct .minus)
  · refine ((sign_looks h .neg).advance hminus).of_same fun d hd _ _ => ?_
    rw [unary, eat?_of_next_ne (hd ▸ hbang), eat?_of_next (hd.trans hminus)]
  have hmember : LooksAhead (fun c => primary fuel c >>= fun x => suffixes fuel 0 x.1 x.2) c
      (Starts .unary) := by
    refine .bind (n := 0) (h.primary _) (fun ts hts => ?_) ?_
    · exact hts.up fun he => .ofMember (.ofPrimary he)
    intro ts e c₁ hread hover
    have he := (reads_primary hread).derives hover.deeper
    refine (h.suffixes 0 e c₁).mono fun us hus => ?_
    exact (hus ts (.ofPrimary he)).up .ofMember
  refine hmember.of_same fun d hd _ _ => ?_
  rw [unary, eat?_of_next_ne (hd ▸ hbang), eat?_of_next_ne (hd ▸ hminus)]

/-- Goes on after a point. -/
def fieldAfter (fuel entered : Nat) (e : Expr) (c : Cursor) :
    Except Stop (Expr × Cursor) :=
  match c.tokens with
  | (_, .ident name) :: _ => suffixes fuel entered (.get e (.field name)) c.advance
  | _ => c.fail .missingField

/-- Goes on after an opening bracket. -/
def indexAfter (fuel entered : Nat) (e : Expr) (c : Cursor) :
    Except Stop (Expr × Cursor) :=
  match c.tokens with
  | (_, .number x) :: _ =>
    match indexOf? x with
    | some i => do
      let c ← c.advance.expect .closeBracket
      suffixes fuel entered (.get e (.index i)) c
    | none => c.fail .missingIndex
  | _ => c.fail .missingIndex

theorem fieldAfter_looks (h : LooksAt fuel) (entered : Nat) :
    LooksAhead (fun c => fieldAfter fuel entered e (c.deeper entered)) c fun ts =>
      ∀ before, Derives .member before e → Starts .member (before ++ .punct .dot :: ts) := by
  by_cases hname : ∃ name, c.next? = some (.ident name)
  · obtain ⟨name, hnext⟩ := hname
    have hmore := h.suffixes entered (.get e (.field name)) c.advance
    refine ((hmore.mono fun ts hts before hbefore => ?_).advance hnext).of_same fun d hd _ _ => ?_
    · simpa using hts _ (.field hbefore)
    · obtain ⟨place, rest, htokens⟩ := tokens_of_next (hd.trans hnext)
      simp only [fieldAfter, tokens_deeper, htokens, advance_deeper]
  · refine (LooksAhead.fail .missingField (not_exists.1 hname) ?_).of_same
      fun d hd _ _ => ?_
    · exact fun before hbefore => .of_dot hbefore
    · unfold fieldAfter
      split
      · rename_i name rest htokens
        exact absurd ⟨name, hd.symm.trans (next?_of_tokens (c := d) htokens)⟩ hname
      · rfl

theorem indexAfter_looks (h : LooksAt fuel) (entered : Nat) :
    LooksAhead (fun c => indexAfter fuel entered e (c.deeper entered)) c fun ts =>
      ∀ before, Derives .member before e →
        Starts .member (before ++ .punct .openBracket :: ts) := by
  by_cases hposition : ∃ x i, c.next? = some (.number x) ∧ indexOf? x = some i
  · obtain ⟨x, i, hnext, hx⟩ := hposition
    have hclosed : LooksAhead (fun c => (c.deeper entered).expect .closeBracket >>=
        suffixes fuel entered (.get e (.index i))) c.advance fun ts =>
          ∀ before, Derives .member before e →
            Starts .member (before ++ .punct .openBracket :: .number x :: ts) := by
      refine .expect (fun before hbefore => .of_position hbefore hx) ?_
      refine (h.suffixes entered (.get e (.index i)) _).mono fun ts hts before hbefore => ?_
      simpa using hts _ (.index hbefore hx)
    refine (hclosed.advance hnext).of_same fun d hd _ _ => ?_
    obtain ⟨place, rest, htokens⟩ := tokens_of_next (hd.trans hnext)
    simp only [indexAfter, tokens_deeper, htokens, hx, advance_deeper]
  · have hblame : SyntaxFault.missingIndex.Accuses c.next? := by
      intro x hnext
      cases hx : indexOf? x with
      | none => rfl
      | some i => exact absurd ⟨x, i, hnext, hx⟩ hposition
    refine (LooksAhead.fail .missingIndex hblame ?_).of_same fun d hd _ _ => ?_
    · exact fun before hbefore => .of_bracket hbefore
    · unfold indexAfter
      split
      · rename_i x rest htokens
        rw [hblame x (hd.symm.trans (next?_of_tokens (c := d) htokens))]
        rfl
      · rfl

theorem suffixes_looks (h : LooksAt fuel) {entered : Nat} :
    LooksAhead (fun c => suffixes (fuel + 1) entered e (c.deeper entered)) c fun ts =>
      ∀ before, Derives .member before e → Starts .member (before ++ ts) := by
  by_cases hdot : c.next? = some (.punct .dot)
  · have hfield := fieldAfter_looks (c := c.advance) (e := e) h (entered + 1)
    refine (hfield.enter.advance hdot).of_same fun d hd _ _ => ?_
    rw [suffixes, eat?_of_next (c := d.deeper entered) (hd.trans hdot)]
    rfl
  by_cases hbracket : c.next? = some (.punct .openBracket)
  · have hindex := indexAfter_looks (c := c.advance) (e := e) h (entered + 1)
    refine (hindex.enter.advance hbracket).of_same fun d hd _ _ => ?_
    rw [suffixes, eat?_of_next_ne (c := d.deeper entered) (hd ▸ hdot),
      eat?_of_next (c := d.deeper entered) (hd.trans hbracket)]
    rfl
  · refine (LooksAhead.ok (a := e)).of_same fun d hd _ _ => ?_
    rw [suffixes, eat?_of_next_ne (c := d.deeper entered) (hd ▸ hdot),
      eat?_of_next_ne (c := d.deeper entered) (hd ▸ hbracket), leave_deeper]

theorem further_looks (h : LooksAt fuel) (he : Derives .ternary ts e) :
    LooksAhead (fun c => do
      let c ← c.expect .comma
      let (more, c) ← arguments fuel c
      return (e :: more, c)) c fun us => StartsArguments (ts ++ us) := by
  refine .expect (n := 0) ?_ (.bind (n := 0) (h.arguments _) (fun us hus => .more he hus)
    fun _ _ _ _ _ => .ok)
  simpa using StartsArguments.first (.of_derives he)

theorem arguments_looks (h : LooksAt fuel) :
    LooksAhead (arguments (fuel + 1)) c StartsArguments := by
  change LooksAhead (fun c => arguments (fuel + 1) c) c _
  simp only [arguments]
  refine .bind (n := 0) (h.ternary _) (fun ts hts => .first hts) ?_
  intro ts e c₁ hread hover
  have he := (reads_ternary hread).derives hover.deeper
  by_cases hclose : c₁.next? = some (.punct .closeParen)
  · refine ((LooksAhead.ok (a := [e])).advance hclose).of_same fun d hd _ _ => ?_
    rw [eat?_of_next (c := d.deeper 0) (hd.trans hclose)]
    rfl
  · refine (further_looks h he).of_same fun d hd _ _ => ?_
    rw [eat?_of_next_ne (c := d.deeper 0) (hd ▸ hclose)]
    rfl

theorem call_looks (h : LooksAt fuel) {name : String} (hname : constant? name = none) :
    LooksAhead (fun c => do
      let (args, c) ← arguments fuel (c.deeper 1)
      return (Expr.call name args, c.leave 1)) c fun ts =>
        Starts .primary (.ident name :: .punct .openParen :: ts) :=
  .bind (h.arguments _) (fun _ hts => .of_call hname hts) fun _ _ _ _ _ => .ok

theorem named_looks (h : LooksAt fuel) {name : String} (hname : constant? name = none) :
    LooksAhead (named fuel name) c fun ts => Starts .primary (.ident name :: ts) := by
  change LooksAhead (fun c => named fuel name c) c _
  simp only [named]
  refine .eat (n := 0) (fun _ => .enter (n := 0) ?_) fun _ => .ok
  by_cases hclose : c.advance.next? = some (.punct .closeParen)
  · refine ((LooksAhead.ok (a := .call name [])).advance hclose).of_same fun d hd _ _ => ?_
    rw [eat?_of_next (c := d.deeper (0 + 1)) (hd.trans hclose)]
    rfl
  · refine (call_looks h hname).of_same fun d hd _ _ => ?_
    rw [eat?_of_next_ne (c := d.deeper (0 + 1)) (hd ▸ hclose)]

theorem parens_looks (h : LooksAt fuel) :
    LooksAhead (fun c => do
      let (e, c) ← ternary fuel c
      let c ← c.expect .closeParen
      return (e, c)) c fun ts => Starts .primary (.punct .openParen :: ts) := by
  refine .bind (n := 0) (h.ternary _) (fun ts hts => .of_parens hts) ?_
  intro ts e c₁ hread hover
  have he := (reads_ternary hread).derives hover.deeper
  refine .expect (n := 0) ?_ .ok
  simpa using Starts.of_parens (.of_derives he)

theorem primary_looks (h : LooksAt fuel) :
    LooksAhead (primary (fuel + 1)) c (Starts .primary) := by
  have hempty : Starts .primary [] := ⟨[.str ""], _, .str⟩
  cases hnext : c.next? with
  | none =>
    refine (LooksAhead.fail .ended hnext hempty).of_same fun d hd _ _ => ?_
    simp only [primary, tokens_of_next_none (hd.trans hnext)]
  | some t =>
    have htokens (d : Cursor) (hd : d.next? = c.next?) := tokens_of_next (hd.trans hnext)
    have hliteral {j : Json} (hj : ∀ d : Cursor, d.next? = c.next? →
        primary (fuel + 1) d = .ok (.literal j, d.advance)) :
        LooksAhead (primary (fuel + 1)) c (Starts .primary) :=
      (LooksAhead.ok.advance hnext).of_same fun d hd _ _ => hj d hd
    cases t with
    | number x =>
      cases hx : Json.ofFloat? x with
      | some j =>
        refine hliteral (j := j) fun d hd => ?_
        obtain ⟨place, rest, htokens⟩ := htokens d hd
        simp only [primary, htokens, hx]
      | none =>
        refine .inl ⟨.refused (.type (.notFinite x)), ?_, fun _ _ => by simp [Stop.error]⟩
        obtain ⟨place, rest, htokens⟩ := htokens c rfl
        simp only [primary, htokens, hx]
    | str s =>
      refine hliteral (j := .str s) fun d hd => ?_
      obtain ⟨place, rest, htokens⟩ := htokens d hd
      simp only [primary, htokens]
    | ident name =>
      cases hname : constant? name with
      | some j =>
        refine hliteral (j := j) fun d hd => ?_
        obtain ⟨place, rest, htokens⟩ := htokens d hd
        rw [primary_of_ident htokens, hname]
      | none =>
        refine ((named_looks h hname).advance hnext).of_same fun d hd _ _ => ?_
        obtain ⟨place, rest, htokens⟩ := htokens d hd
        rw [primary_of_ident htokens, hname]
    | punct p =>
      by_cases hp : p = .openParen
      · subst hp
        refine ((parens_looks h).advance hnext).of_same fun d hd _ _ => ?_
        obtain ⟨place, rest, htokens⟩ := htokens d hd
        simp only [primary, htokens]
      · refine (LooksAhead.fail (.misplaced p) hnext hempty).of_same fun d hd _ _ => ?_
        obtain ⟨place, rest, htokens⟩ := htokens d hd
        exact primary_of_punct htokens hp

theorem looksAt (fuel : Nat) : LooksAt fuel := by
  have hspent {α : Type} {f : Cursor → Except Stop (α × Cursor)} {c : Cursor}
      {V : List Token → Prop} (h : f c = .error .spent) : LooksAhead f c V :=
    .inl ⟨.spent, h, fun _ _ => by simp [Stop.error]⟩
  induction fuel with
  | zero =>
    exact ⟨fun _ => hspent rfl, fun _ _ _ => hspent rfl, fun _ _ _ _ _ => hspent rfl,
      fun _ => hspent rfl, fun _ _ _ => hspent rfl, fun _ => hspent rfl, fun _ => hspent rfl⟩
  | succ fuel ih =>
    exact ⟨fun _ => ternary_looks ih, fun _ hl _ => binary_looks ih hl,
      fun _ hl _ _ _ => chain_looks ih hl, fun _ => unary_looks ih, fun _ _ _ => suffixes_looks ih,
      fun _ => primary_looks ih, fun _ => arguments_looks ih⟩

/-- The tokens start an expression. They make up none where no token is left, and with the next one
that is there they start none. -/
structure Stuck (ahead : List Token) (next : Option Token) : Prop where
  starts : Starts .ternary ahead
  incomplete : next = none → ¬∃ e, Derives .ternary ahead e
  offended : ∀ t, next = some t → ¬Starts .ternary (ahead ++ [t])

/-- The parser is stuck in one place only. -/
theorem Stuck.length_eq {ahead behind ahead' behind' : List (Nat × Token)}
    (h : Stuck (ahead.map Prod.snd) (behind.head?.map Prod.snd))
    (h' : Stuck (ahead'.map Prod.snd) (behind'.head?.map Prod.snd))
    (heq : ahead ++ behind = ahead' ++ behind') : ahead.length = ahead'.length := by
  rcases List.append_eq_append_iff.1 heq with ⟨between, rfl, rfl⟩ | ⟨between, rfl, rfl⟩
  · cases between with
    | nil => rw [List.append_nil]
    | cons t more =>
      refine absurd ?_ (h.offended t.2 rfl)
      have hstarts : Starts .ternary (ahead.map Prod.snd ++ [t.2] ++ more.map Prod.snd) := by
        simpa using h'.starts
      exact hstarts.of_append
  · cases between with
    | nil => rw [List.append_nil]
    | cons t more =>
      refine absurd ?_ (h'.offended t.2 rfl)
      have hstarts : Starts .ternary (ahead'.map Prod.snd ++ [t.2] ++ more.map Prod.snd) := by
        simpa using h.starts
      exact hstarts.of_append

variable {limit finish place : Nat} {tokens : List (Nat × Token)} {fault : SyntaxFault}

theorem position_eq : c.position = (c.tokens.head?.map Prod.fst).getD c.finish := by
  unfold position
  cases c.tokens <;> rfl

/-- No other tokens after the next one lead to an expression, as the parser would find it. -/
theorem not_starts_of_next {ending : Ending Expr} {t : Token}
    (htwin : ∀ d d', Twin c c' ts d d' → ternary fuel d = ending.result d')
    (hnext : c'.next? = some t) : ¬Starts .ternary (ts ++ [t]) := by
  rintro ⟨more, e, he⟩
  have hplaced (l : List Token) : (l.map fun t => (0, t)).map Prod.snd = l := by
    simp [Function.comp_def]
  have hd : Twin c c' ts ⟨(ts ++ t :: more).map fun t => (0, t), c.depth, c.limit, c.finish⟩
      ⟨(t :: more).map fun t => (0, t), c.depth, c.limit, c.finish⟩ := by
    refine ⟨⟨⟨ts.map fun t => (0, t), by simp, hplaced ts⟩, rfl, rfl, rfl⟩, ?_, rfl, rfl⟩
    rw [hnext]
    rfl
  have hread := complete_of_derives he fuel
    ⟨(ts ++ t :: more).map fun t => (0, t), c.depth, c.limit, c.finish⟩
    ⟨[], c.depth, c.limit, c.finish⟩
    ⟨⟨_, (List.append_nil _).symm, by simp [Function.comp_def]⟩, rfl, rfl, rfl⟩ nofun
  rw [htwin _ _ hd] at hread
  cases ending with
  | read a => rcases hread with hread | ⟨stop, hread, -⟩ <;> cases hread
  | stop fault =>
    rcases hread with hread | ⟨stop, hread, hstop⟩ <;> cases hread
    cases hstop

/-- The parser stops with a fault where it is stuck. -/
theorem parseWithin_eq_malformed
    (h : parseWithin limit finish tokens = .error (.malformed place fault)) :
    ∃ ahead behind, tokens = ahead ++ behind ∧
      Stuck (ahead.map Prod.snd) (behind.head?.map Prod.snd) ∧
      place = (behind.head?.map Prod.fst).getD finish ∧
      fault.Accuses (behind.head?.map Prod.snd) := by
  obtain ⟨stopped, h, herror⟩ := except_mapError_eq_error.1 h
  unfold whole at h
  rcases (looksAt (fuelFor tokens)).ternary ⟨tokens, 0, limit, finish⟩ with
    ⟨stop, hstop, hother⟩ | ⟨ts, c', ending, hover, htwin, hfault⟩
  · rw [hstop] at h
    cases h
    exact absurd herror (hother place fault)
  have hresult := htwin _ _ (.refl hover)
  have hnext : c'.next? = c'.tokens.head?.map Prod.snd := List.head?_map
  have hfinish : c'.finish = finish := hover.finish
  obtain ⟨passed, htokens, rfl⟩ := hover.tokens
  rw [hresult] at h
  refine ⟨passed, c'.tokens, htokens, ?_⟩
  rw [← hnext, ← hfinish, ← position_eq]
  cases ending with
  | stop x =>
    obtain ⟨hblame, hstarts⟩ := hfault x rfl
    cases h
    cases herror
    refine ⟨⟨hstarts, ?_, fun t => not_starts_of_next htwin⟩, rfl, hblame⟩
    rintro hend ⟨e, he⟩
    have hread := complete_of_derives he (fuelFor tokens) _ c' hover
      fun p s hp => by simp [hend] at hp
    rw [hresult] at hread
    rcases hread with hread | ⟨stop, hread, hstop⟩ <;> cases hread
    cases hstop
  | read e =>
    have he := (reads_ternary hresult).derives hover
    cases hleft : c'.tokens with
    | nil =>
      simp only [Ending.result, bind, Except.bind, hleft] at h
      cases h
    | cons first rest =>
      have htoken : c'.next? = some first.2 := next?_of_tokens hleft
      simp only [Ending.result, bind, Except.bind, hleft] at h
      cases h
      cases herror
      refine ⟨⟨.of_derives he, ?_, fun t => not_starts_of_next htwin⟩, ?_, htoken⟩
      · intro hend
        rw [hend] at htoken
        cases htoken
      · rw [position, hleft]

end Parser
end PageLayers
