import PageLayers.Expression.Parser

/-! The grammar of expressions, and what a parser passes over. -/

namespace PageLayers

/-- The kinds of phrases, from the weakest to the strongest binding. Level six is that of signs. -/
inductive Phrase where
  | ternary
  | level (l : Nat)
  | unary
  | member
  | primary

/-- The level and the meaning of an operator. -/
def Punct.operator? : Punct → Option (Nat × BinaryOp)
  | .either => some (0, .or)
  | .both => some (1, .and)
  | .equal => some (2, .eq)
  | .differs => some (2, .ne)
  | .atMost => some (3, .le)
  | .atLeast => some (3, .ge)
  | .less => some (3, .lt)
  | .greater => some (3, .gt)
  | .plus => some (4, .add)
  | .minus => some (4, .sub)
  | .star => some (5, .mul)
  | .slash => some (5, .div)
  | .percent => some (5, .rem)
  | _ => none

/-- The names that stand for values of their own. -/
def constant? (name : String) : Option Json :=
  if name = "true" then some (.bool true)
  else if name = "false" then some (.bool false)
  else if name = "null" then some .null
  else none

/-- The tokens of a phrase and the expression that they make up. -/
inductive Derives : Phrase → List Token → Expr → Prop where
  | ofLevel {ts e} (h : Derives (.level 0) ts e) : Derives .ternary ts e
  | ternary {cs ys ns condition yes no} (hcondition : Derives (.level 0) cs condition)
      (hyes : Derives .ternary ys yes) (hno : Derives .ternary ns no) :
      Derives .ternary (cs ++ .punct .question :: ys ++ .punct .colon :: ns)
        (.ternary condition yes no)
  | tighter {l ts e} (hl : l < Parser.levels) (h : Derives (.level (l + 1)) ts e) :
      Derives (.level l) ts e
  | binary {l p op ls rs left right} (hp : p.operator? = some (l, op))
      (hleft : Derives (.level l) ls left) (hright : Derives (.level (l + 1)) rs right) :
      Derives (.level l) (ls ++ .punct p :: rs) (.binary op left right)
  | ofUnary {ts e} (h : Derives .unary ts e) : Derives (.level Parser.levels) ts e
  | not {ts e} (h : Derives .unary ts e) : Derives .unary (.punct .bang :: ts) (.unary .not e)
  | neg {ts e} (h : Derives .unary ts e) : Derives .unary (.punct .minus :: ts) (.unary .neg e)
  | ofMember {ts e} (h : Derives .member ts e) : Derives .unary ts e
  | field {ts e name} (h : Derives .member ts e) :
      Derives .member (ts ++ [.punct .dot, .ident name]) (.get e (.field name))
  | index {ts e x i} (h : Derives .member ts e) (hx : Parser.indexOf? x = some i) :
      Derives .member (ts ++ [.punct .openBracket, .number x, .punct .closeBracket])
        (.get e (.index i))
  | ofPrimary {ts e} (h : Derives .primary ts e) : Derives .member ts e
  | number {x j} (hx : Json.ofFloat? x = some j) : Derives .primary [.number x] (.literal j)
  | str {s} : Derives .primary [.str s] (.literal (.str s))
  | constant {name j} (hname : constant? name = some j) :
      Derives .primary [.ident name] (.literal j)
  | var {name} (hname : constant? name = none) : Derives .primary [.ident name] (.var name)
  | call {name} {args : List (List Token × Expr)} (hname : constant? name = none)
      (hargs : ∀ a ∈ args, Derives .ternary a.1 a.2) :
      Derives .primary
        (.ident name :: .punct .openParen ::
          [Token.punct .comma].intercalate (args.map Prod.fst) ++ [.punct .closeParen])
        (.call name (args.map Prod.snd))
  | parens {ts e} (h : Derives .ternary ts e) :
      Derives .primary (.punct .openParen :: ts ++ [.punct .closeParen]) e

variable {k : Phrase} {ts us : List Token} {e : Expr} {l n : Nat} {p : Punct} {op : BinaryOp}

/-- No phrase is empty. -/
theorem Derives.length_pos (h : Derives k ts e) : 0 < ts.length := by
  induction h with
  | ofLevel _ ih => exact ih
  | ternary =>
    simp only [List.length_append, List.length_cons]
    omega
  | tighter _ _ ih => exact ih
  | binary =>
    simp only [List.length_append, List.length_cons]
    omega
  | ofUnary _ ih => exact ih
  | not => simp
  | neg => simp
  | ofMember _ ih => exact ih
  | field => simp
  | index => simp
  | ofPrimary _ ih => exact ih
  | number => simp
  | str => simp
  | constant => simp
  | var => simp
  | call => simp
  | parens => simp

theorem lookup_operators :
    (Parser.operators l).lookup p = (p.operator?.filter fun o => o.1 = l).map Prod.snd := by
  match l with
  | 0 | 1 | 2 | 3 | 4 | 5 => cases p <;> rfl
  | n + 6 => cases p <;> simp [Parser.operators, Punct.operator?, Option.filter]

theorem lookup_operators_eq_some :
    (Parser.operators l).lookup p = some op ↔ p.operator? = some (l, op) := by
  rw [lookup_operators]
  cases p.operator? with
  | none => simp
  | some o =>
    obtain ⟨l', op'⟩ := o
    by_cases hl : l' = l
    · simp [Option.filter, hl]
    · simp [Option.filter, hl]

theorem level_lt (h : p.operator? = some (l, op)) : l < Parser.levels := by
  cases p <;> simp [Punct.operator?] at h <;> obtain ⟨rfl, -⟩ := h <;> decide

namespace Parser.Cursor

variable {c c' c'' : Cursor}

/-- The tokens that are left, without their places. -/
def ahead (c : Cursor) : List Token := c.tokens.map Prod.snd

/-- From one place to another the parser passes over tokens, and changes nothing else. -/
structure Over (c : Cursor) (ts : List Token) (c' : Cursor) : Prop where
  tokens : ∃ passed, c.tokens = passed ++ c'.tokens ∧ passed.map Prod.snd = ts
  depth : c'.depth = c.depth
  limit : c'.limit = c.limit
  finish : c'.finish = c.finish

theorem Over.refl : c.Over [] c := ⟨⟨[], rfl, rfl⟩, rfl, rfl, rfl⟩

theorem Over.trans (h : c.Over ts c') (h' : c'.Over us c'') : c.Over (ts ++ us) c'' := by
  obtain ⟨⟨passed, htokens, rfl⟩, hdepth, hlimit, hfinish⟩ := h
  obtain ⟨⟨passed', htokens', rfl⟩, hdepth', hlimit', hfinish'⟩ := h'
  refine ⟨⟨passed ++ passed', ?_, List.map_append⟩, hdepth'.trans hdepth, hlimit'.trans hlimit,
    hfinish'.trans hfinish⟩
  rw [htokens, htokens', List.append_assoc]

theorem Over.ahead_eq (h : c.Over ts c') : c.ahead = ts ++ c'.ahead := by
  obtain ⟨⟨passed, htokens, rfl⟩, -⟩ := h
  simp [ahead, htokens]

theorem Over.length_eq (h : c.Over ts c') : c.tokens.length = ts.length + c'.tokens.length := by
  obtain ⟨⟨passed, htokens, rfl⟩, -⟩ := h
  simp [htokens]

def next? (c : Cursor) : Option Token := c.ahead.head?

theorem over_advance {t : Token} (h : c.next? = some t) : c.Over [t] c.advance := by
  obtain ⟨tokens, depth, limit, finish⟩ := c
  cases tokens with
  | nil => cases h
  | cons first rest =>
    obtain rfl : first.2 = t := Option.some.inj h
    exact ⟨⟨[first], rfl, rfl⟩, rfl, rfl, rfl⟩

theorem Over.next?_eq {t : Token} (h : c.Over (t :: ts) c') : c.next? = some t := by
  rw [next?, h.ahead_eq]
  rfl

/-- The first of the tokens passed over comes off. -/
theorem Over.advance {t : Token} (h : c.Over (t :: ts) c') : c.advance.Over ts c' := by
  obtain ⟨⟨passed, htokens, hpassed⟩, hdepth, hlimit, hfinish⟩ := h
  cases passed with
  | nil => cases hpassed
  | cons first rest =>
    refine ⟨⟨rest, ?_, (List.cons.inj hpassed).2⟩, hdepth, hlimit, hfinish⟩
    simp [Cursor.advance, htokens]

theorem eat?_eq : c.eat? p = if c.next? = some (.punct p) then some c.advance else none := by
  obtain ⟨tokens, depth, limit, finish⟩ := c
  match tokens with
  | [] => rfl
  | (_, .number _) :: _ => rfl
  | (_, .str _) :: _ => rfl
  | (_, .ident _) :: _ => rfl
  | (_, .punct q) :: _ => simp [eat?, next?, ahead]

/-- The place at some more depth. -/
def deeper (c : Cursor) (n : Nat) : Cursor := { c with depth := c.depth + n }

@[simp] theorem deeper_deeper {m : Nat} : (c.deeper n).deeper m = c.deeper (n + m) := by
  simp [deeper, Nat.add_assoc]

@[simp] theorem leave_deeper : (c.deeper n).leave n = c := by
  simp [deeper, leave]

@[simp] theorem tokens_deeper : (c.deeper n).tokens = c.tokens := rfl

@[simp] theorem advance_deeper : (c.deeper n).advance = c.advance.deeper n := rfl

theorem Over.deeper (h : c.Over ts c') : (c.deeper n).Over ts (c'.deeper n) := by
  obtain ⟨htokens, hdepth, hlimit, hfinish⟩ := h
  exact ⟨htokens, congrArg (· + n) hdepth, hlimit, hfinish⟩

/-- The depth that was entered is still there after the tokens. -/
theorem Over.exists_deeper (h : (c.deeper n).Over ts c') :
    ∃ c'', c' = c''.deeper n ∧ c.Over ts c'' := by
  obtain ⟨htokens, hdepth, hlimit, hfinish⟩ := h
  obtain ⟨tokens, depth, limit, finish⟩ := c'
  obtain rfl : depth = c.depth + n := hdepth
  exact ⟨⟨tokens, c.depth, limit, finish⟩, rfl, htokens, rfl, hlimit, hfinish⟩

theorem enter_eq : c.enter =
    if c.depth + 1 > c.limit then .error (.refused .tooDeep) else .ok (c.deeper 1) :=
  rfl

theorem operator?_eq_some : operator? l c = some (op, c') ↔
    ∃ p, c.next? = some (.punct p) ∧ p.operator? = some (l, op) ∧ c' = c.advance := by
  obtain ⟨tokens, depth, limit, finish⟩ := c
  match tokens with
  | [] => simp [operator?, next?, ahead]
  | (_, .number _) :: _ => simp [operator?, next?, ahead]
  | (_, .str _) :: _ => simp [operator?, next?, ahead]
  | (_, .ident _) :: _ => simp [operator?, next?, ahead]
  | (_, .punct q) :: _ =>
    simp only [operator?, Option.map_eq_some_iff, lookup_operators_eq_some]
    constructor
    · rintro ⟨op, hop, heq⟩
      cases heq
      exact ⟨q, rfl, hop, rfl⟩
    · rintro ⟨p, hp, hop, rfl⟩
      obtain rfl : q = p := by simpa [next?, ahead] using hp
      exact ⟨op, hop, rfl⟩

end Parser.Cursor

namespace Parser

/-- Goes on after a name that has no value of its own. -/
def named (fuel : Nat) (name : String) (c : Cursor) : Except Stop (Expr × Cursor) :=
  match c.eat? .openParen with
  | none => .ok (.var name, c)
  | some c => do
    let c ← c.enter
    match c.eat? .closeParen with
    | some c => return (.call name [], c.leave 1)
    | none =>
      let (args, c) ← arguments fuel c
      return (.call name args, c.leave 1)

theorem primary_of_ident {c : Cursor} {fuel place : Nat} {name : String}
    {rest : List (Nat × Token)} (h : c.tokens = (place, .ident name) :: rest) :
    primary (fuel + 1) c =
      match constant? name with
      | some j => .ok (.literal j, c.advance)
      | none => named fuel name c.advance := by
  unfold constant?
  simp only [primary, h]
  by_cases htrue : name = "true"
  · rw [if_pos htrue, if_pos htrue]
  · rw [if_neg htrue, if_neg htrue]
    by_cases hfalse : name = "false"
    · rw [if_pos hfalse, if_pos hfalse]
    · rw [if_neg hfalse, if_neg hfalse]
      by_cases hnull : name = "null"
      · rw [if_pos hnull, if_pos hnull]
      · rw [if_neg hnull, if_neg hnull]
        rfl

theorem primary_of_punct {c : Cursor} {fuel place : Nat} {p : Punct} {rest : List (Nat × Token)}
    (h : c.tokens = (place, .punct p) :: rest) (hp : p ≠ .openParen) :
    primary (fuel + 1) c = c.fail (.misplaced p) := by
  cases p <;> simp_all [primary]

end Parser

end PageLayers
