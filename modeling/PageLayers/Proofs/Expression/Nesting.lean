import Mathlib.Order.Monotone.Basic
import PageLayers.Proofs.Expression.ParserComplete

/-! How deeply an expression that the parser accepts is nested. The depth that the parser counts is
left again at the end of a chain of operators or members, and the chain was put on top of operands
that were read before it. So a chain is no longer than the depth allows, but the chains of all
levels come one on top of the other, and again in each parenthesis. -/

namespace PageLayers

namespace Expr

mutual

/-- The most nodes on a way down to a leaf. -/
def height : Expr → Nat
  | literal _ => 0
  | var _ => 0
  | get e _ => 1 + height e
  | unary _ e => 1 + height e
  | binary _ l r => 1 + max (height l) (height r)
  | ternary c yes no => 1 + max (height c) (max (height yes) (height no))
  | call _ args => 1 + heightOf args

def heightOf : List Expr → Nat
  | [] => 0
  | e :: rest => max (height e) (heightOf rest)

end

variable {e : Expr} {args : List Expr}

theorem height_le_heightOf (h : e ∈ args) : e.height ≤ heightOf args := by
  induction args with
  | nil => cases h
  | cons a rest ih =>
    rw [heightOf]
    rcases List.mem_cons.1 h with rfl | h
    · exact Nat.le_max_left _ _
    · exact Nat.le_trans (ih h) (Nat.le_max_right _ _)

theorem exists_height_eq_heightOf (h : args ≠ []) : ∃ e ∈ args, e.height = heightOf args := by
  induction args with
  | nil => exact absurd rfl h
  | cons a rest ih =>
    rw [heightOf]
    by_cases hrest : heightOf rest ≤ a.height
    · exact ⟨a, List.mem_cons_self, (Nat.max_eq_left hrest).symm⟩
    · have hne : rest ≠ [] := by
        rintro rfl
        exact hrest (Nat.zero_le _)
      obtain ⟨e, he, hheight⟩ := ih hne
      exact ⟨e, List.mem_cons_of_mem _ he, by omega⟩

end Expr

/-- The nodes on a way down to a leaf: those of a chain that may still get longer, and of the others
those that are counted and those that are stacked. -/
structure Tally where
  chain : Nat
  counted : Nat
  stacked : Nat

namespace Tally

def total (t : Tally) : Nat := t.chain + t.counted + t.stacked

/-- The chain has come to its end. On top of a leaf its nodes are counted, and on top of an operand
that has nodes itself they are stacked. -/
def closed (t : Tally) : Tally :=
  if t.counted = 0 then ⟨0, t.chain, t.stacked⟩ else ⟨0, t.counted, t.stacked + t.chain⟩

/-- One node of the chain more. -/
def longer (t : Tally) : Tally := { t with chain := t.chain + 1 }

/-- One node more that is no part of a chain, and is counted. -/
def deeper (t : Tally) : Tally := { t.closed with counted := t.closed.counted + 1 }

/-- An operator more, for the right operand. With a leaf for its operand it is the first of a chain
on top of that leaf; other operands are read one level deeper than it. -/
def operand (t : Tally) : Tally := if t.total = 0 then t.longer else t.deeper

variable {t : Tally}

@[simp] theorem chain_closed : t.closed.chain = 0 := by
  unfold closed
  split <;> rfl

@[simp] theorem chain_deeper : t.deeper.chain = 0 := chain_closed

@[simp] theorem total_closed : t.closed.total = t.total := by
  unfold closed total
  split <;> simp only <;> omega

@[simp] theorem total_longer : t.longer.total = t.total + 1 := by
  simp only [longer, total]
  omega

@[simp] theorem total_deeper : t.deeper.total = t.total + 1 := by
  rw [← @total_closed t]
  simp only [deeper, total]
  omega

@[simp] theorem total_operand : t.operand.total = t.total + 1 := by
  unfold operand
  split
  · exact total_longer
  · exact total_deeper

end Tally

/-- A way through a phrase, from its expression down to a leaf. The operators of one level that it
leaves to the left are a chain, and so are members. A chain comes to its end where another starts
and where a node is passed that is no part of one. -/
inductive Phrase.Way : Phrase → List Token → Expr → Tally → Prop where
  | ofLevel {ts e t} (h : Way (.level 0) ts e t) : Way .ternary ts e t
  | condition {cs ys ns condition yes no t} (h : Way (.level 0) cs condition t)
      (hyes : Derives .ternary ys yes) (hno : Derives .ternary ns no) :
      Way .ternary (cs ++ .punct .question :: ys ++ .punct .colon :: ns)
        (.ternary condition yes no) t.deeper
  | yes {cs ys ns condition yes no t} (hcondition : Derives (.level 0) cs condition)
      (h : Way .ternary ys yes t) (hno : Derives .ternary ns no) :
      Way .ternary (cs ++ .punct .question :: ys ++ .punct .colon :: ns)
        (.ternary condition yes no) t.deeper
  | no {cs ys ns condition yes no t} (hcondition : Derives (.level 0) cs condition)
      (hyes : Derives .ternary ys yes) (h : Way .ternary ns no t) :
      Way .ternary (cs ++ .punct .question :: ys ++ .punct .colon :: ns)
        (.ternary condition yes no) t.deeper
  | tighter {l ts e t} (hl : l < Parser.levels) (h : Way (.level (l + 1)) ts e t) :
      Way (.level l) ts e t.closed
  | left {l p op ls rs left right t} (hp : p.operator? = some (l, op))
      (h : Way (.level l) ls left t) (hright : Derives (.level (l + 1)) rs right) :
      Way (.level l) (ls ++ .punct p :: rs) (.binary op left right) t.longer
  | right {l p op ls rs left right t} (hp : p.operator? = some (l, op))
      (hleft : Derives (.level l) ls left) (h : Way (.level (l + 1)) rs right t) :
      Way (.level l) (ls ++ .punct p :: rs) (.binary op left right) t.operand
  | ofUnary {ts e t} (h : Way .unary ts e t) : Way (.level Parser.levels) ts e t
  | not {ts e t} (h : Way .unary ts e t) : Way .unary (.punct .bang :: ts) (.unary .not e) t.deeper
  | neg {ts e t} (h : Way .unary ts e t) : Way .unary (.punct .minus :: ts) (.unary .neg e) t.deeper
  | ofMember {ts e t} (h : Way .member ts e t) : Way .unary ts e t
  | field {ts e t name} (h : Way .member ts e t) :
      Way .member (ts ++ [.punct .dot, .ident name]) (.get e (.field name)) t.longer
  | index {ts e t x i} (h : Way .member ts e t) (hx : Parser.indexOf? x = some i) :
      Way .member (ts ++ [.punct .openBracket, .number x, .punct .closeBracket])
        (.get e (.index i)) t.longer
  | ofPrimary {ts e t} (h : Way .primary ts e t) : Way .member ts e t.closed
  | leaf {token e} (h : Derives .primary [token] e) : Way .primary [token] e ⟨0, 0, 0⟩
  | noArgument {name} (hname : constant? name = none) :
      Way .primary [.ident name, .punct .openParen, .punct .closeParen] (.call name []) ⟨0, 1, 0⟩
  | argument {name} {args : List (List Token × Expr)} {a t} (hname : constant? name = none)
      (hargs : ∀ a ∈ args, Derives .ternary a.1 a.2) (ha : a ∈ args) (h : Way .ternary a.1 a.2 t) :
      Way .primary
        (.ident name :: .punct .openParen ::
          [Token.punct .comma].intercalate (args.map Prod.fst) ++ [.punct .closeParen])
        (.call name (args.map Prod.snd)) t.deeper
  | parens {ts e t} (h : Way .ternary ts e t) :
      Way .primary (.punct .openParen :: ts ++ [.punct .closeParen]) e t

namespace Phrase

/-- How many chains may lie on top of one another in a phrase, outside of all parentheses. -/
def chains : Phrase → Nat
  | ternary => 0
  | level l => Parser.levels + 1 - l
  | unary => 1
  | member => 1
  | primary => 0

variable {k : Phrase} {ts : List Token} {e : Expr} {t : Tally}

theorem Way.derives (h : k.Way ts e t) : Derives k ts e := by
  induction h with
  | ofLevel _ ih => exact .ofLevel ih
  | condition _ hyes hno ih => exact .ternary ih hyes hno
  | yes hcondition _ hno ih => exact .ternary hcondition ih hno
  | no hcondition hyes _ ih => exact .ternary hcondition hyes ih
  | tighter hl _ ih => exact .tighter hl ih
  | left hp _ hright ih => exact .binary hp ih hright
  | right hp hleft _ ih => exact .binary hp hleft ih
  | ofUnary _ ih => exact .ofUnary ih
  | not _ ih => exact .not ih
  | neg _ ih => exact .neg ih
  | ofMember _ ih => exact .ofMember ih
  | field _ ih => exact .field ih
  | index _ hx ih => exact .index ih hx
  | ofPrimary _ ih => exact .ofPrimary ih
  | leaf h => exact h
  | noArgument hname => exact @Derives.call _ [] hname nofun
  | argument hname hargs => exact .call hname hargs
  | parens _ ih => exact .parens ih

theorem Way.total_le_height (h : k.Way ts e t) : t.total ≤ e.height := by
  induction h with
  | ofLevel _ ih | ofUnary _ ih | ofMember _ ih | parens _ ih => exact ih
  | tighter _ _ ih | ofPrimary _ ih => exact Tally.total_closed.trans_le ih
  | left _ _ _ ih | field _ ih | index _ _ ih =>
    rw [Tally.total_longer, Expr.height]
    omega
  | right _ _ _ ih =>
    rw [Tally.total_operand, Expr.height]
    omega
  | condition _ _ _ ih | yes _ _ _ ih | no _ _ _ ih | not _ ih | neg _ ih =>
    rw [Tally.total_deeper, Expr.height]
    omega
  | leaf => exact Nat.zero_le _
  | noArgument => exact Nat.le_refl _
  | argument _ _ ha _ ih =>
    have hargs := Expr.height_le_heightOf (List.mem_map_of_mem (f := Prod.snd) ha)
    rw [Tally.total_deeper, Expr.height]
    omega

/-- Some way passes as many nodes as there are at the most. -/
theorem exists_way (h : Derives k ts e) : ∃ t, k.Way ts e t ∧ t.total = e.height := by
  induction h with
  | ofLevel _ ih =>
    obtain ⟨t, hway, htotal⟩ := ih
    exact ⟨t, .ofLevel hway, htotal⟩
  | @ternary _ _ _ condition yes no hcondition hyes hno ihcondition ihyes ihno =>
    obtain ⟨t₁, hway₁, htotal₁⟩ := ihcondition
    obtain ⟨t₂, hway₂, htotal₂⟩ := ihyes
    obtain ⟨t₃, hway₃, htotal₃⟩ := ihno
    rw [Expr.height]
    by_cases hfirst : max yes.height no.height ≤ condition.height
    · exact ⟨_, .condition hway₁ hyes hno, by rw [Tally.total_deeper]; omega⟩
    · by_cases hsecond : no.height ≤ yes.height
      · exact ⟨_, .yes hcondition hway₂ hno, by rw [Tally.total_deeper]; omega⟩
      · exact ⟨_, .no hcondition hyes hway₃, by rw [Tally.total_deeper]; omega⟩
  | tighter hl _ ih =>
    obtain ⟨t, hway, htotal⟩ := ih
    exact ⟨_, .tighter hl hway, Tally.total_closed.trans htotal⟩
  | @binary _ _ _ _ _ left right hp hleft hright ihleft ihright =>
    obtain ⟨t, hway, htotal⟩ := ihleft
    obtain ⟨t', hway', htotal'⟩ := ihright
    rw [Expr.height]
    by_cases hmore : left.height ≤ right.height
    · exact ⟨_, .right hp hleft hway', by rw [Tally.total_operand]; omega⟩
    · exact ⟨_, .left hp hway hright, by rw [Tally.total_longer]; omega⟩
  | ofUnary _ ih =>
    obtain ⟨t, hway, htotal⟩ := ih
    exact ⟨t, .ofUnary hway, htotal⟩
  | not _ ih =>
    obtain ⟨t, hway, htotal⟩ := ih
    exact ⟨_, .not hway, by rw [Tally.total_deeper, Expr.height]; omega⟩
  | neg _ ih =>
    obtain ⟨t, hway, htotal⟩ := ih
    exact ⟨_, .neg hway, by rw [Tally.total_deeper, Expr.height]; omega⟩
  | ofMember _ ih =>
    obtain ⟨t, hway, htotal⟩ := ih
    exact ⟨t, .ofMember hway, htotal⟩
  | field _ ih =>
    obtain ⟨t, hway, htotal⟩ := ih
    exact ⟨_, .field hway, by rw [Tally.total_longer, Expr.height]; omega⟩
  | index _ hx ih =>
    obtain ⟨t, hway, htotal⟩ := ih
    exact ⟨_, .index hway hx, by rw [Tally.total_longer, Expr.height]; omega⟩
  | ofPrimary _ ih =>
    obtain ⟨t, hway, htotal⟩ := ih
    exact ⟨_, .ofPrimary hway, Tally.total_closed.trans htotal⟩
  | number hx => exact ⟨_, .leaf (.number hx), rfl⟩
  | str => exact ⟨_, .leaf .str, rfl⟩
  | constant hname => exact ⟨_, .leaf (.constant hname), rfl⟩
  | var hname => exact ⟨_, .leaf (.var hname), rfl⟩
  | @call name args hname hargs ih =>
    by_cases hne : args = []
    · subst hne
      exact ⟨_, .noArgument hname, rfl⟩
    · obtain ⟨e, he, hheight⟩ := @Expr.exists_height_eq_heightOf (args.map Prod.snd)
        (by simpa using hne)
      obtain ⟨a, ha, rfl⟩ := List.mem_map.1 he
      obtain ⟨t, hway, htotal⟩ := ih a ha
      exact ⟨_, .argument hname hargs ha hway, by rw [Tally.total_deeper, Expr.height]; omega⟩
  | parens _ ih =>
    obtain ⟨t, hway, htotal⟩ := ih
    exact ⟨t, .parens hway, htotal⟩

end Phrase

namespace Parser

open Cursor

/-- The most that a conditional may be nested when there is room for `r` more levels. -/
def tallest : Nat → Nat
  | 0 => 0
  | r + 1 => 1 + ((levels + 1) * r + tallest r)

/-- The most that a phrase may be nested when there is room for `r` more levels. -/
def ceiling (k : Phrase) (r : Nat) : Nat := k.chains * r + tallest r

variable {l fuel r r' n : Nat} {c c' : Cursor} {k k' : Phrase} {ts us : List Token} {e : Expr}
  {x : Expr × Cursor} {p : Punct} {t : Tally}

theorem ceiling_strictMono : StrictMono (ceiling k) := by
  refine strictMono_nat_of_lt_succ fun r => ?_
  have hchains : k.chains * r ≤ k.chains * (r + 1) := Nat.mul_le_mul_left _ (Nat.le_succ _)
  simp only [ceiling, tallest]
  omega

theorem ceiling_lt_succ : ceiling k r < ceiling k (r + 1) := ceiling_strictMono (Nat.lt_succ_self r)

/-- There is one chain more at a level than at the next. -/
theorem ceiling_level (hl : l < levels) :
    ceiling (.level l) r = r + ceiling (.level (l + 1)) r := by
  have hchains : (Phrase.level l).chains = (Phrase.level (l + 1)).chains + 1 := by
    simp only [Phrase.chains]
    omega
  simp only [ceiling, hchains, Nat.add_mul]
  omega

theorem ceiling_unary : ceiling .unary r = r + ceiling .primary r := by
  simp [ceiling, Phrase.chains]

theorem ceiling_level_lt_ternary : ceiling (.level 0) r < ceiling .ternary (r + 1) := by
  simp only [ceiling, tallest, Phrase.chains, Nat.sub_zero]
  omega

namespace Cursor

/-- How many levels may still be entered. -/
def room (c : Cursor) : Nat := c.limit - c.depth

theorem Over.room_eq (h : c.Over ts c') : c'.room = c.room := by
  rw [room, room, h.depth, h.limit]

@[simp] theorem room_advance : c.advance.room = c.room := rfl

theorem room_of_enter (h : c.enter = .ok (c.deeper n)) : c.room = (c.deeper 1).room + 1 := by
  rw [enter_eq] at h
  split at h
  · cases h
  · simp only [room, deeper]
    omega

theorem room_deeper (h : (c.deeper n).room = r + 1) : c.room = n + (r + 1) := by
  simp only [room, deeper] at h ⊢
  omega

end Cursor

end Parser

namespace Tally

/-- What a way may pass where there is room for `r` more levels. -/
structure Within (t : Tally) (k : Phrase) (r : Nat) : Prop where
  chain : t.chain ≤ r
  counted : t.counted ≤ r
  total : t.total ≤ Parser.ceiling k r

/-- What a way may pass of a chain that has come to `n` operators or members and of its operands. -/
structure Along (t : Tally) (k : Phrase) (n r : Nat) : Prop where
  entered : n ≤ r
  chain : t.chain ≤ n
  counted : t.counted ≤ r
  total : t.total ≤ n + Parser.ceiling k r

variable {t : Tally} {k k' : Phrase} {l n r r' : Nat}

theorem counted_closed_le (hchain : t.chain ≤ r) (hcounted : t.counted ≤ r) :
    t.closed.counted ≤ r := by
  unfold closed
  split
  · exact hchain
  · exact hcounted

theorem Within.mono (h : t.Within k r) (hr : r ≤ r')
    (hk : Parser.ceiling k r ≤ Parser.ceiling k' r') : t.Within k' r' :=
  ⟨Nat.le_trans h.chain hr, Nat.le_trans h.counted hr, Nat.le_trans h.total hk⟩

theorem Within.deeper (h : t.Within k r) (hr : r < r')
    (hk : Parser.ceiling k r < Parser.ceiling k' r') : t.deeper.Within k' r' := by
  have hcounted := counted_closed_le h.chain h.counted
  have htotal := h.total
  refine ⟨?_, Nat.lt_of_le_of_lt hcounted hr, ?_⟩
  · rw [chain_deeper]
    exact Nat.zero_le _
  · rw [total_deeper]
    omega

/-- A chain starts. -/
theorem Within.along (h : t.Within k r) : t.closed.Along k 0 r := by
  refine ⟨Nat.zero_le _, Nat.le_of_eq chain_closed, counted_closed_le h.chain h.counted, ?_⟩
  rw [total_closed, Nat.zero_add]
  exact h.total

theorem Along.longer (h : t.Along k n r) (hn : n < r) : t.longer.Along k (n + 1) r := by
  refine ⟨hn, Nat.succ_le_succ h.chain, h.counted, ?_⟩
  have htotal := h.total
  rw [total_longer]
  omega

/-- The right operand of the last operator has as much less room as there are operators. -/
theorem Within.operand (h : t.Within k r') (hr : n + 1 + r' = r) :
    t.operand.Along k (n + 1) r := by
  unfold Tally.operand
  split
  · rename_i hleaf
    simp only [Tally.total] at hleaf
    refine ⟨by omega, ?_, ?_, ?_⟩ <;> simp only [Tally.longer, Tally.total] <;> omega
  · have hdeeper : t.deeper.Within k r := h.deeper (by omega) (Parser.ceiling_strictMono (by omega))
    refine ⟨by omega, ?_, hdeeper.counted, Nat.le_trans hdeeper.total (Nat.le_add_left _ _)⟩
    rw [chain_deeper]
    exact Nat.zero_le _

/-- A phrase that may be one chain more than its operands. -/
theorem Along.within (h : t.Along k n r) (hk : Parser.ceiling k' r = r + Parser.ceiling k r) :
    t.Within k' r := by
  have hentered := h.entered
  refine ⟨Nat.le_trans h.chain hentered, h.counted, Nat.le_trans h.total ?_⟩
  omega

end Tally

namespace Parser

open Cursor Tally

/-- What a way may pass of a phrase that the parser has read. Of levels and members this is said at
a place where they may go on, of the operators and the members that were read so far. -/
def Confined (t : Tally) : Phrase → List Token → Expr → Prop
  | .ternary, ts, _ => ∀ fuel c c' x, c.Over ts c' → c'.Stops .ternary →
      ternary fuel c = .ok x → t.Within .ternary c.room
  | .level l, ts, e => ∀ fuel c c' x, c.Over ts c' →
      (c'.Stops (.level l) → binary fuel l c = .ok x → t.Within (.level l) c.room) ∧
      (l < levels → c'.Stops (.level (l + 1)) → binary fuel l c = .ok x →
        ∃ fuel' n, chain fuel' l n e (c'.deeper n) = .ok x ∧ t.Along (.level (l + 1)) n c.room)
  | .unary, ts, _ => ∀ fuel c c' x, c.Over ts c' → c'.Stops .unary →
      unary fuel c = .ok x → t.Within .unary c.room
  | .member, ts, e => ∀ fuel c c' x, c.Over ts c' → c'.Stops .primary →
      (do let (e, c) ← primary fuel c; suffixes fuel 0 e c) = .ok x →
        ∃ fuel' n, suffixes fuel' n e (c'.deeper n) = .ok x ∧ t.Along .primary n c.room
  | .primary, ts, _ => ∀ fuel c c' x, c.Over ts c' → c'.Stops .primary →
      primary fuel c = .ok x → t.Within .primary c.room

variable {l fuel n : Nat} {c c' : Cursor} {ts us cs ys ns ls rs : List Token} {e : Expr}
  {x : Expr × Cursor} {p : Punct} {t : Tally} {condition yes no left right : Expr} {op : BinaryOp}

theorem confined_ofLevel (h : Confined t (.level 0) ts e) : Confined t .ternary ts e := by
  intro fuel c c' x hover hstops hok
  cases fuel with
  | zero => cases hok
  | succ fuel =>
    rw [ternary] at hok
    obtain ⟨henter, hok⟩ := enter_leads.bind_eq_ok hok
    obtain ⟨y, hread, -⟩ := except_bind_eq_ok.1 hok
    have hlevel : c'.Stops (.level 0) := hstops.mono (Nat.zero_le _)
    rw [room_of_enter henter]
    exact ((h _ _ _ _ hover.deeper).1 hlevel hread).mono (Nat.le_succ _)
      (Nat.le_of_lt ceiling_level_lt_ternary)

/-- The three parts of a conditional are read where there is room for `r` more levels. -/
structure Parts (cs ys ns : List Token) (condition : Expr) (r : Nat) : Prop where
  condition : ∀ {t}, Confined t (.level 0) cs condition → t.Within (.level 0) r
  yes : ∀ {t e}, Confined t .ternary ys e → t.Within .ternary r
  no : ∀ {t e}, Confined t .ternary ns e → t.Within .ternary r

theorem parts_of_ternary (hcondition : Derives (.level 0) cs condition)
    (hyes : Derives .ternary ys yes)
    (hover : c.Over (cs ++ .punct .question :: ys ++ .punct .colon :: ns) c')
    (hstops : c'.Stops .ternary) (hok : ternary fuel c = .ok x) :
    ∃ r, c.room = r + 1 ∧ Parts cs ys ns condition r := by
  cases fuel with
  | zero => cases hok
  | succ fuel =>
    obtain ⟨c₂, hasked, hcolon⟩ := hover.split
    obtain ⟨c₁, hcs, hquestion⟩ := hasked.split
    have hfirst : c₁.Stops (.level 0) := hquestion.stops_question
    have hsecond : c₂.Stops .ternary := hcolon.stops fun s hs => by cases hs
    rw [ternary] at hok
    obtain ⟨henter, hok⟩ := enter_leads.bind_eq_ok hok
    obtain ⟨hread₁, hok⟩ :=
      ((complete_of_derives hcondition fuel _ _ hcs.deeper).1 hfirst).bind_eq_ok hok
    dsimp only at hok
    rw [eat?_of_next hquestion.deeper.next?_eq] at hok
    obtain ⟨hread₂, hok⟩ := (complete_of_derives hyes fuel _ _ hquestion.advance.deeper
      hsecond).bind_eq_ok hok
    obtain ⟨-, hok⟩ := (expect_leads hcolon.deeper.next?_eq).bind_eq_ok hok
    obtain ⟨y, hread₃, -⟩ := except_bind_eq_ok.1 hok
    have hroom₂ : (c₁.deeper 1).advance.room = (c.deeper 1).room := hcs.deeper.room_eq
    have hroom₃ : (c₂.deeper 1).advance.room = (c.deeper 1).room := hasked.deeper.room_eq
    refine ⟨_, room_of_enter henter, ⟨fun h => ?_, fun h => ?_, fun h => ?_⟩⟩
    · exact (h _ _ _ _ hcs.deeper).1 hfirst hread₁
    · rw [← hroom₂]
      exact h _ _ _ _ hquestion.advance.deeper hsecond hread₂
    · rw [← hroom₃]
      exact h _ _ _ _ hcolon.advance.deeper hstops hread₃

theorem confined_part {k : Phrase} (hcondition : Derives (.level 0) cs condition)
    (hyes : Derives .ternary ys yes) (hk : ∀ r, ceiling k r < ceiling .ternary (r + 1))
    (h : ∀ {r}, Parts cs ys ns condition r → t.Within k r) :
    Confined t.deeper .ternary (cs ++ .punct .question :: ys ++ .punct .colon :: ns)
      (.ternary condition yes no) := by
  intro fuel c c' x hover hstops hok
  obtain ⟨r, hroom, hparts⟩ := parts_of_ternary hcondition hyes hover hstops hok
  rw [hroom]
  exact (h hparts).deeper (Nat.lt_succ_self r) (hk r)

/-- What holds where operators of the level may follow holds where the level is read to its end. -/
theorem confined_level (hl : l < levels)
    (h : ∀ fuel c c' x, c.Over ts c' → c'.Stops (.level (l + 1)) → binary fuel l c = .ok x →
      ∃ fuel' n, chain fuel' l n e (c'.deeper n) = .ok x ∧ t.Along (.level (l + 1)) n c.room) :
    Confined t (.level l) ts e := by
  intro fuel c c' x hover
  refine ⟨fun hstops hok => ?_, fun _ hstops hok => h fuel c c' x hover hstops hok⟩
  obtain ⟨_, n, -, halong⟩ := h fuel c c' x hover (hstops.mono (Nat.le_succ _)) hok
  exact halong.within (ceiling_level hl)

theorem confined_tighter (hl : l < levels) (hderives : Derives (.level (l + 1)) ts e)
    (h : Confined t (.level (l + 1)) ts e) : Confined t.closed (.level l) ts e := by
  refine confined_level hl fun fuel c c' x hover hstops hok => ?_
  cases fuel with
  | zero => cases hok
  | succ fuel =>
    rw [binary, if_neg (Nat.ne_of_lt hl)] at hok
    obtain ⟨hread, hok⟩ :=
      ((complete_of_derives hderives fuel c c' hover).1 hstops).bind_eq_ok hok
    exact ⟨fuel, 0, hok, ((h fuel c c' _ hover).1 hstops hread).along⟩

/-- A chain goes on with an operator and its right operand, which is read one level deeper than all
operators before it. -/
theorem chain_of_operand (hp : p.operator? = some (l, op))
    (hright : Derives (.level (l + 1)) rs right) (hover : c.Over (.punct p :: rs) c')
    (hstops : c'.Stops (.level (l + 1))) (hok : chain fuel l n left (c.deeper n) = .ok x) :
    ∃ fuel' r, n + 1 + r = c.room ∧
      chain fuel' l (n + 1) (.binary op left right) (c'.deeper (n + 1)) = .ok x ∧
      ∀ {t}, Confined t (.level (l + 1)) rs right → t.Within (.level (l + 1)) r := by
  cases fuel with
  | zero => cases hok
  | succ fuel =>
    have hop : operator? l (c.deeper n) = some (op, c.advance.deeper n) :=
      operator?_eq_some.2 ⟨p, hover.next?_eq, hp, rfl⟩
    rw [chain, hop] at hok
    obtain ⟨henter, hok⟩ := enter_leads.bind_eq_ok hok
    have hroom := room_deeper (room_of_enter henter)
    rw [deeper_deeper] at hok hroom
    obtain ⟨hread, hok⟩ :=
      ((complete_of_derives hright fuel _ _ hover.advance.deeper).1 hstops).bind_eq_ok hok
    exact ⟨fuel, _, by rw [Nat.add_assoc, Nat.add_comm 1]; exact hroom.symm, hok,
      fun h => (h _ _ _ _ hover.advance.deeper).1 hstops hread⟩

theorem confined_left (hp : p.operator? = some (l, op)) (hright : Derives (.level (l + 1)) rs right)
    (h : Confined t (.level l) ls left) :
    Confined t.longer (.level l) (ls ++ .punct p :: rs) (.binary op left right) := by
  refine confined_level (level_lt hp) fun fuel c c' x hover hstops hok => ?_
  obtain ⟨c₁, hls, hrest⟩ := hover.split
  obtain ⟨fuel', n, hchain, halong⟩ :=
    (h fuel c c₁ x hls).2 (level_lt hp) (hrest.stops_operator hp) hok
  obtain ⟨fuel'', r, hroom, hchain, -⟩ := chain_of_operand hp hright hrest hstops hchain
  rw [hls.room_eq] at hroom
  exact ⟨fuel'', n + 1, hchain, halong.longer (by omega)⟩

theorem confined_right (hp : p.operator? = some (l, op)) (hleft : Derives (.level l) ls left)
    (hright : Derives (.level (l + 1)) rs right) (h : Confined t (.level (l + 1)) rs right) :
    Confined t.operand (.level l) (ls ++ .punct p :: rs) (.binary op left right) := by
  refine confined_level (level_lt hp) fun fuel c c' x hover hstops hok => ?_
  obtain ⟨c₁, hls, hrest⟩ := hover.split
  -- the way passes none of the `n` operators before this one, but the run has entered them
  obtain ⟨fuel', n, hleads⟩ :=
    (complete_of_derives hleft fuel c c₁ hls).2 (level_lt hp) (hrest.stops_operator hp)
  obtain ⟨fuel'', r, hroom, hchain, hoperand⟩ :=
    chain_of_operand hp hright hrest hstops (hleads.eq_ok hok)
  rw [hls.room_eq] at hroom
  exact ⟨fuel'', n + 1, hchain, (hoperand h).operand hroom⟩

theorem confined_ofUnary (h : Confined t .unary ts e) : Confined t (.level levels) ts e := by
  intro fuel c c' x hover
  refine ⟨fun hstops hok => ?_, fun hl => absurd hl (Nat.lt_irrefl _)⟩
  cases fuel with
  | zero => cases hok
  | succ fuel =>
    rw [binary, if_pos rfl] at hok
    exact (h fuel c c' x hover hstops hok).mono (Nat.le_refl _) (Nat.le_refl _)

theorem confined_sign {sign : UnaryOp}
    (hp : p = .bang ∧ sign = .not ∨ p = .minus ∧ sign = .neg) (h : Confined t .unary ts e) :
    Confined t.deeper .unary (.punct p :: ts) (.unary sign e) := by
  intro fuel c c' x hover hstops hok
  cases fuel with
  | zero => cases hok
  | succ fuel =>
    have hnext := hover.next?_eq
    have hread : (do
        let c ← c.advance.enter
        let (e, c) ← unary fuel c
        return (Expr.unary sign e, c.leave 1)) = .ok x := by
      rw [unary] at hok
      rcases hp with ⟨rfl, rfl⟩ | ⟨rfl, rfl⟩
      · rwa [eat?_of_next hnext] at hok
      · rwa [eat?_of_next_ne (by simp [hnext]), eat?_of_next hnext] at hok
    obtain ⟨henter, hread⟩ := enter_leads.bind_eq_ok hread
    obtain ⟨y, hoperand, -⟩ := except_bind_eq_ok.1 hread
    have hroom := room_of_enter henter
    rw [room_advance] at hroom
    rw [hroom]
    exact (h _ _ _ _ hover.advance.deeper hstops hoperand).deeper (Nat.lt_succ_self _)
      ceiling_lt_succ

theorem confined_ofMember (hderives : Derives .member ts e) (h : Confined t .member ts e) :
    Confined t .unary ts e := by
  intro fuel c c' x hover hstops hok
  cases fuel with
  | zero => cases hok
  | succ fuel =>
    rw [unary_of_member hderives hover] at hok
    obtain ⟨_, n, -, halong⟩ := h fuel c c' x hover (hstops.mono (by decide)) hok
    exact halong.within ceiling_unary

theorem room_of_suffixes
    (hnext : c.next? = some (.punct .dot) ∨ c.next? = some (.punct .openBracket))
    (hok : suffixes fuel n e (c.deeper n) = .ok x) : n < c.room := by
  have hdeeper : (c.deeper n).next? = c.next? := rfl
  have henter : (c.advance.deeper n).enter = .ok ((c.advance.deeper n).deeper 1) := by
    cases fuel with
    | zero => cases hok
    | succ fuel =>
      rw [suffixes] at hok
      rcases hnext with hnext | hnext
      · rw [eat?_of_next (hdeeper.trans hnext)] at hok
        exact (enter_leads.bind_eq_ok hok).1
      · rw [eat?_of_next_ne (by simp [hdeeper, hnext]), eat?_of_next (hdeeper.trans hnext)] at hok
        exact (enter_leads.bind_eq_ok hok).1
  have hroom := room_deeper (room_of_enter henter)
  rw [room_advance] at hroom
  omega

theorem confined_segment {segment : Segment} (hsegment : Appends us segment)
    (h : Confined t .member ts e) : Confined t.longer .member (ts ++ us) (.get e segment) := by
  intro fuel c c' x hover _ hok
  obtain ⟨c₁, hts, hus⟩ := hover.split
  obtain ⟨fuel', n, hsuffixes, halong⟩ := h fuel c c₁ x hts (hsegment.stops hus) hok
  have hroom := room_of_suffixes (hsegment.next? hus) hsuffixes
  rw [hts.room_eq] at hroom
  cases fuel' with
  | zero => cases hsuffixes
  | succ fuel' =>
    exact ⟨fuel', n + 1, (hsegment.leads hus).eq_ok hsuffixes, halong.longer hroom⟩

theorem confined_ofPrimary (hderives : Derives .primary ts e) (h : Confined t .primary ts e) :
    Confined t.closed .member ts e := by
  intro fuel c c' x hover hstops hok
  obtain ⟨hread, hok⟩ := (complete_of_derives hderives fuel c c' hover hstops).bind_eq_ok hok
  exact ⟨fuel, 0, hok, (h fuel c c' _ hover hstops hread).along⟩

theorem confined_parens (h : Confined t .ternary ts e) :
    Confined t .primary (.punct .openParen :: ts ++ [.punct .closeParen]) e := by
  intro fuel c c' x hover _ hok
  cases fuel with
  | zero => cases hok
  | succ fuel =>
    obtain ⟨c₁, hopened, hclose⟩ := hover.split
    obtain ⟨place, rest, htokens⟩ := tokens_of_next hopened.next?_eq
    have hstops : c₁.Stops .ternary := hclose.stops fun s hs => by cases hs
    simp only [primary, htokens] at hok
    obtain ⟨y, hread, -⟩ := except_bind_eq_ok.1 hok
    exact (h _ _ _ _ hopened.advance hstops hread).mono (Nat.le_refl _) (Nat.le_refl _)

/-- The arguments of a call are read one level deeper than it. -/
theorem room_of_call {name : String} (hname : constant? name = none)
    (hover : c.Over (.ident name :: .punct .openParen :: us) c')
    (hok : primary (fuel + 1) c = .ok x) :
    c.room = (c.advance.advance.deeper 1).room + 1 ∧
      (c.advance.advance.next? ≠ some (.punct .closeParen) →
        ∃ y, arguments fuel (c.advance.advance.deeper 1) = .ok y) := by
  obtain ⟨place, rest, htokens⟩ := tokens_of_next hover.next?_eq
  rw [primary_of_ident htokens, hname] at hok
  dsimp only at hok
  rw [named, eat?_of_next hover.advance.next?_eq] at hok
  obtain ⟨henter, hok⟩ := enter_leads.bind_eq_ok hok
  have hroom := room_of_enter henter
  rw [room_advance, room_advance] at hroom
  refine ⟨hroom, fun hclose => ?_⟩
  rw [eat?_of_next_ne (show (c.advance.advance.deeper 1).next? ≠ _ from hclose)] at hok
  obtain ⟨y, hread, -⟩ := except_bind_eq_ok.1 hok
  exact ⟨y, hread⟩

theorem confined_noArgument {name : String} (hname : constant? name = none) :
    Confined ⟨0, 1, 0⟩ .primary [.ident name, .punct .openParen, .punct .closeParen]
      (.call name []) := by
  intro fuel c c' x hover _ hok
  cases fuel with
  | zero => cases hok
  | succ fuel =>
    obtain ⟨hroom, -⟩ := room_of_call hname hover hok
    have hleaf : (Tally.mk 0 0 0).Within .primary (c.advance.advance.deeper 1).room :=
      ⟨Nat.zero_le _, Nat.zero_le _, Nat.zero_le _⟩
    rw [hroom]
    exact hleaf.deeper (Nat.lt_succ_self _) ceiling_lt_succ

theorem confined_arguments {args : List (List Token × Expr)} {a : List Token × Expr}
    {y : List Expr × Cursor} (hargs : ∀ a ∈ args, Derives .ternary a.1 a.2) (ha : a ∈ args)
    (h : Confined t .ternary a.1 a.2) (hover : c.Over
      ([Token.punct .comma].intercalate (args.map Prod.fst) ++ [.punct .closeParen]) c')
    (hok : arguments fuel c = .ok y) : t.Within .ternary c.room := by
  induction args generalizing fuel c y with
  | nil => cases ha
  | cons b rest ih =>
    cases fuel with
    | zero => cases hok
    | succ fuel =>
      obtain ⟨hb, hrest⟩ := List.forall_mem_cons.1 hargs
      rw [arguments] at hok
      cases rest with
      | nil =>
        obtain rfl := List.mem_singleton.1 ha
        obtain ⟨c₁, hfirst, hclose⟩ := hover.split
        have hfirst : c.Over a.1 c₁ := by simpa using hfirst
        have hstops : c₁.Stops .ternary := hclose.stops fun s hs => by cases hs
        obtain ⟨z, hread, -⟩ := except_bind_eq_ok.1 hok
        exact h _ _ _ _ hfirst hstops hread
      | cons d more =>
        rw [List.map_cons, intercalate_comma (by simp), List.append_assoc] at hover
        obtain ⟨c₁, hfirst, hcomma⟩ := hover.split
        have hnext := hcomma.next?_eq
        have hstops : c₁.Stops .ternary := hcomma.stops fun s hs => by cases hs
        obtain ⟨hread, hok⟩ := (complete_of_derives hb fuel _ _ hfirst hstops).bind_eq_ok hok
        rcases List.mem_cons.1 ha with rfl | ha
        · exact h _ _ _ _ hfirst hstops hread
        · dsimp only at hok
          rw [eat?_of_next_ne (by simp [hnext])] at hok
          obtain ⟨-, hok⟩ := (expect_leads hnext).bind_eq_ok hok
          obtain ⟨z, hmore, -⟩ := except_bind_eq_ok.1 hok
          have hwithin := ih hrest ha hcomma.advance hmore
          rwa [room_advance, hfirst.room_eq] at hwithin

theorem confined_argument {name : String} {args : List (List Token × Expr)}
    {a : List Token × Expr} (hname : constant? name = none)
    (hargs : ∀ a ∈ args, Derives .ternary a.1 a.2) (ha : a ∈ args)
    (h : Confined t .ternary a.1 a.2) :
    Confined t.deeper .primary
      (.ident name :: .punct .openParen ::
        [Token.punct .comma].intercalate (args.map Prod.fst) ++ [.punct .closeParen])
      (.call name (args.map Prod.snd)) := by
  intro fuel c c' x hover _ hok
  cases fuel with
  | zero => cases hok
  | succ fuel =>
    obtain ⟨hroom, hread⟩ := room_of_call hname hover hok
    have hinside := hover.advance.advance
    obtain ⟨y, hread⟩ := hread (next?_arguments (List.ne_nil_of_mem ha) hargs hinside)
    have hargument := confined_arguments hargs ha h hinside.deeper hread
    rw [hroom]
    exact hargument.deeper (Nat.lt_succ_self _) ceiling_lt_succ

theorem confined_of_way {k : Phrase} (h : k.Way ts e t) : Confined t k ts e := by
  induction h with
  | ofLevel _ ih => exact confined_ofLevel ih
  | condition h hyes _ ih =>
    exact confined_part h.derives hyes (fun _ => ceiling_level_lt_ternary) fun h => h.condition ih
  | yes hcondition h _ ih =>
    exact confined_part hcondition h.derives (fun _ => ceiling_lt_succ) fun h => h.yes ih
  | no hcondition hyes _ ih =>
    exact confined_part hcondition hyes (fun _ => ceiling_lt_succ) fun h => h.no ih
  | tighter hl h ih => exact confined_tighter hl h.derives ih
  | left hp _ hright ih => exact confined_left hp hright ih
  | right hp hleft h ih => exact confined_right hp hleft h.derives ih
  | ofUnary _ ih => exact confined_ofUnary ih
  | not _ ih => exact confined_sign (.inl ⟨rfl, rfl⟩) ih
  | neg _ ih => exact confined_sign (.inr ⟨rfl, rfl⟩) ih
  | ofMember h ih => exact confined_ofMember h.derives ih
  | field _ ih => exact confined_segment appends_field ih
  | index _ hx ih => exact confined_segment (appends_index hx) ih
  | ofPrimary h ih => exact confined_ofPrimary h.derives ih
  | leaf => exact fun _ _ _ _ _ _ _ => ⟨Nat.zero_le _, Nat.zero_le _, Nat.zero_le _⟩
  | noArgument hname => exact confined_noArgument hname
  | argument hname hargs ha _ ih => exact confined_argument hname hargs ha ih
  | parens _ ih => exact confined_parens ih

theorem within_of_parseWithin {limit finish : Nat} {tokens : List (Nat × Token)}
    (h : parseWithin limit finish tokens = .ok e)
    (hway : Phrase.ternary.Way (tokens.map Prod.snd) e t) : t.Within .ternary limit := by
  rw [parseWithin, except_mapError_eq_ok, whole, except_bind_eq_ok] at h
  obtain ⟨x, hread, -⟩ := h
  have hover : Over ⟨tokens, 0, limit, finish⟩ (tokens.map Prod.snd) ⟨[], 0, limit, finish⟩ :=
    ⟨⟨tokens, by simp, rfl⟩, rfl, rfl, rfl⟩
  exact confined_of_way hway _ _ _ _ hover nofun hread

end Parser

namespace Expr

/-- A way from an expression, as it is written in a text, down to a leaf. -/
def WayIn (source : String) (e : Expr) (counted stacked : Nat) : Prop :=
  ∃ tokens, Lexer.tokenize source.toList = .ok tokens ∧
    ∃ t, Phrase.ternary.Way (tokens.map Prod.snd) e t ∧ t.closed = ⟨0, counted, stacked⟩

/-- Whether what was read, if anything, has a property. -/
instance {read : Except ExpressionError Expr} {P : Expr → Prop} [DecidablePred P] :
    Decidable (∃ e, read = .ok e ∧ P e) :=
  match read with
  | .ok e => decidable_of_iff (P e) (by simp)
  | .error _ => .isFalse (by simp)

/-- On each way down to a leaf the nesting limit bounds the nodes that are counted, those of a chain
on top of a leaf among them. It bounds all nodes exactly where the stacked ones, those of chains on
top of operands that have nodes themselves, are no more than the others leave of the limit, and so
where none are stacked. There are never more than 14176. -/
theorem height_within_limit_iff (source : String) (e : Expr) (h : parse source = .ok e) :
    (e.height ≤ maxDepth ↔
      ∀ counted stacked, e.WayIn source counted stacked → stacked ≤ maxDepth - counted) ∧
    (∀ counted stacked, e.WayIn source counted stacked → counted ≤ maxDepth) ∧
    e.height ≤ 14176 := by
  rw [parse, except_bind_eq_ok] at h
  obtain ⟨tokens, htokens, hparse⟩ := h
  have hwithin {t} (hway : Phrase.ternary.Way (tokens.map Prod.snd) e t) :
      t.Within .ternary maxDepth := Parser.within_of_parseWithin hparse hway
  obtain ⟨t, hway, htotal⟩ := Phrase.exists_way (Parser.derives_of_parseWithin hparse)
  have hcounted : ∀ counted stacked, e.WayIn source counted stacked → counted ≤ maxDepth := by
    rintro counted stacked ⟨_, htokens', t, hway, hclosed⟩
    cases htokens.symm.trans htokens'
    have hle := Tally.counted_closed_le (hwithin hway).chain (hwithin hway).counted
    rwa [hclosed] at hle
  refine ⟨⟨?_, fun hall => ?_⟩, hcounted, ?_⟩
  · rintro hlimit counted stacked ⟨_, htokens', t, hway, hclosed⟩
    have hsum := hway.total_le_height
    rw [← Tally.total_closed, hclosed] at hsum
    simp only [Tally.total] at hsum
    omega
  · -- a longest way has as many nodes as the expression is high
    obtain ⟨counted, stacked, hclosed⟩ : ∃ counted stacked, t.closed = ⟨0, counted, stacked⟩ :=
      ⟨_, _, by rw [← Tally.chain_closed]⟩
    have hlongest : e.WayIn source counted stacked := ⟨tokens, htokens, t, hway, hclosed⟩
    have hstacked := hall _ _ hlongest
    have hfirst := hcounted _ _ hlongest
    rw [← Tally.total_closed, hclosed] at htotal
    simp only [Tally.total] at htotal
    omega
  · have htallest : Parser.ceiling .ternary maxDepth = 14176 := by decide +kernel
    exact htotal ▸ htallest ▸ (hwithin hway).total

theorem sum_of_member_within_limit : ∃ e, parse "a.b + c" = .ok e ∧
    ∀ counted stacked, e.WayIn "a.b + c" counted stacked → stacked ≤ maxDepth - counted := by
  have hparsed : ∃ e, parse "a.b + c" = .ok e ∧ e.height ≤ maxDepth := by decide +kernel
  obtain ⟨e, hparse, hheight⟩ := hparsed
  exact ⟨e, hparse, (height_within_limit_iff _ e hparse).1.1 hheight⟩

/-- The text is `a*a*…*a+a+…+a` with as many operators of each kind as half of the limit and one. -/
theorem sum_of_product_beyond_limit : ∃ e, parse (String.ofList ('a' ::
    (List.replicate 33 ['*', 'a']).flatten ++ (List.replicate 33 ['+', 'a']).flatten)) = .ok e ∧
      maxDepth < e.height := by
  simp only [parse, String.toList_ofList]
  decide +kernel

end Expr

end PageLayers
