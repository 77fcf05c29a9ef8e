import PageLayers.Rules.Expressions
import PageLayers.Proofs.Expression.Faults
import PageLayers.Proofs.Ordered.Set

/-! An expression whose names have values and whose functions exist can still fail when it is
evaluated, but for what its values are and not for what it says. -/

namespace PageLayers

variable {α : Type} {vars : OrderedMap String Json} {limit : Nat} {name : String}

/-- The name is read somewhere in the expression, be it in a part that is never evaluated. -/
inductive Expr.Mentions (name : String) : Expr → Prop where
  | var : Mentions name (.var name)
  | get {e : Expr} {segment : Segment} (h : Mentions name e) : Mentions name (.get e segment)
  | unary {op : UnaryOp} {e : Expr} (h : Mentions name e) : Mentions name (.unary op e)
  | left {op : BinaryOp} {l r : Expr} (h : Mentions name l) : Mentions name (.binary op l r)
  | right {op : BinaryOp} {l r : Expr} (h : Mentions name r) : Mentions name (.binary op l r)
  | condition {c yes no : Expr} (h : Mentions name c) : Mentions name (.ternary c yes no)
  | yes {c yes no : Expr} (h : Mentions name yes) : Mentions name (.ternary c yes no)
  | no {c yes no : Expr} (h : Mentions name no) : Mentions name (.ternary c yes no)
  | argument {function : String} {args : List Expr} {e : Expr} (he : e ∈ args)
      (h : Mentions name e) : Mentions name (.call function args)

/-- The function is called somewhere in the expression, be it in a part that is never evaluated. -/
inductive Expr.Calls (name : String) : Expr → Prop where
  | here {args : List Expr} : Calls name (.call name args)
  | get {e : Expr} {segment : Segment} (h : Calls name e) : Calls name (.get e segment)
  | unary {op : UnaryOp} {e : Expr} (h : Calls name e) : Calls name (.unary op e)
  | left {op : BinaryOp} {l r : Expr} (h : Calls name l) : Calls name (.binary op l r)
  | right {op : BinaryOp} {l r : Expr} (h : Calls name r) : Calls name (.binary op l r)
  | condition {c yes no : Expr} (h : Calls name c) : Calls name (.ternary c yes no)
  | yes {c yes no : Expr} (h : Calls name yes) : Calls name (.ternary c yes no)
  | no {c yes no : Expr} (h : Calls name no) : Calls name (.ternary c yes no)
  | argument {function : String} {args : List Expr} {e : Expr} (he : e ∈ args)
      (h : Calls name e) : Calls name (.call function args)

/-- The causes that lie in the values and in the gas, and not in the text of an expression. -/
inductive ExpressionError.AtRunTime : ExpressionError → Prop where
  | type (fault : TypeFault) : AtRunTime (.type fault)
  | arity (name : String) (actual : Nat) : AtRunTime (.arity name actual)
  | divisionByZero : AtRunTime .divisionByZero
  | gasExhausted (limit : Nat) : AtRunTime (.gasExhausted limit)

namespace Expr

mutual

theorem mem_rootNames (e : Expr) : name ∈ e.rootNames ↔ e.Mentions name := by
  match e with
  | .literal _ =>
    constructor
    · intro h
      cases h
    · intro h
      cases h
  | .var _ =>
    constructor
    · intro h
      obtain rfl := List.mem_singleton.1 h
      exact .var
    · intro h
      cases h
      exact List.mem_singleton_self _
  | .get e _ =>
    have ih := mem_rootNames e
    constructor
    · exact fun h => .get (ih.1 h)
    · intro h
      cases h with
      | get h => exact ih.2 h
  | .unary _ e =>
    have ih := mem_rootNames e
    constructor
    · exact fun h => .unary (ih.1 h)
    · intro h
      cases h with
      | unary h => exact ih.2 h
  | .binary _ l r =>
    have ihl := mem_rootNames l
    have ihr := mem_rootNames r
    simp only [rootNames, List.mem_append, ihl, ihr]
    constructor
    · rintro (h | h)
      · exact .left h
      · exact .right h
    · intro h
      cases h with
      | left h => exact .inl h
      | right h => exact .inr h
  | .ternary c yes no =>
    have ihc := mem_rootNames c
    have ihy := mem_rootNames yes
    have ihn := mem_rootNames no
    simp only [rootNames, List.mem_append, ihc, ihy, ihn]
    constructor
    · rintro ((h | h) | h)
      · exact .condition h
      · exact .yes h
      · exact .no h
    · intro h
      cases h with
      | condition h => exact .inl (.inl h)
      | yes h => exact .inl (.inr h)
      | no h => exact .inr h
  | .call _ args =>
    have ih := mem_rootNamesOf args
    simp only [rootNames, ih]
    constructor
    · rintro ⟨e, he, h⟩
      exact .argument he h
    · intro h
      cases h with
      | argument he h => exact ⟨_, he, h⟩

theorem mem_rootNamesOf (args : List Expr) :
    name ∈ rootNamesOf args ↔ ∃ e ∈ args, e.Mentions name := by
  match args with
  | [] => simp [rootNamesOf]
  | e :: rest =>
    have ih := mem_rootNames e
    have ihrest := mem_rootNamesOf rest
    simp [rootNamesOf, ih, ihrest]

end

mutual

theorem mem_callNames (e : Expr) : name ∈ e.callNames ↔ e.Calls name := by
  match e with
  | .literal _ => exact ⟨nofun, nofun⟩
  | .var _ => exact ⟨nofun, nofun⟩
  | .get e _ =>
    have ih := mem_callNames e
    exact ⟨fun h => .get (ih.1 h), fun | .get h => ih.2 h⟩
  | .unary _ e =>
    have ih := mem_callNames e
    exact ⟨fun h => .unary (ih.1 h), fun | .unary h => ih.2 h⟩
  | .binary _ l r =>
    have ihl := mem_callNames l
    have ihr := mem_callNames r
    simp only [callNames, List.mem_append, ihl, ihr]
    constructor
    · rintro (h | h)
      · exact .left h
      · exact .right h
    · intro h
      cases h with
      | left h => exact .inl h
      | right h => exact .inr h
  | .ternary c yes no =>
    have ihc := mem_callNames c
    have ihy := mem_callNames yes
    have ihn := mem_callNames no
    simp only [callNames, List.mem_append, ihc, ihy, ihn]
    constructor
    · rintro ((h | h) | h)
      · exact .condition h
      · exact .yes h
      · exact .no h
    · intro h
      cases h with
      | condition h => exact .inl (.inl h)
      | yes h => exact .inl (.inr h)
      | no h => exact .inr h
  | .call function args =>
    have ih := mem_callNamesOf args
    simp only [callNames, List.mem_cons, ih]
    constructor
    · rintro (rfl | ⟨e, he, h⟩)
      · exact .here
      · exact .argument he h
    · intro h
      cases h with
      | here => exact .inl rfl
      | argument he h => exact .inr ⟨_, he, h⟩

theorem mem_callNamesOf (args : List Expr) :
    name ∈ callNamesOf args ↔ ∃ e ∈ args, e.Calls name := by
  match args with
  | [] => simp [callNamesOf]
  | e :: rest =>
    have ih := mem_callNames e
    have ihrest := mem_callNamesOf rest
    simp [callNamesOf, ih, ihrest]

end

theorem mem_roots {e : Expr} : name ∈ e.roots.members ↔ e.Mentions name := by
  rw [roots, OrderedSet.mem_ofList, mem_rootNames]

end Expr

theorem ExpressionError.OfValues.atRunTime {e : ExpressionError} (h : e.OfValues) :
    e.AtRunTime := by
  cases h with
  | type fault => exact .type fault
  | arity name actual => exact .arity name actual
  | divisionByZero => exact .divisionByZero

/-- An outcome that is no failure, or fails for a cause at run time. -/
def Eval.FailsLate (r : Except ExpressionError α) : Prop := ∀ e, r = .error e → e.AtRunTime

/-- What evaluation of such an expression can come to, whatever the gas. -/
theorem Expr.eval_failsLate {e : Expr} (hroots : ∀ name, e.Mentions name → vars.get? name ≠ none)
    (hcalls : ∀ name ∈ e.callNames, name ∈ builtins) :
    Eval.FailsLate (e.eval vars limit) := by
  intro error herror
  cases Eval.eval_blames e 0 error herror with
  | values h => exact h.atRunTime
  | gasExhausted limit => exact .gasExhausted limit
  | unknownIdentifier hname hnone => exact absurd hnone (hroots _ ((mem_rootNames e).1 hname))
  | unknownFunction hname hnone => exact absurd (hcalls _ hname) hnone

end PageLayers
