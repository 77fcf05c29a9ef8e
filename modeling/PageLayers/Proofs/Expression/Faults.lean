import PageLayers.Expression.Eval

/-! What each step of an evaluation can fail for. An operation fails for what its operands are; a
name without a value, a function that does not exist and the end of the gas are causes apart. -/

namespace PageLayers

variable {α β : Type} {vars : OrderedMap String Json} {limit : Nat} {name : String}
  {cause cause' : ExpressionError → Prop}

/-- The causes that lie in the values that an operation is given. -/
inductive ExpressionError.OfValues : ExpressionError → Prop where
  | type (fault : TypeFault) : OfValues (.type fault)
  | arity (name : String) (actual : Nat) : OfValues (.arity name actual)
  | divisionByZero : OfValues .divisionByZero

namespace Eval

/-- An outcome that is no failure, or fails for one of the causes. -/
def FailsFor (cause : ExpressionError → Prop) (r : Except ExpressionError α) : Prop :=
  ∀ e, r = .error e → cause e

theorem FailsFor.ok {a : α} : FailsFor cause (.ok a) := fun _ h => nomatch h

theorem FailsFor.error {e : ExpressionError} (h : cause e) :
    FailsFor cause (.error e : Except ExpressionError α) := by
  rintro _ ⟨⟩
  exact h

theorem FailsFor.mono {r : Except ExpressionError α} (h : FailsFor cause r)
    (hcause : ∀ e, cause e → cause' e) : FailsFor cause' r :=
  fun e he => hcause e (h e he)

theorem FailsFor.bind {r : Except ExpressionError α} {f : α → Except ExpressionError β}
    (hr : FailsFor cause r) (hf : ∀ a, FailsFor cause (f a)) : FailsFor cause (r >>= f) := by
  cases r with
  | ok a => exact hf a
  | error e => exact .error (hr e rfl)

open ExpressionError FailsFor

theorem typeError_failsFor {fault : TypeFault} :
    FailsFor OfValues (typeError fault : Except ExpressionError α) :=
  .error (.type fault)

theorem number_failsFor {x : Float} : FailsFor OfValues (number x) := by
  unfold number
  split
  · exact ok
  · exact typeError_failsFor

theorem asNumber_failsFor {op : String} {j : Json} : FailsFor OfValues (asNumber op j) := by
  unfold asNumber
  split
  · exact ok
  · exact typeError_failsFor

theorem segment_failsFor {target : Json} {s : Segment} : FailsFor OfValues (segment target s) := by
  cases s with
  | field name =>
    cases target with
    | obj fields =>
      simp only [segment]
      split
      · exact ok
      · exact typeError_failsFor
    | _ => exact typeError_failsFor
  | index i =>
    cases target with
    | arr items =>
      simp only [segment]
      split
      · exact ok
      · exact typeError_failsFor
    | _ => exact typeError_failsFor

theorem unary_failsFor {op : UnaryOp} {j : Json} : FailsFor OfValues (unary op j) := by
  cases op with
  | not => exact ok
  | neg => exact asNumber_failsFor.bind fun _ => number_failsFor

theorem arithmetic_failsFor {op : String} {f : Float → Float → Float} {left right : Json} :
    FailsFor OfValues (arithmetic op f left right) :=
  asNumber_failsFor.bind fun _ => asNumber_failsFor.bind fun _ => number_failsFor

theorem division_failsFor {f : Float → Float → Float} {left right : Json} :
    FailsFor OfValues (division f left right) := by
  refine asNumber_failsFor.bind fun y => ?_
  split
  · exact .error .divisionByZero
  · exact asNumber_failsFor.bind fun _ => number_failsFor

theorem comparison_failsFor {onStrings : Ordering → Bool} {onFloats : Float → Float → Bool}
    {left right : Json} : FailsFor OfValues (comparison onStrings onFloats left right) := by
  unfold comparison
  split
  · exact ok
  · exact asNumber_failsFor.bind fun _ => asNumber_failsFor.bind fun _ => ok

theorem binary_failsFor {op : BinaryOp} {left right : Json} :
    FailsFor OfValues (binary op left right) := by
  cases op with
  | add =>
    simp only [binary]
    split
    · exact ok
    · exact arithmetic_failsFor
  | sub => exact arithmetic_failsFor
  | mul => exact arithmetic_failsFor
  | div => exact division_failsFor
  | rem => exact division_failsFor
  | lt => exact comparison_failsFor
  | le => exact comparison_failsFor
  | gt => exact comparison_failsFor
  | ge => exact comparison_failsFor
  | eq => exact ok
  | ne => exact ok
  | and => exact ok
  | or => exact ok

theorem onOne_failsFor {f : Json → Outcome} {args : List Json}
    (hf : ∀ j, FailsFor OfValues (f j)) : FailsFor OfValues (onOne name f args) := by
  unfold onOne
  split
  · exact hf _
  · exact .error (.arity name _)

theorem length_failsFor {j : Json} : FailsFor OfValues (length j) := by
  cases j with
  | str s => exact ok
  | arr items => exact ok
  | obj fields => exact ok
  | _ => exact typeError_failsFor

theorem call_failsFor_of_mem {args : List Json} (hname : name ∈ Expr.builtins) :
    FailsFor OfValues (call name args) := by
  simp only [Expr.builtins, List.mem_cons, List.not_mem_nil, or_false] at hname
  obtain rfl | rfl | rfl | rfl | rfl | rfl := hname
  · exact onOne_failsFor fun _ => length_failsFor
  · exact onOne_failsFor fun _ => ok
  · exact onOne_failsFor fun _ => ok
  · exact ok
  · exact ok
  · exact onOne_failsFor fun _ => ok

theorem call_of_not_mem {args : List Json} (hname : name ∉ Expr.builtins) :
    call name args = .error (.unknownFunction name) := by
  simp only [Expr.builtins, List.mem_cons, List.not_mem_nil, or_false, not_or] at hname
  simp [call, hname]

/-- Whatever gas was used before, the computation fails for one of the causes only. -/
def Metered.FailsFor (cause : ExpressionError → Prop) (m : Metered α) : Prop :=
  ∀ gas, Eval.FailsFor cause (m gas).1

namespace Metered

variable {m : Metered α}

theorem FailsFor.lift {r : Except ExpressionError α} (hr : Eval.FailsFor cause r) :
    (lift r).FailsFor cause := fun _ => hr

theorem FailsFor.pure {a : α} : (pure a : Metered α).FailsFor cause := fun _ => .ok

theorem FailsFor.mono (h : m.FailsFor cause) (hcause : ∀ e, cause e → cause' e) :
    m.FailsFor cause' := fun gas => (h gas).mono hcause

theorem FailsFor.bind {f : α → Metered β} (hm : m.FailsFor cause)
    (hf : ∀ a, (f a).FailsFor cause) : (m >>= f).FailsFor cause := by
  intro gas
  have hfirst := hm gas
  show Eval.FailsFor cause (andThen m f gas).1
  unfold andThen
  generalize m gas = outcome at hfirst
  obtain ⟨r, gas⟩ := outcome
  cases r with
  | ok a => exact hf a gas
  | error e => exact .error (hfirst e rfl)

end Metered

/-- What an evaluation can fail for where some names are read and some functions are called. -/
inductive Blames (vars : OrderedMap String Json) (roots calls : List String) :
    ExpressionError → Prop where
  | values {e : ExpressionError} (h : e.OfValues) : Blames vars roots calls e
  | gasExhausted (limit : Nat) : Blames vars roots calls (.gasExhausted limit)
  | unknownIdentifier {name : String} (hname : name ∈ roots) (hnone : vars.get? name = none) :
      Blames vars roots calls (.unknownIdentifier name)
  | unknownFunction {name : String} (hname : name ∈ calls) (hnone : name ∉ Expr.builtins) :
      Blames vars roots calls (.unknownFunction name)

theorem Blames.mono {roots roots' calls calls' : List String} {e : ExpressionError}
    (h : Blames vars roots calls e) (hroots : roots ⊆ roots') (hcalls : calls ⊆ calls') :
    Blames vars roots' calls' e := by
  cases h with
  | values h => exact .values h
  | gasExhausted limit => exact .gasExhausted limit
  | unknownIdentifier hname hnone => exact .unknownIdentifier (hroots hname) hnone
  | unknownFunction hname hnone => exact .unknownFunction (hcalls hname) hnone

theorem Blames.left {roots roots' calls calls' : List String} {e : ExpressionError}
    (h : Blames vars roots calls e) : Blames vars (roots ++ roots') (calls ++ calls') e :=
  h.mono (List.subset_append_left _ _) (List.subset_append_left _ _)

theorem Blames.right {roots roots' calls calls' : List String} {e : ExpressionError}
    (h : Blames vars roots' calls' e) : Blames vars (roots ++ roots') (calls ++ calls') e :=
  h.mono (List.subset_append_right _ _) (List.subset_append_right _ _)

theorem tick_blames {s : Sandbox} {roots calls : List String} :
    (tick s).FailsFor (Blames vars roots calls) := by
  intro gas
  unfold tick
  split
  · exact .error (.gasExhausted s.limit)
  · exact ok

theorem readVar_blames {calls : List String} :
    FailsFor (Blames vars [name] calls) (readVar ⟨vars, limit⟩ name) := by
  unfold readVar
  split
  · exact ok
  · rename_i hnone
    exact .error (.unknownIdentifier (List.mem_singleton_self name) hnone)

theorem call_blames {args : List Json} {roots calls : List String} (hname : name ∈ calls) :
    FailsFor (Blames vars roots calls) (call name args) := by
  by_cases hbuiltin : name ∈ Expr.builtins
  · exact (call_failsFor_of_mem hbuiltin).mono fun _ => .values
  · rw [call_of_not_mem hbuiltin]
    exact .error (.unknownFunction hname hbuiltin)

open Metered.FailsFor

mutual

/-- An evaluation blames only names that are read and functions that are called. -/
theorem eval_blames (e : Expr) :
    (eval ⟨vars, limit⟩ e).FailsFor (Blames vars e.rootNames e.callNames) := by
  match e with
  | .literal _ =>
    simp only [eval]
    exact tick_blames.bind fun _ => pure
  | .var name =>
    simp only [eval]
    exact tick_blames.bind fun _ => lift readVar_blames
  | .get e _ =>
    simp only [eval]
    exact tick_blames.bind fun _ => (eval_blames e).bind fun _ =>
      lift (segment_failsFor.mono fun _ => .values)
  | .unary _ e =>
    simp only [eval]
    exact tick_blames.bind fun _ => (eval_blames e).bind fun _ =>
      lift (unary_failsFor.mono fun _ => .values)
  | .binary _ l r =>
    simp only [eval]
    refine tick_blames.bind fun _ => ((eval_blames l).mono fun _ => .left).bind fun left => ?_
    split
    · exact pure
    · split
      · exact pure
      · exact ((eval_blames r).mono fun _ => .right).bind fun _ =>
          lift (binary_failsFor.mono fun _ => .values)
  | .ternary c yes no =>
    simp only [eval]
    refine tick_blames.bind fun _ => ?_
    refine ((eval_blames c).mono fun _ h => h.left.left).bind fun condition => ?_
    split
    · exact (eval_blames yes).mono fun _ h => h.right.left
    · exact (eval_blames no).mono fun _ => .right
  | .call name args =>
    simp only [eval]
    refine tick_blames.bind fun _ => ?_
    refine ((evalArgs_blames args).mono fun _ h => ?_).bind fun _ => ?_
    · exact h.mono (List.Subset.refl _) (List.subset_cons_self name _)
    · exact lift (call_blames List.mem_cons_self)

theorem evalArgs_blames (args : List Expr) : (evalArgs ⟨vars, limit⟩ args).FailsFor
    (Blames vars (Expr.rootNamesOf args) (Expr.callNamesOf args)) := by
  match args with
  | [] =>
    simp only [evalArgs]
    exact pure
  | e :: rest =>
    simp only [evalArgs]
    exact ((eval_blames e).mono fun _ => .left).bind fun _ =>
      ((evalArgs_blames rest).mono fun _ => .right).bind fun _ => pure

end

end Eval

end PageLayers
