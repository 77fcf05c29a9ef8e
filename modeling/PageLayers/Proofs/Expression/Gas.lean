import PageLayers.Proofs.Expression.Faults

/-! The gas that an evaluation takes and what it comes to do not depend on the limit. A limit lets
an evaluation run to its end or cuts it off, and a sandbox that was cut off once evaluates nothing
more. -/

namespace PageLayers

namespace Expr

mutual

/-- How many nodes an expression has. -/
def nodes : Expr → Nat
  | literal _ => 1
  | var _ => 1
  | get e _ => 1 + nodes e
  | unary _ e => 1 + nodes e
  | binary _ l r => 1 + (nodes l + nodes r)
  | ternary c yes no => 1 + (nodes c + (nodes yes + nodes no))
  | call _ args => 1 + nodesOf args

def nodesOf : List Expr → Nat
  | [] => 0
  | e :: rest => nodes e + nodesOf rest

end

end Expr

namespace Eval

variable {α β : Type} {vars : OrderedMap String Json} {n k most : Nat}

/-- The outcomes of expressions that are evaluated in turn in one sandbox, and the gas used then. -/
def evalInTurn (s : Sandbox) : List Expr → Nat → List Outcome × Nat
  | [], gas => ([], gas)
  | e :: rest, gas =>
    let (r, gas) := eval s e gas
    let (more, gas) := evalInTurn s rest gas
    (r :: more, gas)

/-- An outcome that does not lie in the gas. -/
def Definite (r : Except ExpressionError α) : Prop := ∀ limit, r ≠ .error (.gasExhausted limit)

theorem definite_ok {a : α} : Definite (.ok a) := fun _ h => nomatch h

theorem FailsFor.definite {r : Except ExpressionError α} (h : FailsFor ExpressionError.OfValues r) :
    Definite r := by
  rintro limit rfl
  cases h _ rfl

theorem call_definite {name : String} {args : List Json} : Definite (call name args) := by
  by_cases hname : name ∈ Expr.builtins
  · exact (call_failsFor_of_mem hname).definite
  · rw [call_of_not_mem hname]
    exact fun _ h => nomatch h

/-- A computation comes to an outcome in so many steps. A limit that does not allow for all of them
cuts it off at the first step above the limit. -/
structure Takes (m : Nat → Metered α) (n : Nat) (r : Except ExpressionError α) : Prop where
  definite : Definite r
  ends : ∀ limit gas, gas + n ≤ limit → m limit gas = (r, gas + n)
  cutOff : ∀ limit gas, gas ≤ limit → limit < gas + n →
    m limit gas = (.error (.gasExhausted limit), limit + 1)

namespace Takes

variable {m : Nat → Metered α} {f : α → Nat → Metered β} {r : Except ExpressionError β} {a : α}

theorem bind (h : Takes m n (.ok a)) (hf : Takes (f a) k r) :
    Takes (fun limit => m limit >>= fun a => f a limit) (n + k) r where
  definite := hf.definite
  ends limit gas hend := by
    have hfirst := h.ends limit gas (by omega)
    have hnext := hf.ends limit (gas + n) (by omega)
    show Metered.andThen (m limit) (fun a => f a limit) gas = _
    simp only [Metered.andThen, hfirst, hnext, Nat.add_assoc]
  cutOff limit gas hgas hcut := by
    show Metered.andThen (m limit) (fun a => f a limit) gas = _
    -- the limit lies in the steps of the first part, or in those of the second
    by_cases hn : gas + n ≤ limit
    · have hfirst := h.ends limit gas hn
      have hnext := hf.cutOff limit (gas + n) hn (by omega)
      simp only [Metered.andThen, hfirst, hnext]
    · have hfirst := h.cutOff limit gas hgas (by omega)
      simp only [Metered.andThen, hfirst]

theorem bind_error {e : ExpressionError} (h : Takes m n (.error e)) :
    Takes (fun limit => m limit >>= fun a => f a limit) n (.error e) where
  definite limit he := h.definite limit (by cases he; rfl)
  ends limit gas hend := by
    show Metered.andThen (m limit) (fun a => f a limit) gas = _
    simp only [Metered.andThen, h.ends limit gas hend]
  cutOff limit gas hgas hcut := by
    show Metered.andThen (m limit) (fun a => f a limit) gas = _
    simp only [Metered.andThen, h.cutOff limit gas hgas hcut]

end Takes

/-- A computation comes to one outcome in one number of steps, of which there is a greatest. -/
def Settles (m : Nat → Metered α) (most : Nat) : Prop := ∃ n r, n ≤ most ∧ Takes m n r

namespace Settles

variable {m : Nat → Metered α}

theorem mono (h : Settles m k) (hk : k ≤ most) : Settles m most := by
  obtain ⟨n, r, hn, htakes⟩ := h
  exact ⟨n, r, Nat.le_trans hn hk, htakes⟩

theorem lift {r : Except ExpressionError α} (hr : Definite r) :
    Settles (fun _ => Metered.lift r) 0 := by
  refine ⟨0, r, Nat.le_refl 0, hr, fun _ _ _ => rfl, fun limit gas hgas hcut => ?_⟩
  omega

theorem pure {a : α} : Settles (fun _ => pure a) 0 := lift definite_ok

theorem bind {f : α → Nat → Metered β} (h : Settles m k) (hf : ∀ a, Settles (f a) most) :
    Settles (fun limit => m limit >>= fun a => f a limit) (k + most) := by
  obtain ⟨n, r, hn, htakes⟩ := h
  cases r with
  | ok a =>
    obtain ⟨n', r', hn', htakes'⟩ := hf a
    exact ⟨n + n', r', Nat.add_le_add hn hn', htakes.bind htakes'⟩
  | error e => exact ⟨n, .error e, Nat.le_add_right_of_le hn, htakes.bind_error⟩

end Settles

theorem tick_settles : Settles (fun limit => tick ⟨vars, limit⟩) 1 := by
  refine ⟨1, .ok (), Nat.le_refl 1, definite_ok, fun limit gas hend => ?_,
    fun limit gas hgas hcut => ?_⟩
  · exact if_neg (Nat.not_lt.2 hend)
  · obtain rfl : gas = limit := by omega
    exact if_pos hcut

/-- A variable is read whatever the limit. -/
theorem readVar_settles {name : String} :
    Settles (fun limit => .lift (readVar ⟨vars, limit⟩ name)) 0 := by
  cases hvar : vars.get? name with
  | some j =>
    simp only [readVar, hvar]
    exact .lift definite_ok
  | none =>
    simp only [readVar, hvar]
    exact .lift fun _ h => nomatch h

open Settles

mutual

/-- Each node takes one step when it is evaluated, and it is evaluated once at the most. -/
theorem eval_settles (e : Expr) : Settles (fun limit => eval ⟨vars, limit⟩ e) e.nodes := by
  match e with
  | .literal _ =>
    simp only [eval, Expr.nodes]
    exact tick_settles.bind fun _ => pure
  | .var name =>
    simp only [eval, Expr.nodes]
    exact tick_settles.bind fun _ => readVar_settles
  | .get e _ =>
    simp only [eval, Expr.nodes]
    exact tick_settles.bind fun _ => (eval_settles e).bind fun _ => lift segment_failsFor.definite
  | .unary _ e =>
    simp only [eval, Expr.nodes]
    exact tick_settles.bind fun _ => (eval_settles e).bind fun _ => lift unary_failsFor.definite
  | .binary op l r =>
    simp only [eval, Expr.nodes]
    refine tick_settles.bind fun _ => (eval_settles l).bind fun left => ?_
    by_cases hand : op = .and ∧ left.truthy = false
    · simp only [if_pos hand]
      exact pure.mono (Nat.zero_le _)
    · by_cases hor : op = .or ∧ left.truthy = true
      · simp only [if_neg hand, if_pos hor]
        exact pure.mono (Nat.zero_le _)
      · simp only [if_neg hand, if_neg hor]
        exact (eval_settles r).bind fun _ => lift binary_failsFor.definite
  | .ternary c yes no =>
    simp only [eval, Expr.nodes]
    refine tick_settles.bind fun _ => (eval_settles c).bind fun condition => ?_
    cases condition.truthy with
    | true => exact (eval_settles yes).mono (Nat.le_add_right _ _)
    | false => exact (eval_settles no).mono (Nat.le_add_left _ _)
  | .call name args =>
    simp only [eval, Expr.nodes]
    exact tick_settles.bind fun _ => (evalArgs_settles args).bind fun _ => lift call_definite

theorem evalArgs_settles (args : List Expr) :
    Settles (fun limit => evalArgs ⟨vars, limit⟩ args) (Expr.nodesOf args) := by
  match args with
  | [] =>
    simp only [evalArgs, Expr.nodesOf]
    exact pure
  | e :: rest =>
    simp only [evalArgs, Expr.nodesOf]
    exact (eval_settles e).bind fun _ => (evalArgs_settles rest).bind fun _ => pure

end

/-- Once all the gas is used no evaluation gets past its first step. -/
theorem eval_spent {s : Sandbox} {gas : Nat} (e : Expr) (h : s.limit ≤ gas) :
    eval s e gas = (.error (.gasExhausted s.limit), gas + 1) := by
  have htick : tick s gas = (.error (.gasExhausted s.limit), gas + 1) :=
    if_pos (Nat.lt_succ_of_le h)
  have hbind : ∀ f : Unit → Metered Json,
      (tick s >>= f) gas = (.error (.gasExhausted s.limit), gas + 1) := by
    intro f
    show Metered.andThen (tick s) f gas = _
    simp only [Metered.andThen, htick]
  cases e <;> exact hbind _

theorem evalInTurn_spent {s : Sandbox} {gas : Nat} (es : List Expr) (h : s.limit ≤ gas) :
    evalInTurn s es gas =
      (List.replicate es.length (.error (.gasExhausted s.limit)), gas + es.length) := by
  induction es generalizing gas with
  | nil => rfl
  | cons e rest ih =>
    have hrest := @ih (gas + 1) (Nat.le_succ_of_le h)
    simp only [evalInTurn, eval_spent e h, hrest, List.length_cons, List.replicate_succ,
      Nat.add_assoc, Nat.add_comm 1]

end Eval

/-- An evaluation comes to one outcome in one number of steps, no more than its expression has
nodes, whatever the limit and however much gas was used before. A limit that does not allow for all
of them cuts it off with the gas one above the limit. All further evaluations in that sandbox are
cut off too, each at its first step. -/
theorem Expr.gas_only_cuts_off (e : Expr) (vars : OrderedMap String Json) :
    ∃ n r, n ≤ e.nodes ∧ (∀ limit, r ≠ .error (.gasExhausted limit)) ∧
      ∀ limit gas, gas ≤ limit →
        (gas + n ≤ limit → Eval.eval ⟨vars, limit⟩ e gas = (r, gas + n)) ∧
        (limit < gas + n →
          Eval.eval ⟨vars, limit⟩ e gas = (.error (.gasExhausted limit), limit + 1) ∧
          ∀ more : List Expr, Eval.evalInTurn ⟨vars, limit⟩ more (limit + 1) =
            (List.replicate more.length (.error (.gasExhausted limit)),
              limit + 1 + more.length)) := by
  obtain ⟨n, r, hn, htakes⟩ := @Eval.eval_settles vars e
  refine ⟨n, r, hn, htakes.definite, fun limit gas hgas => ⟨htakes.ends limit gas, fun hcut => ?_⟩⟩
  exact ⟨htakes.cutOff limit gas hgas hcut,
    fun more => Eval.evalInTurn_spent more (Nat.le_succ limit)⟩

/-- The expression `true ? 'yes' : concat(first, last)`, of which three nodes are evaluated. -/
def decided : Expr :=
  .ternary (.literal (.bool true)) (.literal (.str "yes"))
      (.call "concat" [.var "first", .var "last"])

/-- With gas for three steps it has its value, with less it has none, and nothing after it has. -/
theorem decided_cut_off :
    (∀ gas, gas + 3 ≤ 12 → Eval.eval ⟨∅, 12⟩ decided gas = (.ok (.str "yes"), gas + 3)) ∧
    Eval.eval ⟨∅, 12⟩ decided 10 = (.error (.gasExhausted 12), 13) ∧
    Eval.evalInTurn ⟨∅, 12⟩ [decided, .literal .null] 13 =
      ([.error (.gasExhausted 12), .error (.gasExhausted 12)], 15) := by
  obtain ⟨n, r, hn, -, h⟩ := decided.gas_only_cuts_off ∅
  have hnodes : n ≤ 6 := hn
  have hfirst := (h 12 0 (by decide)).1 (by omega)
  have hrun : Eval.eval ⟨∅, 12⟩ decided 0 = (.ok (.str "yes"), 3) := rfl
  obtain ⟨rfl, hthree⟩ := Prod.mk.inj (hrun.symm.trans hfirst)
  obtain rfl : n = 3 := by omega
  obtain ⟨hcut, hmore⟩ := (h 12 10 (by decide)).2 (by decide)
  exact ⟨fun gas hgas => (h 12 gas (by omega)).1 hgas, hcut, hmore [decided, .literal .null]⟩

end PageLayers
