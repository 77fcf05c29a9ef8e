import PageLayers.Expression.Parser
import PageLayers.Text.CaseMap
import PageLayers.Ordered.Map

/-! Evaluation of expressions: every step costs one unit of gas, and only the variables that are
given can be seen. -/

namespace PageLayers

namespace Json

def truthy : Json → Bool
  | null => false
  | bool b => b
  | num n => n.toFloat != 0
  | str s => !s.isEmpty
  | arr items => !items.isEmpty
  | obj fields => !fields.isEmpty

/-- The text of a value inside a longer text: strings stand as they are and null leaves no trace. -/
def display : Json → String
  | str s => s
  | null => ""
  | j => j.text

/-- Numbers are equal by size, whatever their kind; other values as `Json.same`. -/
def looselyEqual (a b : Json) : Bool :=
  match a.asFloat?, b.asFloat? with
  | some x, some y => x == y
  | _, _ => same a b

end Json

namespace Eval

abbrev Outcome := Except ExpressionError Json

def typeError {α : Type} (fault : TypeFault) : Except ExpressionError α := .error (.type fault)

def number (x : Float) : Outcome :=
  match Json.ofFloat? x with
  | some j => .ok j
  | none => typeError (.notFinite x)

def asNumber (op : String) (j : Json) : Except ExpressionError Float :=
  match j.asFloat? with
  | some x => .ok x
  | none => typeError (.notNumber op j)

def segment (target : Json) : Segment → Outcome
  | .field name =>
    match target with
    | .obj fields =>
      match fields.lookup name with
      | some j => .ok j
      | none => typeError (.noField name)
    | j => typeError (.unreadable name j)
  | .index i =>
    match target with
    | .arr items =>
      match items[i]? with
      | some j => .ok j
      | none => typeError (.outOfBounds i)
    | j => typeError (.unindexable j i)

def unary : UnaryOp → Json → Outcome
  | .not, j => .ok (.bool !j.truthy)
  | .neg, j => do number (-(← asNumber "-" j))

def arithmetic (op : String) (f : Float → Float → Float) (left right : Json) : Outcome := do
  let x ← asNumber op left
  let y ← asNumber op right
  number (f x y)

/-- The remainder of doubles, which is always exact. -/
def remainder (x y : Float) : Float :=
  match Dyadic.ofFloat? x, Dyadic.ofFloat? y with
  | some a, some b => (a.rem b).toFloat
  | _, _ => 0.0 / 0.0

/-- The divisor is looked at first. -/
def division (f : Float → Float → Float) (left right : Json) : Outcome := do
  let y ← asNumber "/" right
  if y == 0 then .error .divisionByZero
  else do
    let x ← asNumber "/" left
    number (f x y)

/-- Strings compare by their characters and numbers by size. -/
def comparison (onStrings : Ordering → Bool) (onFloats : Float → Float → Bool)
    (left right : Json) : Outcome :=
  match left, right with
  | .str a, .str b => .ok (.bool (onStrings (compare a b)))
  | _, _ => do
    let x ← asNumber "<" left
    let y ← asNumber "<" right
    return .bool (onFloats x y)

def isString : Json → Bool
  | .str _ => true
  | _ => false

def binary (op : BinaryOp) (left right : Json) : Outcome :=
  match op with
  | .add =>
    if isString left || isString right then .ok (.str (left.display ++ right.display))
    else arithmetic "+" (· + ·) left right
  | .sub => arithmetic "-" (· - ·) left right
  | .mul => arithmetic "*" (· * ·) left right
  | .div => division (· / ·) left right
  | .rem => division remainder left right
  | .eq => .ok (.bool (left.looselyEqual right))
  | .ne => .ok (.bool !(left.looselyEqual right))
  | .lt => comparison Ordering.isLT (· < ·) left right
  | .le => comparison Ordering.isLE (· ≤ ·) left right
  | .gt => comparison Ordering.isGT (· > ·) left right
  | .ge => comparison Ordering.isGE (· ≥ ·) left right
  | .and => .ok (.bool (left.truthy && right.truthy))
  | .or => .ok (.bool (left.truthy || right.truthy))

def length (j : Json) : Outcome :=
  match j with
  | .str s => .ok (.ofNat s.length)
  | .arr items => .ok (.ofNat items.length)
  | .obj fields => .ok (.ofNat fields.length)
  | j => typeError (.noLength j)

def onOne (name : String) (f : Json → Outcome) : List Json → Outcome
  | [j] => f j
  | args => .error (.arity name args.length)

def call (name : String) (args : List Json) : Outcome :=
  if name = "len" then onOne name length args
  else if name = "upper" then onOne name (fun j => .ok (.str (Text.upper j.display))) args
  else if name = "lower" then onOne name (fun j => .ok (.str (Text.lower j.display))) args
  else if name = "concat" then .ok (.str (String.join (args.map Json.display)))
  else if name = "coalesce" then .ok ((args.find? fun j => !j.isNull).getD .null)
  else if name = "not_empty" then onOne name (fun j => .ok (.bool j.truthy)) args
  else .error (.unknownFunction name)

/-- A computation that starts from the gas used so far and ends with the gas used then. -/
def Metered (α : Type) := Nat → Except ExpressionError α × Nat

namespace Metered

variable {α β : Type}

def lift (r : Except ExpressionError α) : Metered α := fun gas => (r, gas)

def andThen (m : Metered α) (f : α → Metered β) : Metered β := fun gas =>
  match m gas with
  | (.ok a, gas) => f a gas
  | (.error e, gas) => (.error e, gas)

instance : Monad Metered where
  pure a := lift (.ok a)
  bind := andThen

end Metered

/-- What evaluation may see and how many steps it may take. -/
structure Sandbox where
  vars : OrderedMap String Json
  limit : Nat

/-- Takes one step. -/
def tick (s : Sandbox) : Metered Unit := fun gas =>
  if gas + 1 > s.limit then (.error (.gasExhausted s.limit), gas + 1) else (.ok (), gas + 1)

def readVar (s : Sandbox) (name : String) : Outcome :=
  match s.vars.get? name with
  | some j => .ok j
  | none => .error (.unknownIdentifier name)

mutual

/-- The operands of `and` and `or`, and the branches of a conditional, are evaluated only where
their values count. -/
def eval (s : Sandbox) : Expr → Metered Json
  | .literal j => do
    tick s
    return j
  | .var name => do
    tick s
    Metered.lift (readVar s name)
  | .get e seg => do
    tick s
    let target ← eval s e
    Metered.lift (segment target seg)
  | .unary op e => do
    tick s
    let j ← eval s e
    Metered.lift (unary op j)
  | .binary op l r => do
    tick s
    let left ← eval s l
    if op = .and ∧ left.truthy = false then return .bool false
    else if op = .or ∧ left.truthy = true then return .bool true
    else do
      let right ← eval s r
      Metered.lift (binary op left right)
  | .ternary c yes no => do
    tick s
    let condition ← eval s c
    if condition.truthy then eval s yes else eval s no
  | .call name args => do
    tick s
    let values ← evalArgs s args
    Metered.lift (call name values)

def evalArgs (s : Sandbox) : List Expr → Metered (List Json)
  | [] => pure []
  | e :: rest => do
    let j ← eval s e
    let more ← evalArgs s rest
    return j :: more

end

end Eval

/-- The value of an expression in a fresh sandbox. -/
def Expr.eval (vars : OrderedMap String Json) (limit : Nat) (e : Expr) :
    Except ExpressionError Json :=
  (Eval.eval ⟨vars, limit⟩ e 0).1

end PageLayers
