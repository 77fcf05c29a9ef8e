import PageLayers.Json.Value
import PageLayers.Ordered.Set

/-! Expressions over the data of a page: literals, named values, member access, operators, calls. -/

namespace PageLayers

inductive UnaryOp where
  | not
  | neg
  deriving DecidableEq

inductive BinaryOp where
  | add
  | sub
  | mul
  | div
  | rem
  | lt
  | le
  | gt
  | ge
  | eq
  | ne
  | and
  | or
  deriving DecidableEq

inductive Segment where
  | field (name : String)
  | index (i : Nat)
  deriving DecidableEq

inductive Expr where
  | literal (value : Json)
  | var (name : String)
  | get (target : Expr) (segment : Segment)
  | unary (op : UnaryOp) (operand : Expr)
  | binary (op : BinaryOp) (left right : Expr)
  | ternary (condition yes no : Expr)
  | call (name : String) (args : List Expr)

namespace Expr

instance : Inhabited Expr := ⟨literal .null⟩

mutual

/-- The names of the values that are read, in order of appearance. -/
def rootNames : Expr → List String
  | literal _ => []
  | var name => [name]
  | get e _ => rootNames e
  | unary _ e => rootNames e
  | binary _ l r => rootNames l ++ rootNames r
  | ternary c y n => rootNames c ++ rootNames y ++ rootNames n
  | call _ args => rootNamesOf args

def rootNamesOf : List Expr → List String
  | [] => []
  | e :: rest => rootNames e ++ rootNamesOf rest

end

mutual

/-- The names of the functions that are called, in order of appearance. -/
def callNames : Expr → List String
  | literal _ => []
  | var _ => []
  | get e _ => callNames e
  | unary _ e => callNames e
  | binary _ l r => callNames l ++ callNames r
  | ternary c y n => callNames c ++ callNames y ++ callNames n
  | call name args => name :: callNamesOf args

def callNamesOf : List Expr → List String
  | [] => []
  | e :: rest => callNames e ++ callNamesOf rest

end

def roots (e : Expr) : OrderedSet String := OrderedSet.ofList e.rootNames

def calls (e : Expr) : OrderedSet String := OrderedSet.ofList e.callNames

/-- The functions there are. -/
def builtins : List String := ["len", "upper", "lower", "concat", "coalesce", "not_empty"]

end Expr

end PageLayers
