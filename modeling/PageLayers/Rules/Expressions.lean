import PageLayers.Rules.Basic
import PageLayers.Expression.Parser

/-! Expressions: they can be read, call functions that exist, and see only the bindings beside them
and the constants. -/

namespace PageLayers

/-- The name under which expressions see the constants of the page. -/
def constantsName : String := "const"

def Property.isBinding (p : Property) : Bool := p.value.kind = .binding

/-- The names that the expressions among some properties may read. -/
def readableNames (props : List Property) : List String :=
  (props.filter Property.isBinding).map Property.name ++ [constantsName]

namespace Rules

def expressionError (reason : Reason) (node message : String) : Violation :=
  .error "expression" reason node message

def expressionHolds (owner node : String) (readable : List String) (source : String) :
    List Violation :=
  match Expr.parse source with
  | .error e => [expressionError .invalidExpression node e.message]
  | .ok e =>
    let badCalls := e.calls.members.filter fun name => !Expr.builtins.contains name
    let badRoots := e.roots.members.filter fun name => !readable.contains name
    badCalls.map (fun name =>
        expressionError .invalidExpression node s!"unknown function `{name}`") ++
      badRoots.map fun name => expressionError .unknownIdentifier node
        s!"`{name}` is neither a binding prop of `{owner}` nor `const`"

def expressionsHold (owner : String) (props : List Property) : List Violation :=
  props.flatMap fun p =>
    match p.value with
    | .expression source =>
      expressionHolds owner (owner ++ "." ++ p.name) (readableNames props) source
    | _ => []

def expression (p : Page) (ctx : RuleContext) : List Violation :=
  match p.effectiveTree? ctx with
  | none => []
  | some tree => tree.propertyLists.flatMap fun (owner, props) => expressionsHold owner props

end Rules

end PageLayers
