import PageLayers.Expression.Basic
import PageLayers.Expression.Lexer

/-! Reading expressions by levels: the conditional, six levels of operators from the weakest to the
strongest, signs, member access, and last the names, literals, calls and parentheses. -/

namespace PageLayers

/-- The deepest nesting an expression may have. -/
def maxDepth : Nat := 64

namespace Json

/-- Whole numbers of less than `9e15` are integers, all other finite ones floats. -/
def ofFloat? (x : Float) : Option Json :=
  match Dyadic.ofFloat? x with
  | none => none
  | some d =>
    match d.whole? with
    | some n =>
      if n < 9000000000000000 then some (num (.int (if d.negative then -(n : Int) else n)))
      else some (num (.float x))
    | none => some (num (.float x))

end Json

namespace Parser

/-- What is left to read, the depth reached and the deepest there may be, and the place where the
text ends. -/
structure Cursor where
  tokens : List (Nat × Token)
  depth : Nat
  limit : Nat
  finish : Nat

namespace Cursor

def position (c : Cursor) : Nat :=
  match c.tokens with
  | (p, _) :: _ => p
  | [] => c.finish

def fail {α : Type} (c : Cursor) (fault : SyntaxFault) : Except Stop α :=
  .error (.refused (.malformed c.position fault))

/-- Passes over one token. -/
def advance (c : Cursor) : Cursor := { c with tokens := c.tokens.tail }

def eat? (c : Cursor) (p : Punct) : Option Cursor :=
  match c.tokens with
  | (_, .punct q) :: _ => if q = p then some c.advance else none
  | _ => none

def expect (c : Cursor) (p : Punct) : Except Stop Cursor :=
  match c.eat? p with
  | some c => .ok c
  | none => c.fail (.missing p)

/-- Goes one level deeper. -/
def enter (c : Cursor) : Except Stop Cursor :=
  if c.depth + 1 > c.limit then .error (.refused .tooDeep) else .ok { c with depth := c.depth + 1 }

/-- Comes back up by some levels. -/
def leave (c : Cursor) (levels : Nat) : Cursor := { c with depth := c.depth - levels }

end Cursor

/-- The operators of each level, the weakest first. -/
def operators : Nat → List (Punct × BinaryOp)
  | 0 => [(.either, .or)]
  | 1 => [(.both, .and)]
  | 2 => [(.equal, .eq), (.differs, .ne)]
  | 3 => [(.atMost, .le), (.atLeast, .ge), (.less, .lt), (.greater, .gt)]
  | 4 => [(.plus, .add), (.minus, .sub)]
  | 5 => [(.star, .mul), (.slash, .div), (.percent, .rem)]
  | _ => []

/-- The level above all operators. -/
def levels : Nat := 6

def operator? (level : Nat) (c : Cursor) : Option (BinaryOp × Cursor) :=
  match c.tokens with
  | (_, .punct p) :: _ => ((operators level).lookup p).map fun op => (op, c.advance)
  | _ => none

/-- A whole number that is not negative; positions stop at the largest of sixty-four bits. -/
def indexOf? (x : Float) : Option Nat :=
  match Dyadic.ofFloat? x with
  | none => none
  | some d =>
    match d.whole? with
    | some n => if d.negative && n ≠ 0 then none else some (min (Text.wordLimit - 1) n)
    | none => none

mutual

def ternary : Nat → Cursor → Except Stop (Expr × Cursor)
  | 0, _ => .error .spent
  | fuel + 1, c => do
    let c ← c.enter
    let (condition, c) ← binary fuel 0 c
    match c.eat? .question with
    | none => return (condition, c.leave 1)
    | some c =>
      let (yes, c) ← ternary fuel c
      let c ← c.expect .colon
      let (no, c) ← ternary fuel c
      return (.ternary condition yes no, c.leave 1)

def binary : Nat → Nat → Cursor → Except Stop (Expr × Cursor)
  | 0, _, _ => .error .spent
  | fuel + 1, level, c =>
    if level = levels then unary fuel c
    else do
      let (left, c) ← binary fuel (level + 1) c
      chain fuel level 0 left c

/-- The operators that follow at one level. Each nests the left operand one level deeper; the levels
entered are left together. -/
def chain : Nat → Nat → Nat → Expr → Cursor → Except Stop (Expr × Cursor)
  | 0, _, _, _, _ => .error .spent
  | fuel + 1, level, entered, left, c =>
    match operator? level c with
    | none => .ok (left, c.leave entered)
    | some (op, c) => do
      let c ← c.enter
      let (right, c) ← binary fuel (level + 1) c
      chain fuel level (entered + 1) (.binary op left right) c

def unary : Nat → Cursor → Except Stop (Expr × Cursor)
  | 0, _ => .error .spent
  | fuel + 1, c =>
    match c.eat? .bang, c.eat? .minus with
    | some c, _ => do
      let c ← c.enter
      let (e, c) ← unary fuel c
      return (.unary .not e, c.leave 1)
    | none, some c => do
      let c ← c.enter
      let (e, c) ← unary fuel c
      return (.unary .neg e, c.leave 1)
    | none, none => do
      let (e, c) ← primary fuel c
      suffixes fuel 0 e c

/-- The members and positions that follow. -/
def suffixes : Nat → Nat → Expr → Cursor → Except Stop (Expr × Cursor)
  | 0, _, _, _ => .error .spent
  | fuel + 1, entered, e, c =>
    match c.eat? .dot, c.eat? .openBracket with
    | some c, _ => do
      let c ← c.enter
      match c.tokens with
      | (_, .ident name) :: _ => suffixes fuel (entered + 1) (.get e (.field name)) c.advance
      | _ => c.fail .missingField
    | none, some c => do
      let c ← c.enter
      match c.tokens with
      | (_, .number x) :: _ =>
        match indexOf? x with
        | some i =>
          let c ← c.advance.expect .closeBracket
          suffixes fuel (entered + 1) (.get e (.index i)) c
        | none => c.fail .missingIndex
      | _ => c.fail .missingIndex
    | none, none => .ok (e, c.leave entered)

def primary : Nat → Cursor → Except Stop (Expr × Cursor)
  | 0, _ => .error .spent
  | fuel + 1, c =>
    match c.tokens with
    | [] => c.fail .ended
    | (_, .number x) :: _ =>
      match Json.ofFloat? x with
      | some j => .ok (.literal j, c.advance)
      | none => .error (.refused (.type (.notFinite x)))
    | (_, .str s) :: _ => .ok (.literal (.str s), c.advance)
    | (_, .ident name) :: _ =>
      if name = "true" then .ok (.literal (.bool true), c.advance)
      else if name = "false" then .ok (.literal (.bool false), c.advance)
      else if name = "null" then .ok (.literal .null, c.advance)
      else
        match c.advance.eat? .openParen with
        | none => .ok (.var name, c.advance)
        | some c => do
          let c ← c.enter
          match c.eat? .closeParen with
          | some c => return (.call name [], c.leave 1)
          | none =>
            let (args, c) ← arguments fuel c
            return (.call name args, c.leave 1)
    | (_, .punct .openParen) :: _ => do
      let (e, c) ← ternary fuel c.advance
      let c ← c.expect .closeParen
      return (e, c)
    | (_, .punct p) :: _ => c.fail (.misplaced p)

/-- The arguments that are left up to the closing parenthesis. -/
def arguments : Nat → Cursor → Except Stop (List Expr × Cursor)
  | 0, _ => .error .spent
  | fuel + 1, c => do
    let (e, c) ← ternary fuel c
    match c.eat? .closeParen with
    | some c => return ([e], c)
    | none =>
      let c ← c.expect .comma
      let (more, c) ← arguments fuel c
      return (e :: more, c)

end

/-- No token is passed over by more than twelve nested steps without being read. -/
def fuelFor (tokens : List (Nat × Token)) : Nat := 12 * (tokens.length + 1)

/-- The expression that all the tokens make up, where it is nested no deeper than the limit. -/
def whole (fuel limit finish : Nat) (tokens : List (Nat × Token)) : Except Stop Expr := do
  let (e, c) ← ternary fuel ⟨tokens, 0, limit, finish⟩
  match c.tokens with
  | [] => return e
  | (position, t) :: _ => .error (.refused (.malformed position (.trailing t)))

def parseWithin (limit finish : Nat) (tokens : List (Nat × Token)) : Except ExpressionError Expr :=
  (whole (fuelFor tokens) limit finish tokens).mapError Stop.error

def parseTokens (finish : Nat) (tokens : List (Nat × Token)) : Except ExpressionError Expr :=
  parseWithin maxDepth finish tokens

end Parser

/-- Reads an expression. Places are counted in characters, apart from the end of the text, which is
at its length in bytes. -/
def Expr.parse (source : String) : Except ExpressionError Expr := do
  let tokens ← Lexer.tokenize source.toList
  Parser.parseTokens source.utf8ByteSize tokens

end PageLayers
