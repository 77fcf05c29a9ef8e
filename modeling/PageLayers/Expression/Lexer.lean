import PageLayers.Expression.Error
import PageLayers.Text.Blank
import PageLayers.Text.Numeric
import PageLayers.Text.Digits

/-! Cutting the text of an expression into tokens. -/

namespace PageLayers.Lexer

def startsIdent (c : Char) : Bool := Text.isAlphabetic c || c == '_' || c == '$'

def inIdent (c : Char) : Bool := startsIdent c || Text.isNumeric c

/-- The digits of a number and what follows; a point belongs to it when a digit comes next. -/
def numberChars : List Char → List Char × List Char
  | [] => ([], [])
  | c :: rest =>
    if c.isDigit || (c == '.' && (rest.head?.any Char.isDigit)) then
      let (taken, left) := numberChars rest
      (c :: taken, left)
    else ([], c :: rest)

/-- The number with the given digits and at most one point among them. -/
def numberValue? (cs : List Char) : Option Float :=
  let whole := cs.takeWhile Char.isDigit
  let fraction := (cs.dropWhile Char.isDigit).drop 1
  if fraction.all Char.isDigit then
    let digits := Text.number (whole ++ fraction)
    some (Float.ofScientific digits true fraction.length)
  else none

/-- The text of a string after its opening quote, with what follows the closing one and the position
of that. `position` is that of the first of the characters. -/
def stringChars (start : Nat) (quote : Char) :
    Nat → List Char → Except ExpressionError (List Char × Nat × List Char)
  | _, [] => .error (.malformed start .unterminatedString)
  | position, '\\' :: rest =>
    match rest with
    | [] => .error (.malformed position .danglingEscape)
    | c :: rest =>
      let c := if c = 'n' then '\n' else if c = 't' then '\t' else c
      (stringChars start quote (position + 2) rest).map fun r => (c :: r.1, r.2)
  | position, c :: rest =>
    if c = quote then .ok ([], position + 1, rest)
    else (stringChars start quote (position + 1) rest).map fun r => (c :: r.1, r.2)

/-- The first token of a text that does not start with white space, with what follows it and the
position of that. -/
def token (position : Nat) (c : Char) (rest : List Char) :
    Except ExpressionError (Token × Nat × List Char) :=
  if c.isDigit then
    let (taken, left) := numberChars (c :: rest)
    match numberValue? taken with
    | some x => .ok (.number x, position + taken.length, left)
    | none => .error (.malformed position (.badNumber (String.ofList taken)))
  else if c = '"' ∨ c = '\x27' then
    (stringChars position c (position + 1) rest).map fun r => (.str (String.ofList r.1), r.2)
  else if startsIdent c then
    let name := (c :: rest).takeWhile inIdent
    .ok (.ident (String.ofList name), position + name.length, (c :: rest).dropWhile inIdent)
  else
    match Punct.read? (c :: rest) with
    | some (p, left) => .ok (.punct p, position + p.chars.length, left)
    | none => .error (.malformed position (.strayCharacter c))

/-- Each token takes at least one character, so the fuel may be the length of the text. -/
def tokens : Nat → Nat → List Char → Except Stop (List (Nat × Token))
  | _, _, [] => .ok []
  | 0, _, _ :: _ => .error .spent
  | fuel + 1, position, c :: rest =>
    if Text.isBlank c then tokens fuel (position + 1) rest
    else do
      let (t, next, left) ← (token position c rest).mapError .refused
      let more ← tokens fuel next left
      return (position, t) :: more

/-- The tokens of a text, each with the place of its first character. -/
def tokenize (cs : List Char) : Except ExpressionError (List (Nat × Token)) :=
  (tokens cs.length 0 cs).mapError Stop.error

end PageLayers.Lexer
