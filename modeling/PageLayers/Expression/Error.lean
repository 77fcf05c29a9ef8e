import PageLayers.Expression.Token
import PageLayers.Json.Text

/-! What can go wrong with an expression, and how it is told. -/

namespace PageLayers

/-- Why a text is no expression. -/
inductive SyntaxFault where
  | badNumber (text : String)
  | unterminatedString
  | danglingEscape
  | strayCharacter (c : Char)
  | trailing (token : Token)
  | missing (p : Punct)
  | missingField
  | missingIndex
  | ended
  | misplaced (p : Punct)
  deriving DecidableEq

/-- Why an operation does not take its operands. -/
inductive TypeFault where
  | notFinite (x : Float)
  | notNumber (op : String) (value : Json)
  | noField (name : String)
  | outOfBounds (index : Nat)
  | unreadable (name : String) (value : Json)
  | unindexable (value : Json) (index : Nat)
  | noLength (value : Json)
  deriving DecidableEq

inductive ExpressionError where
  | malformed (position : Nat) (fault : SyntaxFault)
  | tooDeep
  | unknownIdentifier (name : String)
  | unknownFunction (name : String)
  | arity (name : String) (actual : Nat)
  | type (fault : TypeFault)
  | divisionByZero
  | gasExhausted (limit : Nat)
  deriving DecidableEq

/-- Why reading an expression stops: the text is turned down, or the fuel is spent. -/
inductive Stop where
  | refused (error : ExpressionError)
  | spent
  deriving DecidableEq

/-- Readers have fuel enough for any nesting that there can be in their text. -/
def Stop.error : Stop → ExpressionError
  | refused error => error
  | spent => .tooDeep

def SyntaxFault.message : SyntaxFault → String
  | badNumber text => s!"bad number `{text}`"
  | unterminatedString => "unterminated string"
  | danglingEscape => "dangling escape"
  | strayCharacter c => s!"unexpected character `{c}`"
  | trailing token => s!"unexpected trailing {token.shown}"
  | missing p => s!"expected `{p.text}`"
  | missingField => "expected field name after `.`"
  | missingIndex => "expected non-negative integer index"
  | ended => "unexpected end of expression"
  | misplaced p => s!"unexpected `{p.text}`"

def TypeFault.message : TypeFault → String
  | notFinite x => String.ofList (Number.layout.text x) ++ " is not a finite number"
  | notNumber op value => s!"`{op}` expects numbers, got {value.text}"
  | noField name => s!"no field `{name}`"
  | outOfBounds index => s!"index {index} out of bounds"
  | unreadable name value => s!"cannot read `{name}` of {value.text}"
  | unindexable value index => s!"cannot index {value.text} with [{index}]"
  | noLength value => s!"len() of {value.text}"

def ExpressionError.message : ExpressionError → String
  | malformed position fault => s!"syntax error at {position}: {fault.message}"
  | tooDeep => "expression nested too deeply"
  | unknownIdentifier name => s!"unknown identifier `{name}`"
  | unknownFunction name => s!"unknown function `{name}`"
  | arity name actual => s!"`{name}` expects 1 argument(s), got {actual}"
  | type fault => s!"type error: {fault.message}"
  | divisionByZero => "division by zero"
  | gasExhausted limit => s!"gas exhausted after {limit} steps"

end PageLayers
