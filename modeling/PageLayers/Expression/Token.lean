import PageLayers.Text.Alphabetic
import PageLayers.Text.Quoted
import PageLayers.Decimal.Layout

/-! The tokens of the expression language. -/

namespace PageLayers

inductive Punct where
  | both
  | either
  | equal
  | differs
  | atMost
  | atLeast
  | openParen
  | closeParen
  | openBracket
  | closeBracket
  | dot
  | comma
  | question
  | colon
  | bang
  | plus
  | minus
  | star
  | slash
  | percent
  | less
  | greater
  deriving DecidableEq

namespace Punct

def chars : Punct → List Char
  | both => ['&', '&']
  | either => ['|', '|']
  | equal => ['=', '=']
  | differs => ['!', '=']
  | atMost => ['<', '=']
  | atLeast => ['>', '=']
  | openParen => ['(']
  | closeParen => [')']
  | openBracket => ['[']
  | closeBracket => [']']
  | dot => ['.']
  | comma => [',']
  | question => ['?']
  | colon => [':']
  | bang => ['!']
  | plus => ['+']
  | minus => ['-']
  | star => ['*']
  | slash => ['/']
  | percent => ['%']
  | less => ['<']
  | greater => ['>']

def text (p : Punct) : String := String.ofList p.chars

/-- Those of two characters come first, so that the longest match is found. -/
def all : List Punct :=
  [both, either, equal, differs, atMost, atLeast, openParen, closeParen, openBracket,
   closeBracket, dot, comma, question, colon, bang, plus, minus, star, slash, percent, less,
   greater]

/-- The punctuation at the start of a text and what follows it. -/
def read? (cs : List Char) : Option (Punct × List Char) :=
  (all.find? fun p => p.chars.isPrefixOf cs).map fun p => (p, cs.drop p.chars.length)

end Punct

inductive Token where
  | number (x : Float)
  | str (s : String)
  | ident (name : String)
  | punct (p : Punct)
  deriving DecidableEq

namespace Token

/-- Floats in messages about tokens: in place from `1e-4` up to below `1e16`. -/
def layout : FloatLayout := ⟨-4, 15, false⟩

/-- How a message shows a token. -/
def shown : Token → String
  | number x => "Number(" ++ String.ofList (layout.text x) ++ ")"
  | str s => "Str(" ++ Text.quoted s ++ ")"
  | ident name => "Ident(" ++ Text.quoted name ++ ")"
  | punct p => "Punct(" ++ Text.quoted p.text ++ ")"

end Token

end PageLayers
