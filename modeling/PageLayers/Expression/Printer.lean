import PageLayers.Expression.Basic
import PageLayers.Json.Text

/-! Expressions written out as trees, each node in parentheses with its operator in front. -/

namespace PageLayers

namespace UnaryOp

def text : UnaryOp → String
  | not => "not"
  | neg => "neg"

end UnaryOp

namespace BinaryOp

def text : BinaryOp → String
  | add => "+"
  | sub => "-"
  | mul => "*"
  | div => "/"
  | rem => "%"
  | lt => "<"
  | le => "<="
  | gt => ">"
  | ge => ">="
  | eq => "=="
  | ne => "!="
  | and => "&&"
  | or => "||"

end BinaryOp

namespace Segment

def text : Segment → String
  | field name => "." ++ name
  | index i => "[" ++ toString i ++ "]"

end Segment

namespace Expr

mutual

def treeText : Expr → String
  | literal j => j.text
  | var name => "(var " ++ name ++ ")"
  | get e seg => "(get " ++ treeText e ++ " " ++ seg.text ++ ")"
  | unary op e => "(" ++ op.text ++ " " ++ treeText e ++ ")"
  | binary op l r => "(" ++ op.text ++ " " ++ treeText l ++ " " ++ treeText r ++ ")"
  | ternary c yes no => "(? " ++ treeText c ++ " " ++ treeText yes ++ " " ++ treeText no ++ ")"
  | call name args => "(call " ++ name ++ treeTexts args ++ ")"

def treeTexts : List Expr → String
  | [] => ""
  | e :: rest => " " ++ treeText e ++ treeTexts rest

end

end Expr

end PageLayers
