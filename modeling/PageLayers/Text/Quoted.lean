import PageLayers.Text.Printable

/-! Texts and characters between quotes, with what does not show written as an escape. -/

namespace PageLayers.Text

def hexEscape (c : Char) : List Char :=
  '\\' :: 'u' :: '{' :: (Nat.toDigits 16 c.toNat ++ ['}'])

/-- How a character stands between the given quotes. -/
def shown (quote : Char) (c : Char) : List Char :=
  if c = quote ∨ c = '\\' then ['\\', c]
  else if c = '\x00' then ['\\', '0']
  else if c = '\t' then ['\\', 't']
  else if c = '\n' then ['\\', 'n']
  else if c = '\r' then ['\\', 'r']
  else if isGraphemeExtend c || !isPrintable c then hexEscape c
  else [c]

def quoted (s : String) : String :=
  String.ofList ('"' :: (s.toList.flatMap (shown '"') ++ ['"']))

def quotedChar (c : Char) : String := String.ofList ('\'' :: (shown '\'' c ++ ['\'']))

end PageLayers.Text
