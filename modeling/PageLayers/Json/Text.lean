import PageLayers.Json.Value
import PageLayers.Decimal.Layout

/-! The text of a JSON value, compact or laid out over lines. -/

namespace PageLayers

/-- Floats from `1e-5` up to below `1e16` are written in place, the others with a signed
exponent. -/
def Number.layout : FloatLayout := ⟨-5, 15, true⟩

def Number.chars : Number → List Char
  | .int i => if i < 0 then '-' :: Nat.toDigits 10 i.natAbs else Nat.toDigits 10 i.natAbs
  | .float x => Number.layout.text x

namespace Json

def hexDigit (n : Nat) : Char := Nat.digitChar (n % 16)

/-- A quote, a backslash and the characters below the blank are escaped, all others are not. -/
def escaped (c : Char) : List Char :=
  if c = '"' then ['\\', '"']
  else if c = '\\' then ['\\', '\\']
  else if c = '\n' then ['\\', 'n']
  else if c = '\r' then ['\\', 'r']
  else if c = '\t' then ['\\', 't']
  else if c = '\x08' then ['\\', 'b']
  else if c = '\x0c' then ['\\', 'f']
  else if c.toNat < 32 then ['\\', 'u', '0', '0', hexDigit (c.toNat / 16), hexDigit c.toNat]
  else [c]

def quoted (s : String) : List Char := '"' :: (s.toList.flatMap escaped ++ ['"'])

mutual

def chars : Json → List Char
  | null => "null".toList
  | bool true => "true".toList
  | bool false => "false".toList
  | num n => n.chars
  | str s => quoted s
  | arr [] => ['[', ']']
  | arr (j :: rest) => '[' :: (chars j ++ itemsChars rest)
  | obj [] => ['{', '}']
  | obj ((k, j) :: rest) => '{' :: (quoted k ++ ':' :: (chars j ++ fieldsChars rest))

def itemsChars : List Json → List Char
  | [] => [']']
  | j :: rest => ',' :: (chars j ++ itemsChars rest)

def fieldsChars : List (String × Json) → List Char
  | [] => ['}']
  | (k, j) :: rest => ',' :: (quoted k ++ ':' :: (chars j ++ fieldsChars rest))

end

/-- The compact text. -/
def text (j : Json) : String := String.ofList j.chars

def newline (depth : Nat) : List Char := '\n' :: List.replicate (2 * depth) ' '

mutual

def linesChars (depth : Nat) : Json → List Char
  | arr (j :: rest) =>
    '[' :: (newline (depth + 1) ++ linesChars (depth + 1) j ++ itemsLines depth rest)
  | obj ((k, j) :: rest) =>
    '{' :: (newline (depth + 1) ++ quoted k ++ ':' :: ' ' :: linesChars (depth + 1) j ++
      fieldsLines depth rest)
  | arr [] => ['[', ']']
  | obj [] => ['{', '}']
  | null => chars null
  | bool b => chars (bool b)
  | num n => n.chars
  | str s => quoted s

def itemsLines (depth : Nat) : List Json → List Char
  | [] => newline depth ++ [']']
  | j :: rest =>
    ',' :: (newline (depth + 1) ++ linesChars (depth + 1) j ++ itemsLines depth rest)

def fieldsLines (depth : Nat) : List (String × Json) → List Char
  | [] => newline depth ++ ['}']
  | (k, j) :: rest =>
    ',' :: (newline (depth + 1) ++ quoted k ++ ':' :: ' ' :: linesChars (depth + 1) j ++
      fieldsLines depth rest)

end

/-- One field or item a line, two blanks deeper for each level. -/
def lines (j : Json) : String := String.ofList (j.linesChars 0)

end Json

end PageLayers
