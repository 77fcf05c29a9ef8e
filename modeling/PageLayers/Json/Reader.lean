import PageLayers.Json.Value
import PageLayers.Text.Hex
import PageLayers.Text.Digits

/-! Reading JSON text. Numbers keep sixty-four bits of their digits; arrays and objects nest at most
127 deep. -/

namespace PageLayers

namespace Number

/-- `f · 10 ^ e` by one rounded step, or by several where `e` is far below zero; none when the
result is too large. -/
def scaled? : Nat → Float → Int → Option Float
  | 0, f, _ => some f
  | fuel + 1, f, e =>
    if e.natAbs ≤ 308 then
      let ten := Float.ofScientific 1 false e.natAbs
      if 0 ≤ e then
        let g := f * ten
        if g.isInf then none else some g
      else some (f / ten)
    else if f == 0 then some f
    else if 0 ≤ e then none
    else scaled? fuel (f / Float.ofScientific 1 false 308) (e + 308)

def ofParts? (negative : Bool) (significand : Nat) (e : Int) : Option Number :=
  (scaled? 4 (Float.ofNat significand) e).map fun f => float (if negative then -f else f)

/-- Takes in digits while the number they make fits in sixty-four bits. -/
def takeDigits : Nat → List Char → Nat × List Char
  | n, [] => (n, [])
  | n, c :: rest =>
    if c.isDigit ∧ Text.addDigit n c < Text.wordLimit then takeDigits (Text.addDigit n c) rest
    else (n, c :: rest)

def startsWithDigit : List Char → Bool
  | c :: _ => c.isDigit
  | [] => false

/-- Whether the exponent is negative, and its digits with what follows them. -/
def exponentSign : List Char → Bool × List Char
  | '+' :: rest => (false, rest)
  | '-' :: rest => (true, rest)
  | cs => (false, cs)

/-- An exponent that has grown past thirty-one bits makes the number zero or too large. -/
def exponent? (negative : Bool) (significand : Nat) (e : Int) (cs : List Char) :
    Option (Number × List Char) :=
  let (down, cs) := exponentSign cs
  let digits := cs.takeWhile Char.isDigit
  let rest := cs.dropWhile Char.isDigit
  if digits.isEmpty then none
  else
    let size : Nat := Text.number digits
    if 0x80000000 ≤ size then
      if significand ≠ 0 ∧ !down then none
      else some (float (if negative then -0.0 else 0.0), rest)
    else
      (ofParts? negative significand (if down then e - size else e + size)).map (·, rest)

def afterDigits? (negative : Bool) (significand : Nat) (e : Int) :
    List Char → Option (Number × List Char)
  | 'e' :: rest | 'E' :: rest => exponent? negative significand e rest
  | cs => (ofParts? negative significand e).map (·, cs)

/-- Reads what follows the point. Once a digit no longer fits, it and all later ones are dropped. -/
def fraction? (negative : Bool) (significand : Nat) (e : Int) (cs : List Char) :
    Option (Number × List Char) :=
  if startsWithDigit cs then
    let (n, rest) := takeDigits significand cs
    afterDigits? negative n (e - (cs.length - rest.length : Nat)) (rest.dropWhile Char.isDigit)
  else none

/-- Reads what follows the digits before the point, of which `dropped` did not fit. Negative zero is
a float, and so is a whole number outside sixty-four bits. -/
def afterWhole? (negative : Bool) (n dropped : Nat) : List Char → Option (Number × List Char)
  | '.' :: rest => fraction? negative n dropped rest
  | 'e' :: rest | 'E' :: rest => exponent? negative n dropped rest
  | rest =>
    if dropped ≠ 0 then (ofParts? negative n dropped).map (·, rest)
    else if !negative then some (int n, rest)
    else if 1 ≤ n ∧ n ≤ 0x8000000000000000 then some (int (-n), rest)
    else some (float (-Float.ofNat n), rest)

/-- Reads the digits of a number after its sign. -/
def unsigned? (negative : Bool) (cs : List Char) : Option (Number × List Char) :=
  if !startsWithDigit cs then none
  else if cs.head? = some '0' ∧ startsWithDigit cs.tail then none
  else
    let (n, fitted) := takeDigits 0 cs
    let rest := fitted.dropWhile Char.isDigit
    afterWhole? negative n (fitted.length - rest.length) rest

def read? : List Char → Option (Number × List Char)
  | '-' :: rest => unsigned? true rest
  | cs => unsigned? false cs

end Number

namespace Json

def isBlank (c : Char) : Bool := c = ' ' || c = '\n' || c = '\t' || c = '\r'

def skipBlanks (cs : List Char) : List Char := cs.dropWhile isBlank

def hexUnit? (a b c d : Char) : Option Nat := do
  let values ← [a, b, c, d].mapM Text.hexValue?
  return values.foldl (fun n v => n * 16 + v) 0

/-- A unit that is no character by itself is none here. -/
def unitChar? (n : Nat) : Option Char :=
  if 0xD800 ≤ n ∧ n < 0xE000 then none else some (Char.ofNat n)

def pairChar? (high low : Nat) : Option Char :=
  if 0xD800 ≤ high ∧ high < 0xDC00 ∧ 0xDC00 ≤ low ∧ low < 0xE000 then
    some (Char.ofNat (0x10000 + (high - 0xD800) * 1024 + (low - 0xDC00)))
  else none

def escape? : Char → Option Char
  | '"' => some '"'
  | '\\' => some '\\'
  | '/' => some '/'
  | 'b' => some '\x08'
  | 'f' => some '\x0c'
  | 'n' => some '\n'
  | 'r' => some '\r'
  | 't' => some '\t'
  | _ => none

/-- Reads a string after its opening quote. -/
def stringBody? : List Char → Option (List Char × List Char)
  | [] => none
  | '"' :: rest => some ([], rest)
  | '\\' :: 'u' :: a :: b :: c :: d :: rest =>
    match (hexUnit? a b c d).bind unitChar?, rest with
    | some x, rest => (stringBody? rest).map fun r => (x :: r.1, r.2)
    | none, '\\' :: 'u' :: a' :: b' :: c' :: d' :: rest =>
      match (hexUnit? a b c d).bind fun h => (hexUnit? a' b' c' d').bind (pairChar? h) with
      | some x => (stringBody? rest).map fun r => (x :: r.1, r.2)
      | none => none
    | none, _ => none
  | '\\' :: c :: rest =>
    match escape? c with
    | some x => (stringBody? rest).map fun r => (x :: r.1, r.2)
    | none => none
  | c :: rest =>
    if c = '\\' ∨ c.toNat < 32 then none
    else (stringBody? rest).map fun r => (c :: r.1, r.2)

def literal? (word : String) (j : Json) (cs : List Char) : Option (Json × List Char) :=
  if word.toList.isPrefixOf cs then some (j, cs.drop word.length) else none

mutual

/-- Reads one value; `depth` levels of arrays and objects may still open. -/
def value? : Nat → Nat → List Char → Option (Json × List Char)
  | 0, _, _ => none
  | fuel + 1, depth, cs =>
    match skipBlanks cs with
    | 'n' :: rest => literal? "null" null ('n' :: rest)
    | 't' :: rest => literal? "true" (bool true) ('t' :: rest)
    | 'f' :: rest => literal? "false" (bool false) ('f' :: rest)
    | '"' :: rest => (stringBody? rest).map fun r => (str (String.ofList r.1), r.2)
    | '[' :: rest =>
      match depth, skipBlanks rest with
      | 0, _ => none
      | _, ']' :: rest => some (arr [], rest)
      | depth + 1, rest => (items? fuel depth rest).map fun r => (arr r.1, r.2)
    | '{' :: rest =>
      match depth, skipBlanks rest with
      | 0, _ => none
      | _, '}' :: rest => some (obj [], rest)
      | depth + 1, rest => (fields? fuel depth rest).map fun r => (obj r.1, r.2)
    | cs => (Number.read? cs).map fun r => (num r.1, r.2)

/-- Reads the items that are left up to the closing bracket. -/
def items? : Nat → Nat → List Char → Option (List Json × List Char)
  | 0, _, _ => none
  | fuel + 1, depth, cs =>
    match value? fuel depth cs with
    | none => none
    | some (j, rest) =>
      match skipBlanks rest with
      | ',' :: rest => (items? fuel depth rest).map fun r => (j :: r.1, r.2)
      | ']' :: rest => some ([j], rest)
      | _ => none

/-- Reads the fields that are left up to the closing brace, in the order they are written. -/
def fields? : Nat → Nat → List Char → Option (List (String × Json) × List Char)
  | 0, _, _ => none
  | fuel + 1, depth, cs =>
    match skipBlanks cs with
    | '"' :: rest =>
      match stringBody? rest with
      | none => none
      | some (k, rest) =>
        match skipBlanks rest with
        | ':' :: rest =>
          match value? fuel depth rest with
          | none => none
          | some (j, rest) =>
            match skipBlanks rest with
            | ',' :: rest =>
              (fields? fuel depth rest).map fun r => ((String.ofList k, j) :: r.1, r.2)
            | '}' :: rest => some ([(String.ofList k, j)], rest)
            | _ => none
        | _ => none
    | _ => none

end

def nestingLimit : Nat := 127

/-- The value that is written, with the fields of its objects as they stand in the text. -/
def ofChars? (cs : List Char) : Option Json :=
  match value? (2 * cs.length + 1) nestingLimit cs with
  | some (j, rest) => if (skipBlanks rest).isEmpty then some j else none
  | none => none

def written? (text : String) : Option Json := ofChars? text.toList

/-- The value of a text, with the fields of its objects in order. -/
def parse? (text : String) : Option Json := (written? text).map canonical

end Json

end PageLayers
