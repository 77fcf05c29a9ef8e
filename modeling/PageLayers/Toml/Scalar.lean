import PageLayers.Toml.Value
import PageLayers.Text.Hex
import PageLayers.Time.Reader

/-! The plain values of a settings file: strings, numbers, truth values and points in time. Each
reader gives what it read and the rest of the text. -/

namespace PageLayers.Toml

/-- Tabs and all that is no control character. -/
def isTextChar (c : Char) : Bool := c = '\t' || (32 ≤ c.toNat && c.toNat ≠ 127)

def isSpace (c : Char) : Bool := c = ' ' || c = '\t'

/-- What follows the end of a line, if one is here. -/
def afterNewline? : List Char → Option (List Char)
  | '\n' :: rest => some rest
  | '\r' :: '\n' :: rest => some rest
  | _ => none

/-! ### Strings -/

/-- A character by the number that is written for it. -/
def codePoint? (digits : List Char) (count : Nat) : Option Char := do
  let values ← digits.mapM Text.hexValue?
  let n := values.foldl (fun n d => n * 16 + d) 0
  if digits.length = count ∧ n.isValidChar then some (Char.ofNat n) else none

/-- Reads what follows a backslash. -/
def escape? : List Char → Option (Char × List Char)
  | 'b' :: rest => some ('\x08', rest)
  | 't' :: rest => some ('\t', rest)
  | 'n' :: rest => some ('\n', rest)
  | 'f' :: rest => some ('\x0c', rest)
  | 'r' :: rest => some ('\r', rest)
  | '"' :: rest => some ('"', rest)
  | '\\' :: rest => some ('\\', rest)
  | 'u' :: rest => (codePoint? (rest.take 4) 4).map (·, rest.drop 4)
  | 'U' :: rest => (codePoint? (rest.take 8) 8).map (·, rest.drop 8)
  | _ => none

/-- What follows blanks and ends of lines. -/
def skipBlankLines : List Char → List Char
  | [] => []
  | '\r' :: '\n' :: rest => skipBlankLines rest
  | c :: rest => if isSpace c ∨ c = '\n' then skipBlankLines rest else c :: rest

/-- A backslash at the end of a line takes away the end and all blanks up to the next text. -/
def afterJoin? (cs : List Char) : Option (List Char) :=
  (afterNewline? (cs.dropWhile isSpace)).map skipBlankLines

/-- Reads a string on one line after its opening quote. -/
def lineString? (quote : Char) : Nat → List Char → Option (List Char × List Char)
  | 0, _ | _, [] => none
  | fuel + 1, c :: rest =>
    if c = quote then some ([], rest)
    else if c = '\\' ∧ quote = '"' then do
      let (x, rest) ← escape? rest
      let (text, rest) ← lineString? quote fuel rest
      return (x :: text, rest)
    else if isTextChar c then (lineString? quote fuel rest).map fun r => (c :: r.1, r.2)
    else none

/-- Reads a string on many lines after its three opening quotes. Up to two quotes may stand right
before the three closing ones. -/
def blockString? (quote : Char) : Nat → List Char → Option (List Char × List Char)
  | 0, _ | _, [] => none
  | fuel + 1, c :: rest =>
    let run := ((c :: rest).takeWhile (· = quote)).length
    if 3 ≤ run then
      some (List.replicate (min (run - 3) 2) quote, (c :: rest).drop (min run 5))
    else if c = '\\' ∧ quote = '"' then
      match afterJoin? rest with
      | some rest => blockString? quote fuel rest
      | none => do
        let (x, rest) ← escape? rest
        let (text, rest) ← blockString? quote fuel rest
        return (x :: text, rest)
    else
      match afterNewline? (c :: rest) with
      | some rest => (blockString? quote fuel rest).map fun r => ('\n' :: r.1, r.2)
      | none =>
        if isTextChar c then (blockString? quote fuel rest).map fun r => (c :: r.1, r.2) else none

/-- Reads a string from its opening quote on. The end of a line right after three opening quotes
does not count. -/
def string? : List Char → Option (String × List Char)
  | '"' :: '"' :: '"' :: rest => block '"' rest
  | '\x27' :: '\x27' :: '\x27' :: rest => block '\x27' rest
  | '"' :: rest => line '"' rest
  | '\x27' :: rest => line '\x27' rest
  | _ => none
where
  text (r : List Char × List Char) : String × List Char := (String.ofList r.1, r.2)
  block (quote : Char) (rest : List Char) : Option (String × List Char) :=
    let rest := (afterNewline? rest).getD rest
    (blockString? quote (rest.length + 1) rest).map text
  line (quote : Char) (rest : List Char) : Option (String × List Char) :=
    (lineString? quote (rest.length + 1) rest).map text

/-! ### Numbers -/

/-- Digits with single underscores between them, without the underscores. -/
def digits? (isDigit : Char → Bool) : List Char → Option (List Char)
  | [] => none
  | [c] => if isDigit c then some [c] else none
  | c :: '_' :: rest => if isDigit c then (digits? isDigit rest).map (c :: ·) else none
  | c :: rest => if isDigit c then (digits? isDigit rest).map (c :: ·) else none

def decimalDigits? : List Char → Option (List Char) := digits? Char.isDigit

/-- A whole number does not start with zero, unless it is zero. -/
def wholeDigits? (cs : List Char) : Option (List Char) :=
  match cs with
  | '0' :: _ :: _ => none
  | _ => decimalDigits? cs

def ofDigits (base : Nat) (digits : List Char) : Nat :=
  digits.foldl (fun n c => n * base + (Text.hexValue? c).getD 0) 0

/-- Integers have sixty-four bits. -/
def bounded? (i : Int) : Option Toml :=
  if -0x8000000000000000 ≤ i ∧ i < 0x8000000000000000 then some (integer i) else none

def signed : List Char → Bool × List Char
  | '+' :: rest => (false, rest)
  | '-' :: rest => (true, rest)
  | cs => (false, cs)

def isBaseDigit (base : Nat) (c : Char) : Bool := (Text.hexValue? c).any (· < base)

def based? (base : Nat) (cs : List Char) : Option Toml :=
  (digits? (isBaseDigit base) cs).bind fun ds => bounded? (ofDigits base ds)

def integer? (cs : List Char) : Option Toml :=
  match cs with
  | '0' :: 'x' :: rest => based? 16 rest
  | '0' :: 'o' :: rest => based? 8 rest
  | '0' :: 'b' :: rest => based? 2 rest
  | _ => do
    let (negative, cs) := signed cs
    let n := ofDigits 10 (← wholeDigits? cs)
    bounded? (if negative then -n else n)

/-- `digits · 10 ^ e`, where a size that no double comes near is not computed. -/
def floatOf (digits : List Char) (e : Int) : Float :=
  let significant := digits.dropWhile (· = '0')
  let size : Int := significant.length + e
  if significant.isEmpty ∨ size < -400 then 0
  else if 400 < size then 1 / 0
  else Float.ofScientific (ofDigits 10 significant) (e < 0) e.natAbs

/-- The exponent after its letter; no letter stands for none. -/
def exponent? : List Char → Option Int
  | [] => some 0
  | _ :: rest => do
    let (negative, cs) := signed rest
    let n := ofDigits 10 (← decimalDigits? cs)
    return if negative then -n else n

def isExponentLetter (c : Char) : Bool := c = 'e' || c = 'E'

/-- Reads a number with a fraction, an exponent or both; it may not grow beyond all doubles. -/
def float? (cs : List Char) : Option Toml := do
  let (negative, cs) := signed cs
  let sign (x : Float) : Float := if negative then -x else x
  if cs = "inf".toList then return float (sign (1 / 0))
  if cs = "nan".toList then return float (sign (0 / 0))
  guard (cs.any fun c => c = '.' ∨ isExponentLetter c)
  let mantissa := cs.takeWhile fun c => !isExponentLetter c
  let e ← exponent? (cs.dropWhile fun c => !isExponentLetter c)
  let whole ← wholeDigits? (mantissa.takeWhile (· ≠ '.'))
  let fraction ← match mantissa.dropWhile (· ≠ '.') with
    | [] => some []
    | _ :: rest => decimalDigits? rest
  let x := sign (floatOf (whole ++ fraction) (e - fraction.length))
  if x == 1 / 0 then none else return float x

/-! ### Points in time -/

/-- Nothing, or an offset and no more. -/
def endsInOffset (cs : List Char) : Bool := cs.isEmpty || Time.afterOffset? cs = some []

/-- A date, a time of day, or both, and then perhaps an offset. -/
def moment? (cs : List Char) : Option Toml :=
  let wellFormed :=
    match Time.afterDate? cs with
    | some [] => true
    | some (c :: rest) => Time.isSeparator c && (Time.afterClock? rest).any endsInOffset
    | none => Time.afterClock? cs = some []
  if wellFormed then some moment else none

/-! ### Values without quotes -/

def inWord (c : Char) : Bool := c.isAlphanum || c = '+' || c = '-' || c = '_' || c = '.' || c = ':'

/-- The characters of a value without quotes. Between a date and a time one space may stand. -/
def word (cs : List Char) : List Char × List Char :=
  let first := cs.takeWhile inWord
  match Time.afterDate? first, cs.dropWhile inWord with
  | some [], ' ' :: c :: rest =>
    if c.isDigit then
      (first ++ ' ' :: (c :: rest).takeWhile inWord, (c :: rest).dropWhile inWord)
    else (first, ' ' :: c :: rest)
  | _, rest => (first, rest)

def plain? (cs : List Char) : Option (Toml × List Char) :=
  let (w, rest) := word cs
  let value :=
    if w = "true".toList then some (boolean true)
    else if w = "false".toList then some (boolean false)
    else ((moment? w).or (integer? w)).or (float? w)
  value.map (·, rest)

end PageLayers.Toml
