import PageLayers.Toml.Scalar

/-! Reading a settings file: pairs, headers, arrays and braced tables. -/

namespace PageLayers.Toml

/-- Arrays, braced tables and dotted keys stay below this depth. -/
def depthLimit : Nat := 80

def skipSpaces (cs : List Char) : List Char := cs.dropWhile isSpace

/-- Skips a comment, if one starts here. -/
def skipComment : List Char → List Char
  | '#' :: rest => rest.dropWhile isTextChar
  | cs => cs

/-- Skips blanks, ends of lines and comments. -/
def skipLines : Nat → List Char → List Char
  | 0, cs => cs
  | fuel + 1, cs =>
    let cs := skipComment (skipSpaces cs)
    match afterNewline? cs with
    | some rest => skipLines fuel rest
    | none => cs

def skipAll (cs : List Char) : List Char := skipLines cs.length cs

/-! ### Keys -/

def inKey (c : Char) : Bool :=
  ('a' ≤ c && c ≤ 'z') || ('A' ≤ c && c ≤ 'Z') || c.isDigit || c = '_' || c = '-'

def simpleKey? : List Char → Option (String × List Char)
  | '"' :: rest => quotedKey '"' rest
  | '\x27' :: rest => quotedKey '\x27' rest
  | cs =>
    let key := cs.takeWhile inKey
    if key.isEmpty then none else some (String.ofList key, cs.dropWhile inKey)
where
  quotedKey (quote : Char) (rest : List Char) : Option (String × List Char) :=
    (lineString? quote (rest.length + 1) rest).map fun r => (String.ofList r.1, r.2)

/-- The parts of a dotted key, and the rest without leading blanks. -/
def keyParts? : Nat → List Char → Option (List String × List Char)
  | 0, _ => none
  | fuel + 1, cs => do
    let (key, rest) ← simpleKey? (skipSpaces cs)
    match skipSpaces rest with
    | '.' :: rest => (keyParts? fuel rest).map fun r => (key :: r.1, r.2)
    | rest => return ([key], rest)

/-- A key as the path to its table and its last part. -/
def key? (cs : List Char) : Option (List String × String × List Char) := do
  let (parts, rest) ← keyParts? (cs.length + 1) cs
  if parts.length < depthLimit then return (parts.dropLast, ← parts.getLast?, rest) else none

/-! ### Values -/

mutual

/-- Reads one value; `depth` levels of arrays and braced tables may still open. -/
def value? : Nat → Nat → List Char → Option (Toml × List Char)
  | 0, _, _ => none
  | fuel + 1, depth, cs =>
    match cs with
    | '[' :: rest =>
      match depth with
      | 0 => none
      | depth + 1 => (items? fuel depth rest).map fun r => (array r.1, r.2)
    | '{' :: rest =>
      match depth, skipSpaces rest with
      | 0, _ => none
      | _, '}' :: rest => some (braced [], rest)
      | depth + 1, rest => (pairs? fuel depth [] rest).map fun r => (braced r.1, r.2)
    | '"' :: _ | '\x27' :: _ => (string? cs).map fun r => (string r.1, r.2)
    | _ => plain? cs

/-- Reads the items of an array up to its closing bracket; a comma may stand behind the last. -/
def items? : Nat → Nat → List Char → Option (List Toml × List Char)
  | 0, _, _ => none
  | fuel + 1, depth, cs =>
    match skipAll cs with
    | ']' :: rest => some ([], rest)
    | cs =>
      match value? fuel depth cs with
      | none => none
      | some (v, rest) =>
        match skipAll rest with
        | ',' :: rest => (items? fuel depth rest).map fun r => (v :: r.1, r.2)
        | ']' :: rest => some ([v], rest)
        | _ => none

/-- Reads the pairs that are left up to the closing brace and adds them to those read so far. -/
def pairs? : Nat → Nat → Entries → List Char → Option (Entries × List Char)
  | 0, _, _, _ => none
  | fuel + 1, depth, entries, cs =>
    match key? cs with
    | some (path, key, '=' :: rest) =>
      match value? fuel depth (skipSpaces rest) with
      | none => none
      | some (v, rest) =>
        match addPair path key v entries, skipSpaces rest with
        | some entries, ',' :: rest => pairs? fuel depth entries rest
        | some entries, '}' :: rest => some (entries, rest)
        | _, _ => none
    | _ => none

end

/-! ### Lines -/

/-- What has been read: all tables, and the header whose table the next pairs belong to. -/
structure Document where
  entries : Entries
  header : List String

/-- What follows the end of the current line, where only blanks and a comment may stand. -/
def afterLine? (cs : List Char) : Option (List Char) :=
  match skipComment (skipSpaces cs) with
  | [] => some []
  | cs => afterNewline? cs

def header? (doc : Document) (start : Option Toml → Option Toml) (closing : List Char)
    (cs : List Char) : Option (Document × List Char) := do
  let (path, key, rest) ← key? cs
  let entries ← addHeader start path key doc.entries
  if closing.isPrefixOf rest then return (⟨entries, path ++ [key]⟩, rest.drop closing.length)
  else none

def pair? (doc : Document) (cs : List Char) : Option (Document × List Char) := do
  let (path, key, rest) ← key? cs
  let rest ← match rest with
    | '=' :: rest => some rest
    | _ => none
  let (v, rest) ← value? (2 * rest.length + 2) (depthLimit - 1) (skipSpaces rest)
  return (⟨← addToTable doc.header path key v doc.entries, doc.header⟩, rest)

/-- Reads what stands on the line that starts here. -/
def line? (doc : Document) : List Char → Option (Document × List Char)
  | '[' :: '[' :: rest => header? doc openItem [']', ']'] rest
  | '[' :: rest => header? doc openTable [']'] rest
  | cs => pair? doc cs

def lines? : Nat → Document → List Char → Option Document
  | 0, _, _ => none
  | fuel + 1, doc, cs =>
    match skipAll cs with
    | [] => some doc
    | cs => do
      let (doc, rest) ← line? doc cs
      lines? fuel doc (← afterLine? rest)

/-- The tables of a text; a mark of byte order before it does not count. -/
def parse? (text : String) : Option Entries :=
  let cs := match text.toList with
    | '\ufeff' :: rest => rest
    | cs => cs
  (lines? (cs.length + 1) ⟨[], []⟩ cs).map Document.entries

end PageLayers.Toml
