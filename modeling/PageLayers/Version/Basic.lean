import PageLayers.Text.Quoted
import PageLayers.Text.Split
import PageLayers.Text.Digits

/-! Semantic versions: their text and their order. -/

namespace PageLayers

structure Version where
  major : Nat
  minor : Nat
  patch : Nat
  pre : List (List Char)
  build : List (List Char)
  deriving DecidableEq

/-- The parts of a version text. -/
inductive VersionPart where
  | major
  | minor
  | patch
  | pre
  | build
  deriving DecidableEq

def VersionPart.text : VersionPart → String
  | major => "major version number"
  | minor => "minor version number"
  | patch => "patch version number"
  | pre => "pre-release identifier"
  | build => "build metadata"

/-- Why a text is no version. -/
inductive VersionError where
  | empty
  | ended (part : VersionPart)
  | unexpected (c : Char) (part : VersionPart)
  | unexpectedAfter (c : Char) (part : VersionPart)
  | leadingZero (part : VersionPart)
  | tooLarge (part : VersionPart)
  | emptySegment (part : VersionPart)
  deriving DecidableEq

def VersionError.message : VersionError → String
  | empty => "empty string, expected a semver version"
  | ended part => s!"unexpected end of input while parsing {part.text}"
  | unexpected c part => s!"unexpected character {Text.quotedChar c} while parsing {part.text}"
  | unexpectedAfter c part => s!"unexpected character {Text.quotedChar c} after {part.text}"
  | leadingZero part => s!"invalid leading zero in {part.text}"
  | tooLarge part => s!"value of {part.text} exceeds u64::MAX"
  | emptySegment part => s!"empty identifier segment in {part.text}"

namespace Version

/-- The digits that follow a part of a number. -/
def digits (part : VersionPart) : Nat → List Char → Except VersionError (Nat × List Char)
  | n, [] => .ok (n, [])
  | n, c :: rest =>
    if !c.isDigit then .ok (n, c :: rest)
    else if n = 0 then .error (.leadingZero part)
    else if Text.addDigit n c < Text.wordLimit then digits part (Text.addDigit n c) rest
    else .error (.tooLarge part)

def number (part : VersionPart) : List Char → Except VersionError (Nat × List Char)
  | [] => .error (.ended part)
  | c :: rest =>
    if c.isDigit then digits part (Text.digitValue c) rest else .error (.unexpected c part)

def dot (part : VersionPart) : List Char → Except VersionError (List Char)
  | [] => .error (.ended part)
  | '.' :: rest => .ok rest
  | c :: _ => .error (.unexpectedAfter c part)

def inSegment (c : Char) : Bool := c.isAlphanum || c == '-'

/-- A number in a pre-release may not start with a zero. -/
def badSegment (part : VersionPart) (segment : List Char) : Bool :=
  part == .pre && segment.all Char.isDigit && 1 < segment.length && segment.head? == some '0'

def checked (part : VersionPart) (segment : List Char) : Except VersionError Unit :=
  if segment.isEmpty then .error (.emptySegment part)
  else if badSegment part segment then .error (.leadingZero part)
  else .ok ()

/-- Segments between dots. `segment` holds what is read of the present one in reverse. -/
def segments (part : VersionPart) (segment : List Char) :
    List Char → Except VersionError (List (List Char) × List Char)
  | [] => do
    checked part segment.reverse
    return ([segment.reverse], [])
  | c :: rest =>
    if inSegment c then segments part (c :: segment) rest
    else do
      checked part segment.reverse
      if c = '.' then
        let (more, left) ← segments part [] rest
        return (segment.reverse :: more, left)
      else return ([segment.reverse], c :: rest)

/-- An optional list of segments after its mark, with the last part that was read. -/
def optionalSegments (mark : Char) (part last : VersionPart) (cs : List Char) :
    Except VersionError (List (List Char) × VersionPart × List Char) :=
  match cs with
  | c :: rest =>
    if c = mark then (segments part [] rest).map fun r => (r.1, part, r.2) else .ok ([], last, cs)
  | [] => .ok ([], last, [])

def ofChars (cs : List Char) : Except VersionError Version := do
  if cs.isEmpty then throw .empty
  let (major, cs) ← number .major cs
  let cs ← dot .major cs
  let (minor, cs) ← number .minor cs
  let cs ← dot .minor cs
  let (patch, cs) ← number .patch cs
  let (pre, last, cs) ← optionalSegments '-' .pre .patch cs
  let (build, last, cs) ← optionalSegments '+' .build last cs
  match cs with
  | [] => return ⟨major, minor, patch, pre, build⟩
  | c :: _ => throw (.unexpectedAfter c last)

def parse (s : String) : Except VersionError Version := ofChars s.toList

def segmentsText (mark : String) (l : List (List Char)) : String :=
  if l.isEmpty then "" else mark ++ ".".intercalate (l.map String.ofList)

def text (v : Version) : String :=
  toString v.major ++ "." ++ toString v.minor ++ "." ++ toString v.patch ++
    segmentsText "-" v.pre ++ segmentsText "+" v.build

def isNumeric (segment : List Char) : Bool := segment.all Char.isDigit

/-- Numbers come before words; numbers compare by size and words by their characters. -/
def compareSegment (onNumbers : List Char → List Char → Ordering) (a b : List Char) : Ordering :=
  match isNumeric a, isNumeric b with
  | true, true => onNumbers a b
  | true, false => .lt
  | false, true => .gt
  | false, false => compare a b

/-- A longer list comes after what it starts with. -/
def compareSegments (cmp : List Char → List Char → Ordering) :
    List (List Char) → List (List Char) → Ordering
  | [], [] => .eq
  | [], _ :: _ => .lt
  | _ :: _, [] => .gt
  | a :: as, b :: bs => (cmp a b).then (compareSegments cmp as bs)

/-- Of numbers without leading zeros the longer one is greater. -/
def compareSize (a b : List Char) : Ordering := (compare a.length b.length).then (compare a b)

/-- Numbers of equal size compare by their leading zeros. -/
def comparePadded (a b : List Char) : Ordering :=
  (compareSize (a.dropWhile (· = '0')) (b.dropWhile (· = '0'))).then (compare a.length b.length)

/-- A version without a pre-release comes after all its pre-releases. -/
def comparePre (a b : List (List Char)) : Ordering :=
  match a, b with
  | [], [] => .eq
  | [], _ :: _ => .gt
  | _ :: _, [] => .lt
  | a, b => compareSegments (compareSegment compareSize) a b

instance : Ord Version where
  compare a b :=
    (compare a.major b.major).then <| (compare a.minor b.minor).then <|
      (compare a.patch b.patch).then <| (comparePre a.pre b.pre).then <|
        compareSegments (compareSegment comparePadded) a.build b.build

def lessThan (a b : Version) : Bool := compare a b == .lt

end Version

end PageLayers
