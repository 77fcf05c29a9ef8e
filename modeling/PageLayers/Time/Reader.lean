import PageLayers.Text.Digits

/-! Dates, times of day and offsets as they are written. Each reader gives what follows. -/

namespace PageLayers.Time

/-- A number of just so many digits within bounds, and what follows it. -/
def number? (count low high : Nat) (cs : List Char) : Option (Nat × List Char) :=
  let digits := cs.take count
  let n := Text.number digits
  if digits.length = count ∧ digits.all Char.isDigit ∧ low ≤ n ∧ n ≤ high then
    some (n, cs.drop count)
  else none

def mark? (isWanted : Char → Bool) : List Char → Option (List Char)
  | c :: rest => if isWanted c then some rest else none
  | [] => none

def daysIn (year month : Nat) : Nat :=
  if month = 2 then
    if year % 4 = 0 ∧ (year % 100 ≠ 0 ∨ year % 400 = 0) then 29 else 28
  else if [4, 6, 9, 11].contains month then 30
  else 31

def afterDate? (cs : List Char) : Option (List Char) := do
  let (year, cs) ← number? 4 0 9999 cs
  let (month, cs) ← number? 2 1 12 (← mark? (· = '-') cs)
  let (_, cs) ← number? 2 1 (daysIn year month) (← mark? (· = '-') cs)
  return cs

/-- A point behind the seconds, if there is one, has a digit after it. -/
def afterFraction? : List Char → Option (List Char)
  | '.' :: rest => if rest.head?.any Char.isDigit then some (rest.dropWhile Char.isDigit) else none
  | cs => some cs

/-- A minute may have a sixty-first second. -/
def afterClock? (cs : List Char) : Option (List Char) := do
  let (_, cs) ← number? 2 0 23 cs
  let (_, cs) ← number? 2 0 59 (← mark? (· = ':') cs)
  let (_, cs) ← number? 2 0 60 (← mark? (· = ':') cs)
  afterFraction? cs

/-- The letter for no offset, or hours and minutes with a sign. -/
def afterOffset? : List Char → Option (List Char)
  | 'Z' :: rest | 'z' :: rest => some rest
  | cs => do
    let (_, cs) ← number? 2 0 23 (← mark? (fun c => c = '+' ∨ c = '-') cs)
    let (_, cs) ← number? 2 0 59 (← mark? (· = ':') cs)
    return cs

/-- A letter or a blank stands between a date and a time of day. -/
def isSeparator (c : Char) : Bool := c = 'T' || c = 't' || c = ' '

end PageLayers.Time
