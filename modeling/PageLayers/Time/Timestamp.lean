import PageLayers.Time.Reader

/-! Points in time, written as a date, a time of day and an offset. -/

namespace PageLayers

namespace Timestamp

def isWellFormed (s : String) : Bool :=
  (do
    let cs ← Time.afterDate? s.toList
    let cs ← Time.afterClock? (← Time.mark? Time.isSeparator cs)
    Time.afterOffset? cs) = some []

end Timestamp

structure Timestamp where
  text : String
  wellFormed : Timestamp.isWellFormed text = true
  deriving DecidableEq

namespace Timestamp

def ofText? (s : String) : Option Timestamp :=
  if h : isWellFormed s = true then some ⟨s, h⟩ else none

/-- The start of the count of seconds on most clocks. -/
def epoch : Timestamp := ⟨"1970-01-01T00:00:00Z", by decide +kernel⟩

/-- A number of at least so many digits. -/
def padded (width n : Nat) : String :=
  let digits := toString n
  String.ofList (List.replicate (width - digits.length) '0') ++ digits

/-- The year, month and day that lie so many days after the start of the first of March of the year
zero; leap days are the last of the years that start in March. -/
def civil (days : Nat) : Nat × Nat × Nat :=
  let era := days / 146097
  let dayOfEra := days % 146097
  let yearOfEra := (dayOfEra - dayOfEra / 1460 + dayOfEra / 36524 - dayOfEra / 146096) / 365
  let dayOfYear := dayOfEra - (365 * yearOfEra + yearOfEra / 4 - yearOfEra / 100)
  let month := (5 * dayOfYear + 2) / 153
  let day := dayOfYear - (153 * month + 2) / 5 + 1
  let year := era * 400 + yearOfEra
  if month < 10 then (year, month + 3, day) else (year + 1, month - 9, day)

/-- The time so many seconds after the epoch; the epoch itself past the year 9999. -/
def atSecond (seconds : Nat) : Timestamp :=
  let (year, month, day) := civil (seconds / 86400 + 719468)
  let time := seconds % 86400
  let date := padded 4 year ++ "-" ++ padded 2 month ++ "-" ++ padded 2 day
  let clock := padded 2 (time / 3600) ++ ":" ++ padded 2 (time / 60 % 60) ++ ":" ++
    padded 2 (time % 60)
  (ofText? (date ++ "T" ++ clock ++ "Z")).getD epoch

end Timestamp

end PageLayers
