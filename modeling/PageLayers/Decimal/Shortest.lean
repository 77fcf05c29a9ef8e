import PageLayers.Decimal.Dyadic

/-! The fewest decimal digits that read back to the same double. -/

namespace PageLayers

/-- The decimal `digits · 10 ^ exponent`. -/
structure Decimal where
  digits : Nat
  exponent : Int
  deriving DecidableEq

namespace Decimal

/-- `b ^ e` as a numerator and a denominator. -/
def power (b : Nat) (e : Int) : Nat × Nat := (b.pow e.toNat, b.pow (-e).toNat)

/-- Compares `x · a` with `y · b`, where `a` and `b` are fractions. -/
def compareScaled (x : Nat) (a : Nat × Nat) (y : Nat) (b : Nat × Nat) : Ordering :=
  compare (x * a.1 * b.2) (y * b.1 * a.2)

def digitCount (n : Nat) : Nat := (Nat.toDigits 10 n).length

/-- The exponent of the first decimal digit of `m · 2 ^ q`, for a positive `m`. -/
def leadingExponent (m : Nat) (q : Int) : Int :=
  let (a, b) := power 2 q
  let num := m * a
  if b ≤ num then digitCount (num / b) - 1
  else -(digitCount ((b + num - 1) / num - 1) : Int)

/-- The reals that round to the double `m · 2 ^ q`, in quarters of `2 ^ q`; below a power of two
the neighbours lie closer. The ends belong to it when `m` is even. -/
def roundsTo (m : Nat) (q : Int) (d : Decimal) : Bool :=
  let below := if m = 0x10000000000000 ∧ -1074 < q then 1 else 2
  let quarter := power 2 (q - 2)
  let ten := power 10 d.exponent
  let low := compareScaled d.digits ten (4 * m - below) quarter
  let high := compareScaled d.digits ten (4 * m + 2) quarter
  (low == .gt || (low == .eq && m % 2 == 0)) && (high == .lt || (high == .eq && m % 2 == 0))

/-- Of the two points around `m · 2 ^ q` on the grid of `10 ^ grid` the nearer one that rounds to
it; of two equally near ones the even one. -/
def onGrid? (m : Nat) (q grid : Int) : Option Decimal :=
  let (a, b) := power 2 q
  let (c, d) := power 10 grid
  let floor := m * a * d / (b * c)
  let lower : Decimal := ⟨floor, grid⟩
  let upper : Decimal := ⟨floor + 1, grid⟩
  match roundsTo m q lower, roundsTo m q upper with
  | true, true =>
    match compareScaled (2 * m) (power 2 q) (2 * floor + 1) (power 10 grid) with
    | .lt => some lower
    | .gt => some upper
    | .eq => some (if floor % 2 = 0 then lower else upper)
  | true, false => some lower
  | false, true => some upper
  | false, false => none

/-- Tries one digit more each time; seventeen digits always read back. -/
def search (m : Nat) (q leading : Int) : Nat → Nat → Decimal
  | 0, _ => ⟨0, 0⟩
  | steps + 1, count =>
    match onGrid? m q (leading - count) with
    | some d => d
    | none => search m q leading steps (count + 1)

/-- The shortest decimal of `m · 2 ^ q`, for a positive `m`. -/
def shortest (m : Nat) (q : Int) : Decimal := search m q (leadingExponent m q) 18 0

end Decimal

end PageLayers
