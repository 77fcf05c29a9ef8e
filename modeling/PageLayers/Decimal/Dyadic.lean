/-! The exact value of a double: a sign, a whole number and a power of two. -/

namespace PageLayers

/-- The number `± mantissa · 2 ^ exponent`. -/
structure Dyadic where
  negative : Bool
  mantissa : Nat
  exponent : Int
  deriving DecidableEq

namespace Dyadic

/-- The infinities and the value that is not a number have no exact value. -/
def ofFloat? (x : Float) : Option Dyadic :=
  let bits : Nat := x.toBits.toNat
  let negative := bits / 0x8000000000000000 == 1
  let biased : Nat := bits / 0x10000000000000 % 2048
  let fraction : Nat := bits % 0x10000000000000
  if biased = 2047 then none
  else if biased = 0 then some ⟨negative, fraction, -1074⟩
  else some ⟨negative, 0x10000000000000 + fraction, (biased : Int) - 1075⟩

/-- The size of a number without its sign, where it is whole. -/
def whole? (d : Dyadic) : Option Nat :=
  match d.exponent with
  | .ofNat e => some (d.mantissa * Nat.pow 2 e)
  | .negSucc e =>
    if d.mantissa % Nat.pow 2 (e + 1) = 0 then some (d.mantissa / Nat.pow 2 (e + 1)) else none

/-- What is left of `x` after taking away `y` as often as it fits; the sign is that of `x`. -/
def rem (x y : Dyadic) : Dyadic :=
  let grid := min x.exponent y.exponent
  let units (d : Dyadic) := d.mantissa * Nat.pow 2 (d.exponent - grid).toNat
  ⟨x.negative, units x % units y, grid⟩

/-- Exact where the number is a double; bits that do not fit are dropped. -/
def toFloat (d : Dyadic) : Float :=
  let sign := if d.negative then 0x8000000000000000 else 0
  if d.mantissa = 0 then Float.ofBits (UInt64.ofNat sign)
  else
    let width : Int := d.mantissa.log2 + 1
    let shift := min (53 - width) (d.exponent + 1074)
    let mantissa :=
      if 0 ≤ shift then d.mantissa * Nat.pow 2 shift.toNat
      else d.mantissa / Nat.pow 2 (-shift).toNat
    let biased := if mantissa < 0x10000000000000 then 0 else (d.exponent - shift + 1075).toNat
    Float.ofBits (UInt64.ofNat (sign + biased * 0x10000000000000 + mantissa % 0x10000000000000))

end Dyadic

end PageLayers
