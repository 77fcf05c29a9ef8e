import PageLayers.Decimal.Shortest

/-! Where the digits of a number stand: in place around the point, or before a power of ten. -/

namespace PageLayers

/-- Numbers whose first digit has an exponent from `least` to `greatest` are written in place, all
others with an exponent, which `plus` gives a sign also when it is positive. -/
structure FloatLayout where
  least : Int
  greatest : Int
  plus : Bool

namespace FloatLayout

def dropZeros (digits : List Char) : List Char :=
  (digits.reverse.dropWhile (· = '0')).reverse

/-- In place there is always a digit after the point. -/
def positional (digits : List Char) (leading : Int) : List Char :=
  if leading < 0 then
    '0' :: '.' :: (List.replicate (-leading - 1).toNat '0' ++ digits)
  else
    let whole := (leading + 1).toNat
    let fraction := digits.drop whole
    digits.take whole ++ List.replicate (whole - digits.length) '0' ++
      '.' :: (if fraction.isEmpty then ['0'] else fraction)

def scientific (plus : Bool) (digits : List Char) (leading : Int) : List Char :=
  let fraction := digits.drop 1
  let sign := if leading < 0 then ['-'] else if plus then ['+'] else []
  digits.take 1 ++ (if fraction.isEmpty then [] else '.' :: fraction) ++
    'e' :: (sign ++ Nat.toDigits 10 leading.natAbs)

def magnitude (layout : FloatLayout) (d : Dyadic) : List Char :=
  if d.mantissa = 0 then "0.0".toList
  else
    let s := Decimal.shortest d.mantissa d.exponent
    let written := Nat.toDigits 10 s.digits
    let leading := s.exponent + written.length - 1
    let digits := dropZeros written
    if layout.least ≤ leading ∧ leading ≤ layout.greatest then positional digits leading
    else scientific layout.plus digits leading

/-- The shortest text of a double. -/
def text (layout : FloatLayout) (x : Float) : List Char :=
  match Dyadic.ofFloat? x with
  | some d => (if d.negative then ['-'] else []) ++ layout.magnitude d
  | none => if x.isNaN then "NaN".toList else if x < 0 then "-inf".toList else "inf".toList

end FloatLayout

end PageLayers
