import PageLayers.Text.Digits

/-! Hexadecimal digits, in either case. -/

namespace PageLayers.Text

def hexValue? (c : Char) : Option Nat :=
  if c.isDigit then some (digitValue c)
  else if 'a' ≤ c ∧ c ≤ 'f' then some (c.toNat - 87)
  else if 'A' ≤ c ∧ c ≤ 'F' then some (c.toNat - 55)
  else none

def isHexDigit (c : Char) : Bool := (hexValue? c).isSome

/-- The bytes that pairs of digits stand for; other pairs stand for nothing. -/
def bytesOfHex : List Char → List UInt8
  | a :: b :: rest =>
    match hexValue? a, hexValue? b with
    | some x, some y => UInt8.ofNat (x * 16 + y) :: bytesOfHex rest
    | _, _ => bytesOfHex rest
  | _ => []

end PageLayers.Text
