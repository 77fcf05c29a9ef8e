/-! Decimal digits and the numbers they make. -/

namespace PageLayers.Text

/-- The least number that takes more than sixty-four bits. -/
def wordLimit : Nat := 0x10000000000000000

def digitValue (c : Char) : Nat := c.toNat - 48

/-- The number with one more digit at its end. -/
def addDigit (n : Nat) (c : Char) : Nat := n * 10 + digitValue c

def number (digits : List Char) : Nat := digits.foldl addDigit 0

end PageLayers.Text
