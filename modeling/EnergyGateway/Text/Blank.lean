/-!
# Blank characters

A character is blank when it has the Unicode property `White_Space`.  Values that an operator types or a device
sends are read without the blanks around them.
-/

namespace EnergyGateway.Text

/-- The characters with the property `White_Space`. -/
def isBlank (c : Char) : Bool :=
  let n := c.toNat
  (0x09 ≤ n && n ≤ 0x0D) || n == 0x20 || n == 0x85 || n == 0xA0 || n == 0x1680 ||
    (0x2000 ≤ n && n ≤ 0x200A) || n == 0x2028 || n == 0x2029 || n == 0x202F || n == 0x205F || n == 0x3000

/-- A text without the blanks at either end. -/
def trimChars (cs : List Char) : List Char :=
  ((cs.dropWhile isBlank).reverse.dropWhile isBlank).reverse

/-- Whether nothing but blanks is there. -/
def allBlank (s : String) : Bool := s.toList.all isBlank

end EnergyGateway.Text
