import EnergyGateway.Text.Digits

/-!
# Percent-encoding

Every byte of the UTF-8 form of a text is written as `%` and two hexadecimal digits, except the letters and
digits of ASCII and the four marks `-`, `_`, `.` and `~`, which stand for themselves.
-/

namespace EnergyGateway.Text

/-- The characters that stand for themselves. -/
def isUnreserved (c : Char) : Bool :=
  c.isAlphanum || c == '-' || c == '_' || c == '.' || c == '~'

/-- The hexadecimal digit of a number below 16, in upper case. -/
def hexUpper (n : Nat) : Char := (Nat.digitChar n).toUpper

/-- A byte as `%` and two digits. -/
def percentByte (b : UInt8) : List Char := ['%', hexUpper (b.toNat / 16), hexUpper (b.toNat % 16)]

/-- A character with each byte of its UTF-8 form encoded. -/
def percentChar (c : Char) : List Char := (String.utf8EncodeChar c).flatMap percentByte

/-- A text with every character encoded that does not pass `keep`. -/
def percentEncodeExcept (keep : Char → Bool) (cs : List Char) : List Char :=
  cs.flatMap fun c => if keep c then [c] else percentChar c

def percentEncode (cs : List Char) : List Char := percentEncodeExcept isUnreserved cs

end EnergyGateway.Text
