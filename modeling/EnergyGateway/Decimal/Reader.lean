import EnergyGateway.Text.Digits

/-!
# Reading a number

A number is an optional sign, digits with an optional point among them, and an optional exponent; at least one
digit is needed in front of the exponent.  The names of infinity and of the missing value are read without
regard to case.  The result is the number of the format binary64 nearest to what is written.
-/

namespace EnergyGateway.Decimal

/-- The number of the format nearest to `digits · 10 ^ exponent`.  Numbers beyond the range of the format are
settled by their size alone, before any power of ten is computed. -/
def nearest (digits : Nat) (exponent : Int) : Float :=
  let size : Int := (toString digits).length + exponent
  if digits = 0 ∨ size < -330 then 0
  else if 310 < size then 1 / 0
  else if 0 ≤ exponent then Float.ofScientific digits false exponent.toNat
  else Float.ofScientific digits true (-exponent).toNat

/-- The signed exponent behind its mark, or none if the text is not an exponent. -/
def exponent? (cs : List Char) : Option Int :=
  match cs with
  | [] => some 0
  | mark :: rest =>
    if mark = 'e' ∨ mark = 'E' then
      match rest with
      | '-' :: ds => (Text.digits? ds).map fun n => -(n : Int)
      | '+' :: ds => (Text.digits? ds).map fun n => (n : Int)
      | ds => (Text.digits? ds).map fun n => (n : Int)
    else none

/-- A number without a sign. -/
def unsignedNumber? (cs : List Char) : Option Float :=
  let whole := cs.takeWhile Char.isDigit
  let behind := cs.dropWhile Char.isDigit
  let (places, tail) := match behind with
    | '.' :: rest => (rest.takeWhile Char.isDigit, rest.dropWhile Char.isDigit)
    | _ => ([], behind)
  if whole.isEmpty && places.isEmpty then none
  else (exponent? tail).map fun e => nearest (Nat.ofDigitChars 10 (whole ++ places) 0) (e - places.length)

/-- A number without a sign, or a name. -/
def magnitude? (cs : List Char) : Option Float :=
  let word := cs.map Char.toLower
  if word = "inf".toList ∨ word = "infinity".toList then some (1 / 0)
  else if word = "nan".toList then some (0 / 0)
  else unsignedNumber? cs

/-- The number that a whole text writes. -/
def number? (cs : List Char) : Option Float :=
  match cs with
  | '-' :: rest => (magnitude? rest).map Neg.neg
  | '+' :: rest => magnitude? rest
  | _ => magnitude? cs

end EnergyGateway.Decimal
