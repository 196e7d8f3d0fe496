import EnergyGateway.Decimal.Shortest

/-!
# Numbers as text

Two layouts of the shortest decimal are in use.  A document writes the numbers from `10 ^ -5` up to `10 ^ 16`
with a decimal point and at least one place, and all others with an exponent; a line for the operator never has
an exponent and no place that is not needed.  Amounts in kilowatts are written with a fixed number of places,
rounded from the exact value, where a half goes to the even neighbour.
-/

namespace EnergyGateway.Decimal

/-- How the shortest decimal is laid out. -/
structure Layout where
  /-- Which powers of ten of the leading digit are written without an exponent. -/
  positional : Int → Bool
  /-- Whether a whole number is written with `.0`. -/
  wholePlace : Bool
  infinity : String
  minusInfinity : String
  notANumber : String

/-- Numbers inside a document, where the exponent has a sign and values that are not finite are `null`. -/
def Layout.document : Layout :=
  ⟨fun e => -5 ≤ e && e < 16, true, "null", "null", "null"⟩

/-- Numbers in a line for the operator. -/
def Layout.plain : Layout :=
  ⟨fun _ => true, false, "inf", "-inf", "NaN"⟩

def zeros (n : Nat) : String := String.ofList (List.replicate n '0')

namespace Scientific

/-- The digits with a decimal point, and zeros where the number has no digits. -/
def positional (d : Scientific) (wholePlace : Bool) : String :=
  let ds := (toString d.digits).toList
  let whole : Int := ds.length + d.exponent
  if 0 ≤ d.exponent then
    toString d.digits ++ zeros d.exponent.toNat ++ (if wholePlace then ".0" else "")
  else if 0 < whole then
    String.ofList (ds.take whole.toNat) ++ "." ++ String.ofList (ds.drop whole.toNat)
  else
    "0." ++ zeros (-whole).toNat ++ toString d.digits

/-- One digit, the others as places, and the exponent of the first digit with its sign. -/
def withExponent (d : Scientific) : String :=
  let ds := (toString d.digits).toList
  let e : Int := ds.length + d.exponent - 1
  let places := if ds.length ≤ 1 then "" else "." ++ String.ofList (ds.drop 1)
  String.ofList (ds.take 1) ++ places ++ "e" ++ (if e < 0 then "-" else "+") ++ toString e.natAbs

def layOut (d : Scientific) (l : Layout) : String :=
  let leading : Int := (toString d.digits).length + d.exponent - 1
  if d.digits = 0 ∨ l.positional leading then d.positional l.wholePlace else d.withExponent

end Scientific

/-- The text of a number in a layout. -/
def Layout.write (l : Layout) (x : Float) : String :=
  match classify x with
  | .notANumber => l.notANumber
  | .infinite negative => if negative then l.minusInfinity else l.infinity
  | .finite negative magnitude => (if negative then "-" else "") ++ magnitude.shortest.layOut l

/-- The text outside of documents. -/
def plain (x : Float) : String := Layout.plain.write x

/-- The quotient rounded to a whole number; a half goes to the even neighbour. -/
def roundEven (num den : Nat) : Nat :=
  let rest := num % den
  if 2 * rest < den ∨ (2 * rest = den ∧ num / den % 2 = 0) then num / den else num / den + 1

/-- The text with exactly `places` places. -/
def fixed (places : Nat) (x : Float) : String :=
  match classify x with
  | .notANumber => "NaN"
  | .infinite negative => if negative then "-inf" else "inf"
  | .finite negative magnitude =>
    let (num, den) := magnitude.quotient
    let units := toString (roundEven (num * Nat.pow 10 places) den)
    let padded := (zeros (places + 1 - units.length) ++ units).toList
    let whole := padded.length - places
    let behind := if places = 0 then "" else "." ++ String.ofList (padded.drop whole)
    (if negative then "-" else "") ++ String.ofList (padded.take whole) ++ behind

end EnergyGateway.Decimal
