/-!
# Binary64 numbers as exact values

A finite number of the format binary64 is `± m · 2 ^ q` with natural `m < 2 ^ 53` and `-1074 ≤ q`.  The decimal
texts of a number are computed from `m` and `q` in exact arithmetic, so no intermediate result is ever rounded.
-/

namespace EnergyGateway.Decimal

/-- The magnitude `significand · 2 ^ exponent` of a finite number. -/
structure Binary where
  significand : Nat
  exponent : Int
  deriving DecidableEq, Repr

/-- What a number of the format stands for. -/
inductive Class where
  | finite (negative : Bool) (magnitude : Binary)
  | infinite (negative : Bool)
  | notANumber
  deriving DecidableEq, Repr

namespace Binary

/-- The least exponent of the format, that of the subnormal numbers. -/
def leastExponent : Int := -1074

/-- The significand of the least normal number of each binade. -/
def hiddenBit : Nat := Nat.pow 2 52

/-- The magnitude as a quotient of natural numbers, the second one positive. -/
def quotient (b : Binary) : Nat × Nat :=
  match b.exponent with
  | .ofNat k => (b.significand * Nat.pow 2 k, 1)
  | .negSucc k => (b.significand, Nat.pow 2 (k + 1))

end Binary

/-- The class and exact value of a number, read off its bits: sign, eleven bits of exponent, 52 bits of
fraction. -/
def classify (x : Float) : Class :=
  let bits := x.toBits.toNat
  let negative := bits / Nat.pow 2 63 == 1
  let biased := bits / Binary.hiddenBit % Nat.pow 2 11
  let fraction := bits % Binary.hiddenBit
  if biased = 2047 then
    if fraction = 0 then .infinite negative else .notANumber
  else if biased = 0 then
    .finite negative ⟨fraction, Binary.leastExponent⟩
  else
    .finite negative ⟨Binary.hiddenBit + fraction, Binary.leastExponent + (biased - 1 : Nat)⟩

end EnergyGateway.Decimal
