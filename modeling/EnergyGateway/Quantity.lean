import EnergyGateway.Decimal.Binary
import EnergyGateway.Text.Digits

/-!
# Amounts of power

Ratings and limits are computed in binary64, as they come over the wire.  The rules themselves only need the
four operations, comparison and rounding to whole watts, so they are written for any type with these; the
rational numbers are the exact case.
-/

namespace EnergyGateway

/-- Amounts that can be computed with, compared and rounded to whole watts. -/
class Quantity (α : Type) extends Add α, Sub α, Mul α, Div α where
  ofNat : Nat → α
  /-- Whether the first amount is less; amounts need not be comparable. -/
  less : α → α → Bool
  atMost : α → α → Bool
  /-- The nearest number of a 64-bit word, a half away from zero; zero for what is no amount. -/
  nearestWord : α → UInt64

namespace Quantity

/-- The whole number nearest to a quotient, a half upwards. -/
def roundHalfUp (num den : Nat) : Nat := (2 * num + den) / (2 * den)

/-- The nearest number of a 64-bit word. -/
def clamp (n : Nat) : UInt64 := UInt64.ofNat (min Text.wordMax n)

instance : Quantity Float where
  ofNat := Float.ofNat
  less := Float.lt
  atMost := Float.le
  nearestWord x :=
    match Decimal.classify x with
    | .finite false magnitude => clamp (roundHalfUp magnitude.quotient.1 magnitude.quotient.2)
    | .infinite false => clamp Text.wordMax
    | _ => 0

instance : Quantity Rat where
  ofNat n := n
  less a b := decide (a < b)
  atMost a b := decide (a ≤ b)
  nearestWord x := clamp (x + 1 / 2).floor.toNat

end Quantity

end EnergyGateway
