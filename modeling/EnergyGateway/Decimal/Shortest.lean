import EnergyGateway.Decimal.Binary

/-!
# The shortest decimal that reads back

A number of the format stands for every real number that rounds to it: an interval that reaches half way to each
neighbour, its ends included exactly when the significand is even.  The text of the number is the decimal of that
interval with the fewest digits, and the nearest such decimal if there are several; a tie goes to the even digit.

For each number of digits only the two decimals next to the value can be nearest, so both are tested in exact
arithmetic and the first grid with a hit wins.
-/

namespace EnergyGateway.Decimal

/-- The decimal number `digits · 10 ^ exponent`. -/
structure Scientific where
  digits : Nat
  exponent : Int
  deriving DecidableEq, Repr

namespace Scientific

/-- The same number without zeros at the end of its digits. -/
def trimmed : Nat → Scientific → Scientific
  | 0, d => d
  | fuel + 1, d =>
    if d.digits ≠ 0 ∧ d.digits % 10 = 0 then trimmed fuel ⟨d.digits / 10, d.exponent + 1⟩ else d

end Scientific

namespace Binary

/-- `2 ^ e · 10 ^ p` as a quotient of natural numbers. -/
def scale (e p : Int) : Nat × Nat :=
  (Nat.pow 2 e.toNat * Nat.pow 10 p.toNat, Nat.pow 2 (-e).toNat * Nat.pow 10 (-p).toNat)

/-- The lower end of the interval that rounds to the number, in quarters of its last place.  Below a power of two
the numbers lie twice as dense, except at the least exponent. -/
def lowerQuarters (b : Binary) : Nat :=
  4 * b.significand - (if b.significand = hiddenBit ∧ b.exponent ≠ leastExponent then 1 else 2)

/-- The upper end of the interval that rounds to the number, in quarters of its last place. -/
def upperQuarters (b : Binary) : Nat := 4 * b.significand + 2

/-- Whether `c · 10 ^ (-p)` rounds to the number. -/
def holds (b : Binary) (p : Int) (c : Nat) : Bool :=
  let (num, den) := scale (b.exponent - 2) p
  if b.significand % 2 = 0 then
    b.lowerQuarters * num ≤ c * den && c * den ≤ b.upperQuarters * num
  else
    b.lowerQuarters * num < c * den && c * den < b.upperQuarters * num

/-- Of the two multiples of `10 ^ (-p)` next to the value, the nearest that rounds to the number. -/
def onGrid (b : Binary) (p : Int) : Option Nat :=
  let (num, den) := scale b.exponent p
  let below := b.significand * num / den
  let rest := b.significand * num % den
  let nearest := if 2 * rest < den ∨ (2 * rest = den ∧ below % 2 = 0) then below else below + 1
  if b.holds p nearest then some nearest
  else if b.holds p below then some below
  else if b.holds p (below + 1) then some (below + 1)
  else none

/-- Whether the value is less than `10 ^ k`. -/
def below (b : Binary) (k : Int) : Bool :=
  let (num, den) := scale b.exponent (-k)
  b.significand * num < den

/-- The number of digits in front of the decimal point, not positive for a value less than one: the least `k` with
the value below `10 ^ k`.  A logarithm of the leading bit gives a first guess that is at most three too small. -/
def magnitude (b : Binary) : Int :=
  let guess := Int.fdiv ((b.significand.log2 + b.exponent) * 1233) 4096
  let k := if b.below guess then guess else if b.below (guess + 1) then guess + 1 else guess + 2
  if b.below k then k else k + 1

/-- The shortest decimal that rounds to the number. -/
def shortest (b : Binary) : Scientific :=
  if b.significand = 0 then ⟨0, 0⟩
  else
    let k := b.magnitude
    let found := (List.range 17).findSome? fun (i : Nat) =>
      let places := (i + 1 : Nat) - k
      (b.onGrid places).map fun c => Scientific.mk c (-places)
    (found.getD ⟨0, 0⟩).trimmed 17

end Binary

end EnergyGateway.Decimal
