/-!
# Whole numbers as text

Numbers are written in decimal without leading zeros and read more leniently: a sign may stand in front, and
leading zeros are allowed.  A reader has a bound, since the devices hold their numbers in words of a fixed size.
-/

namespace EnergyGateway.Text

/-- The value of a non-empty text of decimal digits. -/
def digits? (cs : List Char) : Option Nat :=
  if !cs.isEmpty && cs.all Char.isDigit then some (Nat.ofDigitChars 10 cs 0) else none

/-- A natural number of at most `max`, with an optional `+` in front. -/
def natural? (max : Nat) (cs : List Char) : Option Nat :=
  let magnitude := match cs with
    | '+' :: rest => rest
    | _ => cs
  (digits? magnitude).filter (· ≤ max)

/-- A natural number of at most `max` that may be written with either sign, so that `-0` is zero. -/
def signed? (max : Nat) (cs : List Char) : Option Nat :=
  match cs with
  | '-' :: rest => (digits? rest).filter (· = 0)
  | _ => natural? max cs

/-- The largest number of a word of 64 bits. -/
def wordMax : Nat := UInt64.size - 1

theorem digits?_toDigits (n : Nat) : digits? (Nat.toDigits 10 n) = some n := by
  have hne : Nat.toDigits 10 n ≠ [] := Nat.toDigits_ne_nil
  have hall : (Nat.toDigits 10 n).all Char.isDigit = true :=
    List.all_eq_true.2 fun _ hc => Nat.isDigit_of_mem_toDigits (by decide) (by decide) hc
  simp [digits?, hne, hall, Nat.ofDigitChars_toDigits]

end EnergyGateway.Text
