import EnergyGateway.Tier
import Mathlib

/-!
# Signs of computed amounts

Rounding never moves a number across zero: a computed difference is negative only if the first number is less than the
second, and a computed quotient only if the dividend is negative.  So the sign of an amount can be trusted although its
digits are rounded, and an increase that is none never makes the difference between fitting and not fitting
(`less_of_not_increase`).

A number of a format is canonical: its significand has all the bits of the format unless its exponent is the least one.
That is why numbers may be compared by their exponents first.
-/

namespace EnergyGateway.Quantity

open Float.Model Float.Model.UnpackedFloat

/-! ### Canonical numbers -/

/-- A magnitude `m · 2 ^ e` with as many bits of `m` as the format has, or the least exponent. -/
structure Canonical (m : Nat) (e : Int) : Prop where
  lt : m < 2 ^ 53
  least_le : -1074 ≤ e
  full : e = -1074 ∨ 2 ^ 52 ≤ m

theorem canonical_of_unpack {b : BitVec Format.binary64.numBits} {s : Sign} {m : Nat} {e : Int} {hm : 0 < m}
    (h : unpack .binary64 b = .finite s m e hm) : Canonical m e := by
  have hmantissa : (unpackMantissa b).toNat < 2 ^ 52 := (unpackMantissa b).isLt
  have hbias : ((Format.binary64.exponentBias : Nat) : Int) = 1023 := rfl
  have hwidth : ((Format.binary64.mantissaBitsWithoutImplicit : Nat) : Int) = 52 := rfl
  rw [UnpackedFloat.unpack] at h
  simp only [hbias, hwidth] at h
  split at h
  · split at h <;> cases h
  · split at h
    · rename_i hexponent
      split at h
      · cases h
      · cases h
        rw [hexponent]
        exact ⟨by omega, by decide, .inl (by decide)⟩
    · rename_i hexponent
      cases h
      have hpos : 0 < (unpackExponent b).toNat := by
        rw [Nat.pos_iff_ne_zero]
        exact fun hzero => hexponent (BitVec.eq_of_toNat_eq hzero)
      have hfull : (1#1 ++ unpackMantissa b).toNat = 2 ^ 52 + (unpackMantissa b).toNat := by
        rw [BitVec.toNat_append, ← Nat.shiftLeft_add_eq_or_of_lt (unpackMantissa b).isLt]
        rfl
      rw [hfull]
      exact ⟨by omega, by omega, .inr (Nat.le_add_right _ _)⟩

/-- Canonical magnitudes compare like their exponents, and with the same exponent like their significands. -/
theorem Canonical.compare_eq {m₁ m₂ : Nat} {e₁ e₂ : Int} (h₁ : Canonical m₁ e₁) (h₂ : Canonical m₂ e₂) :
    compare (m₁ <<< (e₁ - min e₁ e₂).toNat) (m₂ <<< (e₂ - min e₁ e₂).toNat) =
      (compare e₁ e₂).then (compare m₁ m₂) := by
  -- where the exponents differ, the greater one belongs to a significand with all its bits
  have hless {m m' : Nat} {e e' : Int} (h : Canonical m e) (h' : Canonical m' e') (hlt : e < e') :
      m < m' <<< (e' - e).toNat := by
    have hfull : 2 ^ 52 ≤ m' := h'.full.resolve_left (by have := h.least_le; omega)
    have htwo : 2 ^ 1 ≤ 2 ^ (e' - e).toNat := Nat.pow_le_pow_right Nat.two_pos (by omega)
    calc m < 2 ^ 52 * 2 ^ 1 := h.lt
      _ ≤ m' * 2 ^ (e' - e).toNat := Nat.mul_le_mul hfull htwo
      _ = m' <<< (e' - e).toNat := (Nat.shiftLeft_eq _ _).symm
  rcases lt_trichotomy e₁ e₂ with hlt | rfl | hgt
  · rw [min_eq_left hlt.le, sub_self, compare_lt_iff_lt.2 hlt]
    exact compare_lt_iff_lt.2 (hless h₁ h₂ hlt)
  · simp
  · rw [min_eq_right hgt.le, sub_self, compare_gt_iff_gt.2 hgt]
    exact compare_gt_iff_gt.2 (hless h₂ h₁ hgt)

/-- A finite number as it is unpacked. -/
def Unpacked : UnpackedFloat → Prop
  | .finite _ m e _ => Canonical m e
  | _ => True

theorem unpacked_unpack (x : Float.Model) : Unpacked x.unpack := by
  cases h : x.unpack with
  | finite => exact canonical_of_unpack h
  | _ => trivial

/-! ### Signs -/

/-- How an unpacked number compares with zero. -/
def side (u : UnpackedFloat) : Option Ordering := u.compare (.zero .positive)

/-- How the numbers of a sign compare with zero. -/
def ofSign : Sign → Ordering
  | .negative => .lt
  | .positive => .gt

@[simp]
theorem side_finite (s : Sign) (m : Nat) (e : Int) (hm : 0 < m) : side (.finite s m e hm) = some (ofSign s) := by
  cases s <;> rfl

@[simp]
theorem side_infinity (s : Sign) : side (.infinity s) = some (ofSign s) := by
  cases s <;> rfl

@[simp]
theorem side_zero (s : Sign) : side (.zero s) = some .eq := rfl

@[simp]
theorem side_notANumber : side .notANumber = none := rfl

theorem compare_zero (u : UnpackedFloat) (s : Sign) : u.compare (.zero s) = side u := by
  cases u with
  | infinity s' | finite s' => cases s' <;> rfl
  | _ => rfl

/-- The sign bit decides, except for zeros and what is no number. -/
theorem side_unpack (b : BitVec Format.binary64.numBits) :
    side (unpack .binary64 b) = none ∨ side (unpack .binary64 b) = some .eq ∨
      side (unpack .binary64 b) = some (ofSign (Sign.ofBitVec (unpackSign b))) := by
  rw [UnpackedFloat.unpack]
  dsimp only
  split <;> split <;> try split
  all_goals simp

/-- Packing may round to zero, but it does not change the side. -/
theorem side_of_packed {u : UnpackedFloat} {o : Ordering} (ho : o ≠ .eq)
    (h : side (unpack .binary64 (u.pack .binary64)) = some o) : side u = some o := by
  have hsign {s : Sign} (hu : side u = some (ofSign s)) (hpack : unpackSign (u.pack .binary64) = s.toBitVec) :
      side u = some o := by
    have hside := side_unpack (u.pack .binary64)
    rw [hpack, Sign.ofBitVec_toBitVec, h] at hside
    rw [hu]
    simpa [ho, eq_comm] using hside
  cases u with
  | notANumber =>
    rw [UnpackedFloat.pack, unpack_packedNaN] at h
    cases h
  | infinity s => exact hsign (side_infinity s) (unpackSign_packComponents ..)
  | zero s =>
    rw [UnpackedFloat.pack, unpack_packedZero, side_zero] at h
    exact absurd (Option.some.inj h).symm ho
  | finite s m e hm =>
    refine hsign (side_finite s m e hm) ?_
    rw [UnpackedFloat.pack]
    dsimp only
    split
    · exact unpackSign_packComponents ..
    · split <;> exact unpackSign_packComponents ..

/-! ### Rounding -/

theorem side_roundWithAccuracy {s : Sign} {m : Nat} {e : Int} {a : Accuracy} {o : Ordering} (ho : o ≠ .eq)
    (h : side (roundWithAccuracy .binary64 s m e a) = some o) : o = ofSign s := by
  rw [roundWithAccuracy] at h
  dsimp only at h
  split at h
  · exact absurd (Option.some.inj h).symm ho
  · rw [side_finite] at h
    exact (Option.some.inj h).symm

/-- A sum is on the side of its exact value. -/
theorem side_normalize {m e : Int} {o : Ordering} (ho : o ≠ .eq)
    (h : side (UnpackedFloat.normalize .binary64 m e .positive) = some o) : compare m 0 = o := by
  rw [UnpackedFloat.normalize] at h
  split at h
  · rename_i hm
    rw [hm]
    exact (side_roundWithAccuracy ho h).symm
  · exact absurd (Option.some.inj h).symm ho
  · rename_i hm
    rw [hm]
    exact (side_roundWithAccuracy ho h).symm

/-! ### Differences and quotients -/

/-- The exact difference of two signed magnitudes has the side on which the first is of the second. -/
theorem Canonical.compare_sub {s s' : Sign} {m m' : Nat} {e e' : Int} {hm : 0 < m} {hm' : 0 < m'}
    (h : Canonical m e) (h' : Canonical m' e') :
    (UnpackedFloat.finite s m e hm).compare (.finite s' m' e' hm') =
      some (compare (s.apply (m <<< (e - min e e').toNat : Nat) - s'.apply (m' <<< (e' - min e e').toNat : Nat)) 0) := by
  have hmagnitudes := h.compare_eq h'
  have hpos : 0 < m <<< (e - min e e').toNat := Nat.shiftLeft_eq _ _ ▸ by positivity
  generalize m <<< (e - min e e').toNat = a at *
  generalize m' <<< (e' - min e e').toNat = b at *
  have hcompare : compare ((a : Int) - b) 0 = compare a b := by
    rcases lt_trichotomy a b with hlt | rfl | hgt
    · rw [compare_lt_iff_lt.2 hlt, compare_lt_iff_lt.2 (by omega)]
    · simp
    · rw [compare_gt_iff_gt.2 hgt, compare_gt_iff_gt.2 (by omega)]
  have hswap : compare (-(a : Int) - -b) 0 = (compare a b).swap := by
    rcases lt_trichotomy a b with hlt | rfl | hgt
    · rw [compare_lt_iff_lt.2 hlt, compare_gt_iff_gt.2 (by omega)]
      rfl
    · simp
    · rw [compare_gt_iff_gt.2 hgt, compare_lt_iff_lt.2 (by omega)]
      rfl
  cases s <;> cases s'
  case positive.positive => rw [UnpackedFloat.compare, ← hmagnitudes, ← hcompare]; rfl
  case negative.negative => rw [UnpackedFloat.compare, ← hmagnitudes, ← hswap]; rfl
  case positive.negative => exact congrArg some (compare_gt_iff_gt.2 (show (a : Int) - -b > 0 by omega)).symm
  case negative.positive => exact congrArg some (compare_lt_iff_lt.2 (show -(a : Int) - b < 0 by omega)).symm

/-- A difference is on the side on which the first number is of the second. -/
theorem side_sub {u v : UnpackedFloat} (hu : Unpacked u) (hv : Unpacked v) {o : Ordering} (ho : o ≠ .eq)
    (h : side (u.sub .binary64 v) = some o) : u.compare v = some o := by
  cases u with
  | notANumber => cases v <;> cases h
  | infinity s =>
    cases v with
    | notANumber => cases h
    | infinity s' => cases s <;> cases s' <;> first | exact h | cases h
    | _ => cases s <;> exact h
  | zero s =>
    cases v with
    | zero s' =>
      rw [UnpackedFloat.sub] at h
      split at h <;> exact h
    | notANumber => cases h
    | _ s' => cases s' <;> exact h
  | finite s m e hm =>
    cases v with
    | finite s' m' e' hm' => exact (hu.compare_sub hv).trans (congrArg some (side_normalize ho h))
    | notANumber => cases h
    | infinity s' => cases s <;> cases s' <;> exact h
    | zero s' => cases s <;> exact h

/-- A quotient by a positive number has the side of the dividend, unless it is rounded to zero. -/
theorem side_div {u : UnpackedFloat} {m : Nat} {e : Int} {hm : 0 < m} {o : Ordering} (ho : o ≠ .eq)
    (h : side (u.div .binary64 (.finite .positive m e hm)) = some o) : side u = some o := by
  have hsign (s : Sign) : s / .positive = s := by cases s <;> rfl
  cases u with
  | notANumber => cases h
  | infinity s => rwa [UnpackedFloat.div, hsign] at h
  | zero s => exact h
  | finite s m' e' hm' =>
    rw [UnpackedFloat.div, hsign] at h
    rw [side_finite, side_roundWithAccuracy ho h]

/-- The lesser of two numbers is negative, or the greater one is positive. -/
theorem side_of_compare_eq_lt {u v : UnpackedFloat} (h : u.compare v = some .lt) :
    side u = some .lt ∨ side v = some .gt := by
  cases v with
  | notANumber => cases u <;> simp [UnpackedFloat.compare] at h
  | zero s => exact .inl (compare_zero u s ▸ h)
  | infinity s =>
    cases s with
    | positive => exact .inr rfl
    | negative =>
      cases u with
      | infinity s' | finite s' => cases s' <;> cases h
      | _ => cases h
  | finite s m e hm =>
    cases s with
    | positive => exact .inr rfl
    | negative =>
      cases u with
      | infinity s' | finite s' =>
        cases s' with
        | negative => exact .inl rfl
        | positive => cases h
      | _ => cases h

/-! ### Amounts -/

variable {a b : Float} {o : Ordering}

theorem less_iff : less a b ↔ a.toModel.unpack.compare b.toModel.unpack = some .lt :=
  decide_eq_true_iff.trans beq_iff_eq

theorem atMost_iff : atMost a b ↔ ∃ o, a.toModel.unpack.compare b.toModel.unpack = some o ∧ o.isLE :=
  decide_eq_true_iff.trans (Option.any_eq_true _ _)

theorem compare_of_side_sub (ho : o ≠ .eq) (h : side (a - b).toModel.unpack = some o) :
    a.toModel.unpack.compare b.toModel.unpack = some o :=
  side_sub (unpacked_unpack _) (unpacked_unpack _) ho (side_of_packed ho h)

theorem side_of_side_kilowatts (ho : o ≠ .eq) (h : side (Usage.kilowatts a).toModel.unpack = some o) :
    side a.toModel.unpack = some o := by
  have hthousand : (Quantity.ofNat 1000 : Float).toModel.unpack = .finite .positive 8796093022208000 (-43) (by decide) :=
    rfl
  have hquotient : side (a.toModel.unpack.div .binary64 (Quantity.ofNat 1000 : Float).toModel.unpack) = some o :=
    side_of_packed ho h
  rw [hthousand] at hquotient
  exact side_div ho hquotient

/-- Where a rating does not grow and the growth still exceeds what is left, the limit was exceeded before. -/
theorem less_of_not_increase {limit used old new : Float} (hnew : atMost new old)
    (h : less (limit - used) (Usage.kilowatts (new - old))) : less limit used := by
  rcases side_of_compare_eq_lt (less_iff.1 h) with hremaining | hincrease
  · exact less_iff.2 (compare_of_side_sub (by decide) hremaining)
  · obtain ⟨o, hcompare, ho⟩ := atMost_iff.1 hnew
    rw [compare_of_side_sub (by decide) (side_of_side_kilowatts (by decide) hincrease), Option.some_inj] at hcompare
    rw [← hcompare] at ho
    cases ho

end EnergyGateway.Quantity
