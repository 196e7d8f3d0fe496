import EnergyGateway.PowerLimit
import Mathlib.Data.Rat.Floor
import Mathlib.Tactic.Linarith
import Mathlib.Tactic.NormNum

/-!
# Percentages of the installed power

A percentage of the installed power is rounded to whole watts, a half upwards, and only then compared with the installed
power.  So a percentage that leaves at most half a watt to the next whole number above the installed power is refused,
although it is at most a hundred, and every other percentage is resolved (`Setpoint.resolve_percent`).  An installed
power in whole watts leaves room for all of them; a fractional one may not (`Setpoint.not_forall_resolve_percent`).
-/

namespace EnergyGateway

namespace Quantity

theorem toNat_clamp (n : Nat) : (clamp n).toNat = min Text.wordMax n :=
  UInt64.toNat_ofNat_of_lt' (lt_of_le_of_lt (Nat.min_le_left ..) (Nat.sub_lt (by decide) (by decide)))

/-- Computed exactly, the nearest word is the nearest whole number, a half upwards, or else the largest word. -/
theorem toNat_nearestWord (x : Rat) : (nearestWord x).toNat = min Text.wordMax ⌊x + 1 / 2⌋₊ := by
  have hnearest : nearestWord x = clamp ⌊x + 1 / 2⌋.toNat := rfl
  rw [hnearest, toNat_clamp, Int.floor_toNat]

end Quantity

namespace Setpoint

variable {p total : Rat}

theorem upTo_eq_ite (total : Rat) (watts : UInt64) : upTo total watts =
    if total < watts.toNat then .error (refused "Power limit cannot exceed total inverter power.") else .ok watts := by
  have hless : Quantity.less total (Quantity.ofNat watts.toNat) = decide (total < watts.toNat) := rfl
  rw [upTo, hless]
  simp

/-- A percentage up to a hundred is rounded before anything is compared. -/
theorem resolve_percent_eq (hp : 0 ≤ p) (hp' : p ≤ 100) (total : Rat) :
    (percent p).resolve total = upTo total (Quantity.nearestWord (p / 100 * total)) := by
  have hlow : Quantity.atMost (Quantity.ofNat 0) p = true := decide_eq_true hp
  have hhigh : Quantity.atMost p (Quantity.ofNat 100) = true := decide_eq_true hp'
  rw [resolve, hlow, hhigh]
  rfl

/-- What is rounded to whole watts exceeds the installed power exactly if it was at most half a watt away from the next
whole number above that power. -/
theorem lt_floor_add_half_iff {x : Rat} (htotal : 0 ≤ total) :
    total < ⌊x + 1 / 2⌋₊ ↔ ⌊total⌋₊ + 1 / 2 ≤ x := by
  rw [← Nat.floor_lt htotal, ← Nat.add_one_le_iff, Nat.le_floor_iff' (Nat.succ_ne_zero _)]
  push_cast
  constructor <;> intro h <;> linarith

/-- The nearest word exceeds the installed power exactly if some word does, and rounding takes the percentage above
it. -/
theorem lt_nearestWord_iff (htotal : 0 ≤ total) :
    total < (Quantity.nearestWord (p / 100 * total)).toNat ↔
      total < Text.wordMax ∧ ⌊total⌋₊ + 1 / 2 ≤ p / 100 * total := by
  rw [Quantity.toNat_nearestWord, Nat.cast_min, lt_min_iff, lt_floor_add_half_iff htotal]

/-- A percentage between zero and a hundred of an installed power is refused exactly if rounding to whole watts takes it
above that power.  Otherwise it resolves to the nearest whole watts, a half upwards, and these are at most the installed
power.  That is always so where the installed power is in whole watts. -/
theorem resolve_percent (hp : 0 ≤ p) (hp' : p ≤ 100) (htotal : 0 ≤ total) :
    ((percent p).resolve total = .error (refused "Power limit cannot exceed total inverter power.") ↔
      total < Text.wordMax ∧ ⌊total⌋₊ + 1 / 2 ≤ p / 100 * total) ∧
    (¬(total < Text.wordMax ∧ ⌊total⌋₊ + 1 / 2 ≤ p / 100 * total) →
      ∃ w, (percent p).resolve total = .ok w ∧ (w.toNat : Rat) ≤ total ∧
        w.toNat = min Text.wordMax ⌊p / 100 * total + 1 / 2⌋₊) ∧
    (total = ⌊total⌋₊ → ∃ w, (percent p).resolve total = .ok w) := by
  have hexceeds := lt_nearestWord_iff (p := p) htotal
  rw [resolve_percent_eq hp hp', upTo_eq_ite]
  refine ⟨?_, fun hfits => ?_, fun hwhole => ?_⟩
  · rw [← hexceeds, ite_eq_left_iff]
    simp
  · rw [← hexceeds] at hfits
    exact ⟨_, if_neg hfits, le_of_not_gt hfits, Quantity.toNat_nearestWord _⟩
  · refine ⟨_, if_neg fun hlt => ?_⟩
    have hhalf := (hexceeds.1 hlt).2
    have hpart : p / 100 * total ≤ total := mul_le_of_le_one_left htotal (by linarith)
    linarith

/-- All of a fractional installed power, and half of it. -/
theorem resolve_percent_fraction :
    (percent 100).resolve (5003 / 5 : Rat) = .error (refused "Power limit cannot exceed total inverter power.") ∧
      ∃ w, (percent 50).resolve (5003 / 5 : Rat) = .ok w ∧ (w.toNat : Rat) ≤ 5003 / 5 := by
  have hfloor : ⌊(5003 / 5 : Rat)⌋₊ = 1000 := (Nat.floor_eq_iff (by norm_num)).2 ⟨by norm_num, by norm_num⟩
  obtain ⟨hrefused, -⟩ := @resolve_percent 100 (5003 / 5) (by norm_num) le_rfl (by norm_num)
  obtain ⟨-, hresolved, -⟩ := @resolve_percent 50 (5003 / 5) (by norm_num) (by norm_num) (by norm_num)
  refine ⟨hrefused.2 ⟨by norm_num [Text.wordMax], by norm_num [hfloor]⟩, ?_⟩
  obtain ⟨w, hw, hle, -⟩ := hresolved (by norm_num [hfloor])
  exact ⟨w, hw, hle⟩

/-- A percentage up to a hundred of a fractional installed power may be refused. -/
theorem not_forall_resolve_percent : ¬ ∀ p total : Rat, 0 ≤ p → p ≤ 100 → 0 ≤ total →
    ∃ w, (percent p).resolve total = .ok w ∧ (w.toNat : Rat) ≤ total := by
  intro hresolved
  have hfails : ((percent 100).resolve (5003 / 5 : Rat)).isOk = false := by decide +kernel
  obtain ⟨w, hw, -⟩ := hresolved 100 (5003 / 5) (by norm_num) le_rfl (by norm_num)
  rw [hw] at hfails
  cases hfails

end Setpoint

end EnergyGateway
