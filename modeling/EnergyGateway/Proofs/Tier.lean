import EnergyGateway.Proofs.Quantity
import EnergyGateway.Tier

/-!
# What a tier admits

A list of ratings fits a tier if there are not too many of them and, if there is one at all, their sum is within the
power of the tier (`Tier.Fits`).  The checks look at less: an addition at the count and the power, a changed rating only
at what it grows by.  Computed exactly, they admit exactly what fits afterwards, so every run of additions, changes and
removals from no inverters stays within the tier, and every list that fits can be reached
(`Tier.reaches_iff_fits`).

A tier may be exceeded when it is exchanged for a smaller one.  Then there is less than nothing left, and a change is
refused even if it lowers a rating, unless it lowers it by enough (`Usage.checkUpdate_eq_error_iff`).  Without that, a
rating that does not grow is never refused, also where amounts are rounded (`Usage.exceeded_of_checkUpdate_eq_error`).
-/

namespace EnergyGateway

/-- The ratings, in watts, are within the limits of the tier. -/
structure Tier.Fits (tier : Tier Rat) (ratings : List Rat) : Prop where
  count : ratings.length ≤ tier.maxInverters
  power : ratings ≠ [] → ratings.sum ≤ 1000 * tier.maxPower

namespace Usage

/-! ### Changed ratings -/

section

variable {α : Type} [Quantity α] {u : Usage α} {old new : α} {v : TierViolation α}

/-- A changed rating is refused exactly if more is asked for than is left, and told so. -/
theorem checkUpdate_eq_error_iff : u.checkUpdate old new = .error v ↔
    Quantity.less u.remaining (kilowatts (new - old)) ∧ v = .tooMuchPower (kilowatts (new - old)) u.remaining := by
  rw [checkUpdate, checkPower]
  split
  · rename_i h
    simp [h, eq_comm]
  · rename_i h
    simp [h]

end

/-- A rating that does not grow is only refused where the power of the tier was exceeded before. -/
theorem exceeded_of_checkUpdate_eq_error {u : Usage Float} {old new : Float} {v : TierViolation Float}
    (hnew : Quantity.atMost new old) (h : u.checkUpdate old new = .error v) :
    Quantity.less u.tier.maxPower u.power :=
  Quantity.less_of_not_increase hnew (checkUpdate_eq_error_iff.1 h).1

/-! ### Exact amounts -/

variable {tier : Tier Rat} {ratings before after : List Rat} {watts old new : Rat}

@[simp]
theorem tier_ofRatings (tier : Tier Rat) (ratings : List Rat) : (ofRatings tier ratings).tier = tier := rfl

@[simp]
theorem count_ofRatings (tier : Tier Rat) (ratings : List Rat) : (ofRatings tier ratings).count = ratings.length := rfl

theorem power_ofRatings (tier : Tier Rat) (ratings : List Rat) :
    (ofRatings tier ratings).power = ratings.sum / 1000 := by
  rw [List.sum_eq_foldl]
  rfl

theorem kilowatts_eq (watts : Rat) : kilowatts watts = watts / 1000 := rfl

theorem checkPower_eq_ok_iff {u : Usage Rat} {requested : Rat} :
    u.checkPower requested = .ok () ↔ u.power + requested ≤ u.tier.maxPower := by
  have hless : Quantity.less u.remaining requested = decide (u.tier.maxPower - u.power < requested) := rfl
  rw [checkPower, hless, ← le_sub_iff_add_le']
  simp

/-- An inverter is added exactly if all of them fit then. -/
theorem checkAdd_eq_ok_iff :
    (ofRatings tier (before ++ after)).checkAdd watts = .ok () ↔ tier.Fits (before ++ watts :: after) := by
  have hcount : (before ++ watts :: after).length = (before ++ after).length + 1 := by
    simp [Nat.add_assoc]
  have hpower : (ofRatings tier (before ++ after)).checkPower (kilowatts watts) = .ok () ↔
      (before ++ watts :: after).sum ≤ 1000 * tier.maxPower := by
    rw [checkPower_eq_ok_iff, power_ofRatings, kilowatts_eq, tier_ofRatings, List.sum_append, List.sum_append,
      List.sum_cons]
    constructor <;> intro h <;> linarith
  rw [checkAdd, tier_ofRatings, count_ofRatings]
  split
  · rename_i hfull
    refine iff_of_false (by simp) fun hfits => ?_
    have hroom := hfits.count
    omega
  · rename_i hroom
    rw [hpower]
    exact ⟨fun h => ⟨by omega, fun _ => h⟩, fun h => h.power (by simp)⟩

/-- A rating is changed exactly if the power fits then. -/
theorem checkUpdate_eq_ok_iff : (ofRatings tier (before ++ old :: after)).checkUpdate old new = .ok () ↔
    (before ++ new :: after).sum ≤ 1000 * tier.maxPower := by
  rw [checkUpdate, checkPower_eq_ok_iff, power_ofRatings, kilowatts_eq, tier_ofRatings, List.sum_append,
    List.sum_append, List.sum_cons, List.sum_cons]
  constructor <;> intro h <;> linarith

end Usage

/-! ### Runs -/

namespace Tier

/-- One change of the inverters that the tier admits.  Ratings are at least one watt. -/
inductive Step (tier : Tier Rat) : List Rat → List Rat → Prop
  | add {before after watts} (hwatts : 1 ≤ watts)
      (h : (Usage.ofRatings tier (before ++ after)).checkAdd watts = .ok ()) :
      Step tier (before ++ after) (before ++ watts :: after)
  | change {before after old new} (hnew : 1 ≤ new)
      (h : (Usage.ofRatings tier (before ++ old :: after)).checkUpdate old new = .ok ()) :
      Step tier (before ++ old :: after) (before ++ new :: after)
  | remove {before after old} : Step tier (before ++ old :: after) (before ++ after)

variable {tier : Tier Rat} {ratings ratings' before after : List Rat} {old : Rat}

/-- What is left when an inverter is removed still fits. -/
theorem Fits.remove (h : tier.Fits (before ++ old :: after)) (hold : 0 ≤ old) : tier.Fits (before ++ after) := by
  have hcount := h.count
  have hpower := h.power (by simp)
  refine ⟨?_, fun _ => ?_⟩
  · simp only [List.length_append, List.length_cons] at hcount ⊢
    omega
  · simp only [List.sum_append, List.sum_cons] at hpower ⊢
    linarith

private theorem forall_insert {P : Rat → Prop} :
    (∀ w ∈ before ++ old :: after, P w) ↔ P old ∧ ∀ w ∈ before ++ after, P w := by
  simp only [List.forall_mem_append, List.forall_mem_cons]
  exact and_left_comm

/-- One change keeps the ratings positive and within the tier. -/
theorem Step.fits (h : tier.Step ratings ratings') (hratings : ∀ w ∈ ratings, 1 ≤ w) (hfits : tier.Fits ratings) :
    (∀ w ∈ ratings', 1 ≤ w) ∧ tier.Fits ratings' := by
  cases h with
  | add hwatts h => exact ⟨forall_insert.2 ⟨hwatts, hratings⟩, Usage.checkAdd_eq_ok_iff.1 h⟩
  | change hnew h =>
    have hothers := (forall_insert.1 hratings).2
    refine ⟨forall_insert.2 ⟨hnew, hothers⟩, ?_, fun _ => Usage.checkUpdate_eq_ok_iff.1 h⟩
    simpa using hfits.count
  | remove =>
    obtain ⟨hold, hothers⟩ := forall_insert.1 hratings
    exact ⟨hothers, hfits.remove (zero_le_one.trans hold)⟩

/-- The ratings that a run of admitted changes can reach from no inverters are exactly those of at least one watt that
fit the tier. -/
theorem reaches_iff_fits (tier : Tier Rat) (ratings : List Rat) :
    Relation.ReflTransGen tier.Step [] ratings ↔ (∀ w ∈ ratings, 1 ≤ w) ∧ tier.Fits ratings := by
  constructor
  · intro h
    induction h with
    | refl => exact ⟨by simp, ⟨Nat.zero_le _, fun h => absurd rfl h⟩⟩
    | tail _ hstep ih => exact hstep.fits ih.1 ih.2
  · -- the inverters are added one behind the other
    rintro ⟨hratings, hfits⟩
    induction ratings using List.reverseRecOn with
    | nil => exact .refl
    | append_singleton ratings watts ih =>
      obtain ⟨hothers, hwatts⟩ := List.forall_mem_append.1 hratings
      have hwatts : 1 ≤ watts := hwatts watts (by simp)
      have hbefore : tier.Fits ratings := by simpa using hfits.remove (zero_le_one.trans hwatts)
      have hadd : tier.Step (ratings ++ []) (ratings ++ watts :: []) := .add hwatts (Usage.checkAdd_eq_ok_iff.2 hfits)
      rw [List.append_nil] at hadd
      exact (ih hothers hbefore).tail hadd

end Tier

end EnergyGateway
