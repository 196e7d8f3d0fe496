import EnergyGateway.Proofs.Quantity

/-!
# Amounts that are no number

An amount that is no number compares with nothing.  So where one amount is found not to be less than another, it is at
least as much, or one of the two is no number (`less_eq_false_iff`).

Rounding never makes a number out of what is none, or the other way round.  A sum of amounts is no number once one of
them is none, and it is a number if all of them are finite: it may then be infinite, but no infinities meet.
-/

namespace EnergyGateway.Quantity

open Float.Model Float.Model.UnpackedFloat

/-! ### Packing and rounding -/

/-- Only an exponent with all bits set belongs to what is no number. -/
theorem isNaN_unpack_packComponents {s : Sign} {e : BitVec Format.binary64.exponentBits}
    {m : BitVec Format.binary64.mantissaBitsWithoutImplicit} (he : e ≠ -1#_) :
    (unpack .binary64 (packComponents .binary64 s e m)).isNaN = false := by
  rw [UnpackedFloat.unpack]
  simp only [unpackExponent_packComponents, if_neg he]
  split
  · split <;> rfl
  · rfl

theorem isNaN_unpack_pack (u : UnpackedFloat) : (unpack .binary64 (u.pack .binary64)).isNaN = u.isNaN := by
  cases u with
  | notANumber => rw [UnpackedFloat.pack, unpack_packedNaN]
  | infinity s | zero s => cases s <;> rfl
  | finite s m e hm =>
    rw [UnpackedFloat.pack]
    dsimp only
    split
    · cases s <;> rfl
    · rename_i hfits
      split
      · refine isNaN_unpack_packComponents fun hones => hfits ?_
        -- all bits of the exponent are set only where it does not fit
        have hlast := congrArg BitVec.toNat hones
        rw [BitVec.toNat_ofNat] at hlast
        calc 2 ^ Format.binary64.exponentBits = (-1#_ : BitVec Format.binary64.exponentBits).toNat + 1 := by decide
          _ = _ % 2 ^ Format.binary64.exponentBits + 1 := by rw [hlast]
          _ ≤ _ := Nat.add_le_add_right (Nat.mod_le ..) 1
      · exact isNaN_unpack_packComponents (by decide)

theorem isNaN_roundWithAccuracy (s : Sign) (m : Nat) (e : Int) (a : Accuracy) :
    (roundWithAccuracy .binary64 s m e a).isNaN = false := by
  rw [roundWithAccuracy]
  dsimp only
  split <;> rfl

theorem isNaN_normalize (m e : Int) (s : Sign) : (UnpackedFloat.normalize .binary64 m e s).isNaN = false := by
  rw [UnpackedFloat.normalize]
  split
  · exact isNaN_roundWithAccuracy ..
  · rfl
  · exact isNaN_roundWithAccuracy ..

/-! ### Operations on unpacked numbers -/

section

variable {u v : UnpackedFloat}

theorem isNaN_unpackedAdd_of_isNaN (h : u.isNaN ∨ v.isNaN) : (u.add .binary64 v).isNaN := by
  cases u <;> cases v <;> first | rfl | simp [UnpackedFloat.isNaN] at h

theorem isNaN_unpackedAdd (hv : v.isFinite) : (u.add .binary64 v).isNaN = u.isNaN := by
  cases v with
  | notANumber | infinity s => cases hv
  | zero s =>
    cases u with
    | zero s' => cases s <;> cases s' <;> rfl
    | _ => rfl
  | finite s m e hm =>
    cases u with
    | finite s' m' e' hm' => exact isNaN_normalize ..
    | _ => rfl

theorem isNaN_unpackedSub_of_isNaN (h : v.isNaN) : (u.sub .binary64 v).isNaN := by
  cases v with
  | notANumber => cases u <;> rfl
  | _ => cases h

theorem isNaN_unpackedSub (hu : u.isFinite) : (u.sub .binary64 v).isNaN = v.isNaN := by
  cases u with
  | notANumber | infinity s => cases hu
  | zero s =>
    cases v with
    | zero s' => cases s <;> cases s' <;> rfl
    | _ => rfl
  | finite s m e hm =>
    cases v with
    | finite s' m' e' hm' => exact isNaN_normalize ..
    | _ => rfl

theorem isNaN_unpackedDiv {s : Sign} {m : Nat} {e : Int} {hm : 0 < m} :
    (u.div .binary64 (.finite s m e hm)).isNaN = u.isNaN := by
  cases u with
  | finite s' m' e' hm' => exact isNaN_roundWithAccuracy ..
  | _ => rfl

theorem isNaN_unpackedMul {s : Sign} {m : Nat} {e : Int} {hm : 0 < m} :
    (u.mul .binary64 (.finite s m e hm)).isNaN = u.isNaN := by
  cases u with
  | finite s' m' e' hm' => exact isNaN_roundWithAccuracy ..
  | _ => rfl

theorem isNaN_ofScientific (m : Nat) (e : Int) : (UnpackedFloat.ofScientific .binary64 m e).isNaN = false := by
  rw [UnpackedFloat.ofScientific]
  split
  · rfl
  · split
    · rfl
    · split
      · rfl
      · split
        · exact isNaN_unpackedMul
        · exact isNaN_unpackedDiv

theorem compare_eq_none_iff : u.compare v = none ↔ u.isNaN ∨ v.isNaN := by
  cases u with
  | notANumber => simp [UnpackedFloat.compare, UnpackedFloat.isNaN]
  | infinity s | finite s | zero s =>
    cases s <;> cases v with
    | notANumber => simp [UnpackedFloat.compare, UnpackedFloat.isNaN]
    | infinity s' | finite s' | zero s' => cases s' <;> simp [UnpackedFloat.compare, UnpackedFloat.isNaN]

theorem compare_swap (u v : UnpackedFloat) : v.compare u = (u.compare v).map Ordering.swap := by
  have hmagnitudes (m m' : Nat) (e e' : Int) :
      (compare e e').then (compare m m') = ((compare e' e).then (compare m' m)).swap := by
    rw [Ordering.swap_then, ← Std.OrientedCmp.eq_swap, ← Std.OrientedCmp.eq_swap]
  cases u with
  | notANumber => cases v <;> rfl
  | infinity s | zero s =>
    cases s <;> cases v with
    | notANumber => rfl
    | infinity s' | finite s' | zero s' => cases s' <;> rfl
  | finite s m e =>
    cases v with
    | notANumber => cases s <;> rfl
    | infinity s' | zero s' => cases s <;> cases s' <;> rfl
    | finite s' m' e' =>
      cases s <;> cases s'
      case negative.negative => exact congrArg some (by rw [← hmagnitudes, Ordering.swap_swap])
      case positive.positive => exact congrArg some (hmagnitudes m' m e' e)
      all_goals rfl

end

/-! ### Amounts -/

variable {a b : Float}

/-- One amount is not less than another exactly if that is at most the first, or one of them is no number. -/
theorem less_eq_false_iff : less a b = false ↔ atMost b a ∨ a.isNaN ∨ b.isNaN := by
  rw [← Bool.not_eq_true, less_iff, atMost_iff, compare_swap a.toModel.unpack]
  rcases hcompare : a.toModel.unpack.compare b.toModel.unpack with _ | o
  · exact iff_of_true nofun (.inr (compare_eq_none_iff.1 hcompare))
  · have hnumbers : ¬(a.isNaN ∨ b.isNaN) := fun h => by
      rw [compare_eq_none_iff.2 h] at hcompare
      cases hcompare
    rw [or_iff_left hnumbers, Option.map_some]
    cases o <;> simp

theorem isNaN_add_of_isNaN (h : a.isNaN ∨ b.isNaN) : (a + b).isNaN :=
  (isNaN_unpack_pack _).trans (isNaN_unpackedAdd_of_isNaN h)

theorem isNaN_add (hb : b.isFinite) : (a + b).isNaN = a.isNaN :=
  (isNaN_unpack_pack _).trans (isNaN_unpackedAdd hb)

theorem isNaN_sub_of_isNaN (h : b.isNaN) : (a - b).isNaN :=
  (isNaN_unpack_pack _).trans (isNaN_unpackedSub_of_isNaN h)

theorem isNaN_sub (ha : a.isFinite) : (a - b).isNaN = b.isNaN :=
  (isNaN_unpack_pack _).trans (isNaN_unpackedSub ha)

theorem isNaN_kilowatts (a : Float) : (Usage.kilowatts a).isNaN = a.isNaN := by
  have hthousand :
      (Quantity.ofNat 1000 : Float).toModel.unpack = .finite .positive 8796093022208000 (-43) (by decide) := rfl
  refine (isNaN_unpack_pack (a.toModel.unpack.div .binary64 (Quantity.ofNat 1000 : Float).toModel.unpack)).trans ?_
  rw [hthousand]
  exact isNaN_unpackedDiv

/-- A whole number is a number, though it may be rounded to the infinite. -/
theorem isNaN_ofNat (n : Nat) : (Quantity.ofNat n : Float).isNaN = false := by
  show (Float.ofScientific n false 0).isNaN = false
  rw [Float.ofScientific]
  split
  · have hone : Float.exactlyRepresentablePowersOfTen[0].toModel.unpack =
        .finite .positive 4503599627370496 (-52) (by decide) := rfl
    refine (isNaN_unpack_pack (n.toUInt64.toFloat.toModel.unpack.mul .binary64
      Float.exactlyRepresentablePowersOfTen[0].toModel.unpack)).trans ?_
    rw [hone, isNaN_unpackedMul]
    exact (isNaN_unpack_pack _).trans (isNaN_normalize ..)
  · exact (isNaN_unpack_pack _).trans (isNaN_ofScientific n 0)

/-! ### Sums -/

variable {amounts : List Float}

/-- A sum is no number once an amount is none. -/
theorem isNaN_foldl_of_mem (h : a ∈ amounts) (ha : a.isNaN) : (amounts.foldl (· + ·) b).isNaN := by
  have hkept (b : Float) (hb : b.isNaN) (rest : List Float) : (rest.foldl (· + ·) b).isNaN := by
    induction rest generalizing b with
    | nil => exact hb
    | cons c rest ih => exact ih _ (isNaN_add_of_isNaN (.inl hb))
  obtain ⟨before, after, rfl⟩ := List.append_of_mem h
  rw [List.foldl_append, List.foldl_cons]
  exact hkept _ (isNaN_add_of_isNaN (.inr ha)) after

/-- Finite amounts leave a sum a number. -/
theorem isNaN_foldl (h : ∀ a ∈ amounts, a.isFinite) (b : Float) : (amounts.foldl (· + ·) b).isNaN = b.isNaN := by
  induction amounts generalizing b with
  | nil => rfl
  | cons a rest ih =>
    rw [List.foldl_cons, ih fun a' ha' => h a' (List.mem_cons_of_mem _ ha'), isNaN_add (h a List.mem_cons_self)]

end EnergyGateway.Quantity
