import EnergyGateway.Decimal.Reader
import EnergyGateway.Text.Blank
import Mathlib.Data.List.TakeWhile

/-!
# Numbers that are written in decimal

The digits of a whole number have no blanks among them, and they are read as the number nearest to it
(`number?_toDigits`).
-/

namespace EnergyGateway

namespace Text

theorem not_isBlank_of_isDigit {c : Char} (h : c.isDigit) : ¬ isBlank c := by
  have hrange : 48 ≤ c.toNat ∧ c.toNat ≤ 57 := by
    simpa [Char.isDigit, UInt32.le_iff_toNat_le] using h
  simp [isBlank]
  omega

/-- Where there are no blanks, none are taken off. -/
theorem trimChars_of_not_isBlank {cs : List Char} (h : ∀ c ∈ cs, ¬ isBlank c) : trimChars cs = cs := by
  have hstart : cs.dropWhile isBlank = cs := List.dropWhile_eq_self_iff.2 fun _ => h _ (List.getElem_mem _)
  have hend : cs.reverse.dropWhile isBlank = cs.reverse :=
    List.dropWhile_eq_self_iff.2 fun _ => h _ (List.mem_reverse.1 (List.getElem_mem _))
  rw [trimChars, hstart, hend, List.reverse_reverse]

end Text

namespace Decimal

private theorem toLower_of_isDigit {c : Char} (h : c.isDigit) : c.toLower = c := by
  have hrange : c.toNat ≤ 57 := by
    simp only [Char.isDigit, Bool.and_eq_true, decide_eq_true_eq, UInt32.le_iff_toNat_le] at h
    exact h.2
  unfold Char.toLower
  rw [dif_neg]
  rintro ⟨hge, -⟩
  rw [ge_iff_le, UInt32.le_iff_toNat_le] at hge
  have hval : c.toNat = c.val.toNat := rfl
  simp at hge
  omega

/-- Digits alone are read as the number nearest to what they say. -/
theorem number?_of_isDigit {cs : List Char} (hne : cs ≠ []) (h : ∀ c ∈ cs, c.isDigit) :
    number? cs = some (nearest (Nat.ofDigitChars 10 cs 0) 0) := by
  have hfirst : ∀ c ∈ cs, c ≠ '-' ∧ c ≠ '+' ∧ c ≠ 'i' ∧ c ≠ 'n' := by
    intro c hc
    have hdigit := h c hc
    refine ⟨?_, ?_, ?_, ?_⟩ <;> rintro rfl <;> simp at hdigit
  have hunsigned : unsignedNumber? cs = some (nearest (Nat.ofDigitChars 10 cs 0) 0) := by
    have hwhole : cs.takeWhile Char.isDigit = cs := List.takeWhile_eq_self_iff.2 h
    have hbehind : cs.dropWhile Char.isDigit = [] := List.dropWhile_eq_nil_iff.2 h
    simp [unsignedNumber?, hwhole, hbehind, hne, exponent?]
  have hmagnitude : magnitude? cs = some (nearest (Nat.ofDigitChars 10 cs 0) 0) := by
    have hword : cs.map Char.toLower = cs := by
      rw [List.map_congr_left fun c hc => toLower_of_isDigit (h c hc), List.map_id']
    -- the names of infinity and of the missing value begin with a letter
    have hnamed (c : Char) (hc : c = 'i' ∨ c = 'n') (rest : List Char) : cs ≠ c :: rest := by
      rintro rfl
      obtain ⟨-, -, hi, hn⟩ := hfirst c List.mem_cons_self
      exact hc.elim hi hn
    rw [magnitude?, hword, if_neg, if_neg, hunsigned]
    · exact hnamed 'n' (.inr rfl) _
    · rintro (heq | heq)
      · exact hnamed 'i' (.inl rfl) _ heq
      · exact hnamed 'i' (.inl rfl) _ heq
  unfold number?
  split
  · exact absurd rfl (hfirst _ List.mem_cons_self).1
  · exact absurd rfl (hfirst _ List.mem_cons_self).2.1
  · exact hmagnitude

theorem isDigit_of_mem_toDigits {n : Nat} {c : Char} (h : c ∈ Nat.toDigits 10 n) : c.isDigit :=
  Nat.isDigit_of_mem_toDigits (by decide) (by decide) h

theorem number?_toDigits (n : Nat) : number? (Nat.toDigits 10 n) = some (nearest n 0) := by
  rw [number?_of_isDigit Nat.toDigits_ne_nil fun _ => isDigit_of_mem_toDigits,
    Nat.ofDigitChars_toDigits (by decide) (by decide)]

end Decimal

end EnergyGateway
