import EnergyGateway.Form.Draft
import EnergyGateway.Proofs.KeyMap
import Mathlib.Data.List.Basic

/-!
# Fields of a form

What setting a field does to the fields, to the names and to the first values.  A field of a new name goes to the
end (`fields_set_of_not_mem`), and the first value under any other name stays (`get?_set`, `get?_setCheckbox`).
-/

namespace EnergyGateway.Form

/-! ### Distinct names -/

theorem mem_distinct {k : String} {ks : List String} : k ∈ distinct ks ↔ k ∈ ks := by
  induction ks with
  | nil => simp [distinct]
  | cons x ks ih =>
    rw [distinct, List.mem_cons, List.mem_cons, List.mem_filter, ih]
    by_cases h : k = x <;> simp [h]

/-- The distinct names stand in the order of their first occurrences. -/
theorem pairwise_idxOf_distinct (ks : List String) :
    (distinct ks).Pairwise fun k l => ks.idxOf k < ks.idxOf l := by
  induction ks with
  | nil => exact List.Pairwise.nil
  | cons x ks ih =>
    rw [distinct, List.pairwise_cons]
    have hne : ∀ k ∈ (distinct ks).filter (· ≠ x), k ≠ x := fun k hk => of_decide_eq_true (List.mem_filter.1 hk).2
    constructor
    · intro k hk
      rw [List.idxOf_cons_self, List.idxOf_cons_ne _ (hne k hk).symm]
      exact Nat.succ_pos _
    · refine (ih.filter _).imp_of_mem fun {k l} hk hl hlt => ?_
      rw [List.idxOf_cons_ne _ (hne k hk).symm, List.idxOf_cons_ne _ (hne l hl).symm]
      exact Nat.succ_lt_succ hlt

theorem distinct_append (ks ls : List String) :
    distinct (ks ++ ls) = distinct ks ++ (distinct ls).filter (· ∉ ks) := by
  induction ks with
  | nil => rw [List.nil_append, distinct, List.nil_append, List.filter_eq_self.2 (by simp)]
  | cons x ks ih =>
    rw [List.cons_append, distinct, distinct, ih, List.filter_append, List.filter_filter, List.cons_append]
    simp

/-! ### Setting a field -/

/-- The names of the fields, as often as they occur. -/
def names (f : Form) : List String := f.fields.map Prod.fst

variable {f : Form} {key : String}

theorem contains_iff : f.contains key ↔ key ∈ f.names := by
  simp [contains, names]

theorem fields_set_of_not_mem (h : key ∉ f.names) (value : String) :
    (f.set key value).fields = f.fields ++ [(key, value)] := by
  obtain ⟨fields⟩ := f
  simp only [set, names] at h ⊢
  induction fields with
  | nil => rfl
  | cons e fields ih =>
    rw [List.map_cons, List.mem_cons, not_or] at h
    rw [setField, if_neg (Ne.symm h.1), ih h.2, List.cons_append]

theorem remove_of_not_mem (h : key ∉ f.names) : f.remove key = f := by
  obtain ⟨fields⟩ := f
  simp only [remove, Form.mk.injEq, List.filter_eq_self, decide_eq_true_eq]
  rintro e he rfl
  exact h (List.mem_map_of_mem he)

theorem fields_setCheckbox_of_not_mem (h : key ∉ f.names) (checked : Bool) :
    (f.setCheckbox key checked).fields =
      f.fields ++ (if checked then [(key, "true"), (key, "false")] else [(key, "false")]) := by
  cases checked <;> simp [setCheckbox, append, remove_of_not_mem h]

/-! ### First values -/

/-- A name has a first value exactly if a field has it. -/
theorem isSome_get?_iff {k : String} : (f.get? k).isSome ↔ k ∈ f.names := by
  simp [get?, names, List.lookup_isSome_iff]

private theorem lookup_filter_ne (key k : String) (fields : List (String × String)) :
    (fields.filter (·.1 ≠ key)).lookup k = if k = key then none else fields.lookup k := by
  rw [lookup_filter (· ≠ key)]
  by_cases hk : k = key <;> simp [hk]

private theorem lookup_setField (key k value : String) (fields : List (String × String)) :
    (setField key value fields).lookup k = if k = key then some value else fields.lookup k := by
  induction fields with
  | nil => rw [setField, lookup_cons_eq_ite]
  | cons e fields ih =>
    rw [setField]
    by_cases hkey : e.1 = key
    -- the later fields of that name are dropped, but they were hidden by this one anyway
    · rw [if_pos hkey, lookup_cons_eq_ite, lookup_filter_ne, lookup_cons_eq_ite]
      by_cases hk : k = key
      · rw [if_pos hk, if_pos hk]
      · rw [if_neg hk, if_neg hk, if_neg hk, if_neg (hkey ▸ hk)]
    · rw [if_neg hkey, lookup_cons_eq_ite, ih, lookup_cons_eq_ite]
      by_cases hk : k = e.1
      · rw [if_pos hk, if_neg (hk ▸ hkey), if_pos hk]
      · rw [if_neg hk, if_neg hk]

theorem get?_set (f : Form) (key value k : String) :
    (f.set key value).get? k = if k = key then some value else f.get? k := lookup_setField key k value f.fields

/-- The first value of a checkbox is its state. -/
theorem get?_setCheckbox (f : Form) (key : String) (checked : Bool) (k : String) :
    (f.setCheckbox key checked).get? k = if k = key then some (truth checked) else f.get? k := by
  have hbare : (f.remove key).get? k = if k = key then none else f.get? k := lookup_filter_ne key k f.fields
  have happend (g : Form) (value : String) :
      (g.append key value).get? k = (g.get? k).or (if k = key then some value else none) := by
    rw [append, get?, List.lookup_append, lookup_cons_eq_ite, List.lookup_nil, get?]
  cases checked with
  | true =>
    rw [setCheckbox, if_pos rfl, happend, happend, hbare]
    by_cases hk : k = key <;> simp [hk, truth]
  | false =>
    rw [setCheckbox, if_neg Bool.false_ne_true, happend, hbare]
    by_cases hk : k = key <;> simp [hk, truth]

end EnergyGateway.Form
