import EnergyGateway.Form.Property
import EnergyGateway.Proofs.Form.Fields

/-!
# The list that a draft ends with

The list of properties is noted down while a draft is filled in, and it is computed from the fields when a form of
open properties is completed.  The two agree (`Consistent.complete_form`) as long as a property is filled in once
and its name steers nothing: this is the invariant `Consistent`, which every way of filling in a field preserves.
-/

namespace EnergyGateway.Form

/-- The names of the properties of a form, each once, by first occurrence. -/
def propertyKeys (f : Form) : List String := f.keys.filter (!controlKeys.contains ·)

theorem mem_propertyKeys {f : Form} {k : String} : k ∈ f.propertyKeys ↔ k ∈ f.names ∧ k ∉ controlKeys := by
  simp [propertyKeys, keys, mem_distinct, names]

theorem pairwise_propertyKeys (f : Form) :
    f.propertyKeys.Pairwise fun k l => f.names.idxOf k < f.names.idxOf l := (pairwise_idxOf_distinct f.names).filter _

/-- New fields of one name add that name. -/
theorem propertyKeys_append {f g : Form} {key : String} {added : List (String × String)}
    (hg : g.fields = f.fields ++ added) (hadded : distinct (added.map Prod.fst) = [key]) (hnew : key ∉ f.names) :
    g.propertyKeys = f.propertyKeys ++ if key ∈ controlKeys then [] else [key] := by
  have hkeys : g.keys = f.keys ++ [key] := by
    have hkept : [key].filter (· ∉ f.names) = [key] := List.filter_cons_of_pos (by simpa using hnew)
    rw [keys, hg, List.map_append, distinct_append, hadded]
    exact congrArg (f.keys ++ ·) hkept
  rw [propertyKeys, hkeys, List.filter_append, propertyKeys]
  by_cases hkey : key ∈ controlKeys <;> simp [hkey]

namespace Draft

variable {d : Draft} {key : String}

/-- A draft that says that it is to be applied, has no list among its fields, and has noted down the properties
among them, whose names have no comma. -/
structure Consistent (d : Draft) : Prop where
  listed_eq : d.listed = d.form.propertyKeys
  no_comma : ∀ k ∈ d.listed, ',' ∉ k.toList
  applied : "apply" ∈ d.form.names
  unfinished : "propertylist" ∉ d.form.names

/-- A name under which a draft can take one more property. -/
structure Fits (d : Draft) (key : String) : Prop where
  no_control : key ∉ controlKeys
  no_comma : ',' ∉ key.toList
  new : key ∉ d.listed

namespace Consistent

theorem not_mem_names (h : d.Consistent) (hkey : d.Fits key) : key ∉ d.form.names := fun hmem =>
  hkey.new (h.listed_eq ▸ mem_propertyKeys.2 ⟨hmem, hkey.no_control⟩)

private theorem extend (h : d.Consistent) (hkey : d.Fits key) {g : Form} {added : List (String × String)}
    (hg : g.fields = d.form.fields ++ added) (hadded : distinct (added.map Prod.fst) = [key]) :
    Consistent ⟨g, d.listed ++ [key]⟩ := by
  have hnames : g.names = d.form.names ++ added.map Prod.fst := by rw [names, hg, List.map_append, names]
  have hmem (k : String) : k ∈ added.map Prod.fst ↔ k = key := by rw [← mem_distinct, hadded, List.mem_singleton]
  -- the name is new among the fields because it is new in the list and steers nothing
  refine ⟨?_, ?_, ?_, ?_⟩
  · rw [propertyKeys_append hg hadded (h.not_mem_names hkey), if_neg hkey.no_control, h.listed_eq]
  · intro k hk
    rcases List.mem_append.1 hk with hk | hk
    · exact h.no_comma k hk
    · exact List.mem_singleton.1 hk ▸ hkey.no_comma
  · exact hnames ▸ List.mem_append_left _ h.applied
  · rw [hnames, List.mem_append, hmem, not_or]
    refine ⟨h.unfinished, ?_⟩
    rintro rfl
    exact hkey.no_control (by decide)

theorem put (h : d.Consistent) (hkey : d.Fits key) (value : String) : (d.put key value).Consistent :=
  h.extend hkey (fields_set_of_not_mem (h.not_mem_names hkey) value) rfl

theorem putCheckbox (h : d.Consistent) (hkey : d.Fits key) (checked : Bool) :
    (d.putCheckbox key checked).Consistent := by
  refine h.extend hkey (fields_setCheckbox_of_not_mem (h.not_mem_names hkey) checked) ?_
  cases checked <;> simp [distinct]

theorem putAll (h : d.Consistent) {properties : List (String × String)}
    (hfits : ∀ k ∈ properties.map Prod.fst, d.Fits k) (hnodup : (properties.map Prod.fst).Nodup) :
    (d.putAll properties).Consistent := by
  induction properties generalizing d with
  | nil => exact h
  | cons p properties ih =>
    obtain ⟨hp, hfits⟩ := List.forall_mem_cons.1 hfits
    obtain ⟨hnew, hnodup⟩ := List.nodup_cons.1 hnodup
    -- what follows still fits when the first property is listed, since the names are distinct
    refine ih (h.put hp p.2) (fun k hk => ?_) hnodup
    obtain ⟨hcontrol, hcomma, hlisted⟩ := hfits k hk
    refine ⟨hcontrol, hcomma, fun hmem => ?_⟩
    rcases List.mem_append.1 hmem with hmem | hmem
    · exact hlisted hmem
    · exact hnew (List.mem_singleton.1 hmem ▸ hk)

theorem fields_finish (h : d.Consistent) :
    d.finish.fields = d.form.fields ++ [("propertylist", ",".intercalate d.listed)] :=
  fields_set_of_not_mem h.unfinished _

theorem remove_finish (h : d.Consistent) : d.finish.remove "propertylist" = d.form := by
  calc d.finish.remove "propertylist"
      = d.form.remove "propertylist" := by simp [remove, h.fields_finish]
    _ = d.form := remove_of_not_mem h.unfinished

/-- The list that was noted down is the list that completes the fields. -/
theorem complete_form (h : d.Consistent) : d.form.complete = d.finish := by
  have happly : d.form.contains "apply" := contains_iff.2 h.applied
  have hlist : ¬ d.form.contains "propertylist" := mt contains_iff.1 h.unfinished
  rw [complete, if_pos happly, if_neg hlist, propertyNames, finish, h.listed_eq, propertyKeys]

theorem propertyKeys_finish (h : d.Consistent) : d.finish.propertyKeys = d.listed := by
  rw [propertyKeys_append h.fields_finish rfl h.unfinished, if_pos (by simp [controlKeys]), List.append_nil, h.listed_eq]

theorem getAll_finish (h : d.Consistent) : d.finish.getAll "propertylist" = [",".intercalate d.listed] := by
  have hnone : d.form.fields.filter (·.1 = "propertylist") = [] := List.filter_eq_nil_iff.2 fun e he hname =>
    h.unfinished (List.mem_map.2 ⟨e, he, of_decide_eq_true hname⟩)
  rw [getAll, h.fields_finish, List.filter_append, hnone]
  rfl

end Consistent

/-! ### Values of a draft -/

theorem putAll_append (d : Draft) (properties more : List (String × String)) :
    d.putAll (properties ++ more) = (d.putAll properties).putAll more := List.foldl_append

theorem get?_put (d : Draft) (key value k : String) :
    (d.put key value).form.get? k = if k = key then some value else d.form.get? k := get?_set d.form key value k

theorem get?_putCheckbox (d : Draft) (key : String) (checked : Bool) (k : String) :
    (d.putCheckbox key checked).form.get? k = if k = key then some (truth checked) else d.form.get? k :=
  get?_setCheckbox d.form key checked k

theorem get?_putAll {k : String} {properties : List (String × String)} (hk : k ∉ properties.map Prod.fst) :
    (d.putAll properties).form.get? k = d.form.get? k := by
  induction properties generalizing d with
  | nil => rfl
  | cons p properties ih =>
    rw [List.map_cons, List.mem_cons, not_or] at hk
    calc (d.putAll (p :: properties)).form.get? k
        = (d.put p.1 p.2).form.get? k := ih hk.2
      _ = d.form.get? k := by rw [get?_put, if_neg hk.1]

/-- Of properties with distinct names, each has the value that it was given. -/
theorem get?_putAll_of_mem {properties : List (String × String)} (hnodup : (properties.map Prod.fst).Nodup)
    {e : String × String} (he : e ∈ properties) : (d.putAll properties).form.get? e.1 = some e.2 := by
  induction properties generalizing d with
  | nil => exact absurd he List.not_mem_nil
  | cons p properties ih =>
    obtain ⟨hnew, hnodup⟩ := List.nodup_cons.1 hnodup
    rcases List.mem_cons.1 he with rfl | he
    · calc (d.putAll (e :: properties)).form.get? e.1
          = (d.put e.1 e.2).form.get? e.1 := get?_putAll hnew
        _ = some e.2 := by rw [get?_put, if_pos rfl]
    · exact ih hnodup he

theorem get?_finish (d : Draft) {k : String} (hk : k ≠ "propertylist") : d.finish.get? k = d.form.get? k := by
  rw [finish, get?_set, if_neg hk]

end Draft

end EnergyGateway.Form
