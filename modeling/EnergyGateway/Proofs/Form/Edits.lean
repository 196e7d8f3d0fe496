import EnergyGateway.Proofs.Form.Fields

/-!
# Forms as ordered multimaps

A form holds for every name the list of its values, and the fields of all names in one order.  Each edit changes the
values of one name: the fields of the other names stay as they are and in their order (`Edit.others_apply`), also under
many edits (`getAll_foldl_apply`).  A field that is set stands where the first field of its name stood, or else last
(`places_set`), and the ways to ask a form about a name agree with each other (`agrees`).
-/

namespace EnergyGateway.Form

variable {key k : String} {f : Form}

/-! ### The values of a name -/

theorem getAll_append (f : Form) (key value : String) : (f.append key value).getAll key = f.getAll key ++ [value] := by
  simp [append, getAll]

theorem getAll_remove (f : Form) (key : String) : (f.remove key).getAll key = [] := by
  simp [remove, getAll]

theorem getAll_eq_nil_iff : f.getAll key = [] ↔ key ∉ f.names := by
  rw [getAll, List.map_eq_nil_iff, List.filter_eq_nil_iff, names, List.mem_map, not_exists]
  exact forall_congr' fun field => by simp

/-- The first value is the first of all values. -/
theorem get?_eq_head? (f : Form) (key : String) : f.get? key = (f.getAll key).head? := by
  obtain ⟨fields⟩ := f
  rw [get?, getAll]
  induction fields with
  | nil => rfl
  | cons e fields ih =>
    rw [lookup_cons_eq_ite]
    by_cases hkey : key = e.1
    · rw [if_pos hkey, List.filter_cons_of_pos (by simp [hkey]), List.map_cons, List.head?_cons]
    · rw [if_neg hkey, ih, List.filter_cons_of_neg (by simpa using Ne.symm hkey)]

theorem getAll_setCheckbox (f : Form) (key : String) (checked : Bool) :
    (f.setCheckbox key checked).getAll key = if checked then ["true", "false"] else ["false"] := by
  cases checked <;> simp [setCheckbox, getAll_append, getAll_remove]

/-! ### Setting a field -/

/-- Only one field of the name is left. -/
private theorem filter_eq_setField (key value : String) (fields : List (String × String)) :
    (setField key value fields).filter (·.1 = key) = [(key, value)] := by
  induction fields with
  | nil => simp [setField]
  | cons e fields ih =>
    rw [setField]
    split
    · simp
    · rename_i hkey
      rw [List.filter_cons_of_neg (by simpa using hkey), ih]

private theorem filter_ne_setField (key value : String) (fields : List (String × String)) :
    (setField key value fields).filter (·.1 ≠ key) = fields.filter (·.1 ≠ key) := by
  induction fields with
  | nil => simp [setField]
  | cons e fields ih =>
    rw [setField]
    split
    · rename_i hkey
      rw [List.filter_cons_of_neg (by simp), List.filter_cons_of_neg (by simp [hkey]), List.filter_filter]
      simp
    · rename_i hkey
      rw [List.filter_cons_of_pos (by simpa using hkey), List.filter_cons_of_pos (by simpa using hkey), ih]

/-- The field stands where the first one of its name stood.  Where there was none, this is the end. -/
private theorem getElem?_setField (key value : String) (fields : List (String × String)) :
    (setField key value fields)[(fields.map Prod.fst).idxOf key]? = some (key, value) := by
  induction fields with
  | nil => simp [setField]
  | cons e fields ih =>
    rw [setField, List.map_cons]
    split
    · rename_i hkey
      rw [hkey, List.idxOf_cons_self, List.getElem?_cons_zero]
    · rename_i hkey
      rw [List.idxOf_cons_ne _ hkey, List.getElem?_cons_succ, ih]

/-- What is promised of a form in which a field was set. -/
structure Places (f : Form) (key value : String) (g : Form) : Prop where
  /-- The name has this value only. -/
  getAll_eq : g.getAll key = [value]
  /-- The field stands where the first one of the name stood. -/
  first : key ∈ f.names → g.fields[f.names.idxOf key]? = some (key, value)
  /-- A field of a new name stands last. -/
  last : key ∉ f.names → g.fields.getLast? = some (key, value)
  /-- The fields of the other names keep their values and their order. -/
  others : g.fields.filter (·.1 ≠ key) = f.fields.filter (·.1 ≠ key)

theorem places_set (f : Form) (key value : String) : f.Places key value (f.set key value) where
  getAll_eq := by rw [getAll, set, filter_eq_setField, List.map_singleton]
  first _ := getElem?_setField key value f.fields
  last hnew := by rw [fields_set_of_not_mem hnew, List.getLast?_concat]
  others := filter_ne_setField key value f.fields

/-! ### Edits -/

/-- The changes of a form, each of one name. -/
inductive Edit where
  | set (key value : String)
  | append (key value : String)
  | setCheckbox (key : String) (checked : Bool)
  | remove (key : String)

/-- The name whose fields are changed. -/
def Edit.name : Edit → String
  | set name _ | append name _ | setCheckbox name _ | remove name => name

def Edit.apply (f : Form) : Edit → Form
  | set key value => f.set key value
  | append key value => f.append key value
  | setCheckbox key checked => f.setCheckbox key checked
  | remove key => f.remove key

private theorem filter_ne_remove (f : Form) (key : String) :
    (f.remove key).fields.filter (·.1 ≠ key) = f.fields.filter (·.1 ≠ key) := by
  rw [remove, List.filter_filter]
  exact List.filter_congr fun field _ => by simp

private theorem filter_ne_append (f : Form) (key value : String) :
    (f.append key value).fields.filter (·.1 ≠ key) = f.fields.filter (·.1 ≠ key) := by
  rw [append, List.filter_append, List.filter_cons_of_neg (by simp), List.filter_nil, List.append_nil]

/-- The fields of the other names keep their values and their order. -/
theorem Edit.others_apply (e : Edit) (f : Form) :
    (e.apply f).fields.filter (·.1 ≠ e.name) = f.fields.filter (·.1 ≠ e.name) := by
  cases e with
  | set key value => exact filter_ne_setField key value f.fields
  | append key value => exact filter_ne_append f key value
  | setCheckbox key checked =>
    rw [apply, Form.setCheckbox, Edit.name, filter_ne_append]
    split
    · rw [filter_ne_append, filter_ne_remove]
    · rw [filter_ne_remove]
  | remove key => exact filter_ne_remove f key

theorem Edit.getAll_apply (e : Edit) (f : Form) (h : k ≠ e.name) : (e.apply f).getAll k = f.getAll k := by
  -- the fields of a name are among the fields of all names but the one that is changed
  have hother (g : Form) : g.fields.filter (·.1 = k) = (g.fields.filter (·.1 ≠ e.name)).filter (·.1 = k) := by
    rw [List.filter_filter]
    refine List.filter_congr fun field _ => ?_
    by_cases hk : field.1 = k <;> simp [hk, h]
  rw [getAll, getAll, hother, e.others_apply, ← hother]

/-- Edits one after the other leave the names alone that none of them is about. -/
theorem getAll_foldl_apply (edits : List Edit) (f : Form) (h : ∀ e ∈ edits, k ≠ e.name) :
    (edits.foldl Edit.apply f).getAll k = f.getAll k := by
  induction edits generalizing f with
  | nil => rfl
  | cons e edits ih =>
    obtain ⟨he, hedits⟩ := List.forall_mem_cons.1 h
    rw [List.foldl_cons, ih _ hedits, e.getAll_apply f he]

/-! ### Asking for a name -/

/-- The ways to ask a form about its names agree. -/
structure Agrees (f : Form) : Prop where
  /-- Each name is there once. -/
  nodup : f.keys.Nodup
  /-- The names stand in the order of their first fields. -/
  order : f.keys.Pairwise fun k l => f.names.idxOf k < f.names.idxOf l
  mem_keys_iff : ∀ key, key ∈ f.keys ↔ f.contains key
  get?_eq : ∀ key, f.get? key = (f.getAll key).head?
  contains_iff_isSome : ∀ key, f.contains key ↔ (f.get? key).isSome
  contains_iff_ne_nil : ∀ key, f.contains key ↔ f.getAll key ≠ []

theorem agrees (f : Form) : f.Agrees where
  nodup := by
    have hne : f.keys.Pairwise (· ≠ ·) := (pairwise_idxOf_distinct f.names).imp fun hlt => by
      rintro rfl
      exact Nat.lt_irrefl _ hlt
    exact hne
  order := pairwise_idxOf_distinct f.names
  mem_keys_iff key := by rw [contains_iff]; exact mem_distinct
  get?_eq := get?_eq_head? f
  contains_iff_isSome key := by rw [contains_iff, isSome_get?_iff]
  contains_iff_ne_nil key := by rw [contains_iff, Ne, getAll_eq_nil_iff, not_not]

/-- Whatever form it is, one name is set, checked or removed and the others stay, and the form says the same of a name
whichever way it is asked. -/
theorem agrees_and_edited (f : Form) (key : String) :
    f.Agrees ∧
    (∀ value, f.Places key value (f.set key value)) ∧
    (∀ checked, (f.setCheckbox key checked).get? key = some (truth checked) ∧
      (f.setCheckbox key checked).getAll key = if checked then ["true", "false"] else ["false"]) ∧
    (f.remove key).contains key = false ∧
    ∀ (edits : List Edit) (k : String), (∀ e ∈ edits, k ≠ e.name) →
      (edits.foldl Edit.apply f).getAll k = f.getAll k := by
  refine ⟨f.agrees, f.places_set key, fun checked => ⟨?_, f.getAll_setCheckbox key checked⟩, ?_,
    fun edits k h => getAll_foldl_apply edits f h⟩
  · rw [get?_setCheckbox, if_pos rfl]
  · rw [← Bool.not_eq_true, (f.remove key).agrees.contains_iff_ne_nil key, getAll_remove]
    exact fun h => h rfl

/-- Of a repeated name the first field stays in its place, and the other names do not notice. -/
theorem agrees_and_edited_repeated :
    let f : Form := ⟨[("x", "1"), ("a", "1"), ("b", "2"), ("a", "3"), ("b", "4"), ("a", "5")]⟩
    let edits : List Edit := [.set "a" "6", .setCheckbox "x" true, .remove "c"]
    (f.set "a" "6").fields = [("x", "1"), ("a", "6"), ("b", "2"), ("b", "4")] ∧ "a" ∈ f.names ∧
      f.Places "a" "6" (f.set "a" "6") ∧ (∀ e ∈ edits, "b" ≠ e.name) ∧
      (edits.foldl Edit.apply f).getAll "b" = ["2", "4"] := by
  intro f edits
  obtain ⟨-, hset, -, -, hedits⟩ := agrees_and_edited f "a"
  have hnames : ∀ e ∈ edits, "b" ≠ e.name := by simp [edits, Edit.name]
  exact ⟨by decide, by decide, hset "6", hnames, hedits edits "b" hnames⟩

end EnergyGateway.Form
