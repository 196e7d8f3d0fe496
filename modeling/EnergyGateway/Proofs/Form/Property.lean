import EnergyGateway.Proofs.Form.Draft
import Mathlib.Data.List.Nodup

/-!
# Forms of open properties

Properties are set under distinct names, so each of them stands in the form with its own values and nothing is
overwritten (`fields_foldl`).  A form is completed by at most two fields, which list its properties and say that it is
to be applied; what the properties say themselves stays (`states_complete`), and a completed form is complete
(`complete_complete`).
-/

namespace EnergyGateway.Form

/-! ### Properties one after the other -/

variable {α : Type}

/-- The fields of properties that are each sent with some values. -/
def propertyFields (values : String → α → List String) (entries : List (String × α)) : List (String × String) :=
  entries.flatMap fun e => (values e.1 e.2).map ((e.1, ·))

variable {values : String → α → List String} {entries : List (String × α)} {f : Form} {key : String}

theorem propertyFields_cons (e : String × α) :
    propertyFields values (e :: entries) = (values e.1 e.2).map ((e.1, ·)) ++ propertyFields values entries := rfl

theorem mem_of_mem_propertyFields {field : String × String} (h : field ∈ propertyFields values entries) :
    field.1 ∈ entries.map Prod.fst := by
  obtain ⟨e, he, hfield⟩ := List.mem_flatMap.1 h
  obtain ⟨v, -, rfl⟩ := List.mem_map.1 hfield
  exact List.mem_map_of_mem he

/-- Properties with distinct names that the form does not have yet go to its end in their order. -/
theorem fields_foldl {step : Form → String × α → Form}
    (hstep : ∀ f e, e.1 ∉ f.names → (step f e).fields = f.fields ++ (values e.1 e.2).map ((e.1, ·)))
    (hnodup : (entries.map Prod.fst).Nodup) (hnew : ∀ e ∈ entries, e.1 ∉ f.names) :
    (entries.foldl step f).fields = f.fields ++ propertyFields values entries := by
  induction entries generalizing f with
  | nil => exact (List.append_nil _).symm
  | cons e rest ih =>
    obtain ⟨he, hrest⟩ := List.forall_mem_cons.1 hnew
    rw [List.map_cons, List.nodup_cons] at hnodup
    have hfields := hstep f e he
    have hnew' : ∀ e' ∈ rest, e'.1 ∉ (step f e).names := by
      intro e' he' hmem
      rw [names, hfields, List.map_append, List.mem_append, List.map_map] at hmem
      rcases hmem with hmem | hmem
      · exact hrest e' he' hmem
      · obtain ⟨v, -, heq : e.1 = e'.1⟩ := List.mem_map.1 hmem
        exact hnodup.1 (heq ▸ List.mem_map_of_mem he')
    rw [List.foldl_cons, ih hnodup.2 hnew', hfields, List.append_assoc, propertyFields_cons]

/-- A property is sent once, with its value. -/
def plainValues (_key : String) (value : Json) : List String := [formValue value]

/-- A property of a controller is sent like any other, except for `enabled` when it is on, which is a checked box. -/
def controllerValues (key : String) (value : Json) : List String :=
  match key, value with
  | "enabled", .bool true => ["true", "false"]
  | _, value => [formValue value]

theorem fields_ofProperties (properties : KeyMap Json) :
    (ofProperties properties).fields = propertyFields plainValues properties.entries := by
  rw [ofProperties, setAll, List.foldl_map]
  exact fields_foldl (fun f e he => fields_set_of_not_mem he _) properties.nodup_keys (fun _ _ => List.not_mem_nil)

theorem fields_setControllerProperty {e : String × Json} (he : e.1 ∉ f.names) :
    (f.setControllerProperty e).fields = f.fields ++ (controllerValues e.1 e.2).map ((e.1, ·)) := by
  obtain ⟨key, value⟩ := e
  unfold setControllerProperty controllerValues
  split
  · rename_i heq
    cases heq
    exact fields_setCheckbox_of_not_mem he true
  · rename_i hne heq
    cases heq
    split
    · rename_i hkey hvalue
      exact (hne hkey hvalue).elim
    · exact fields_set_of_not_mem he _

theorem fields_foldl_setControllerProperty (properties : KeyMap Json) :
    (properties.entries.foldl setControllerProperty {}).fields = propertyFields controllerValues properties.entries :=
  fields_foldl (fun _ _ => fields_setControllerProperty) properties.nodup_keys (fun _ _ => List.not_mem_nil)

/-! ### What the fields of properties say -/

/-- The values of the fields with a name. -/
private theorem filter_propertyFields (hnodup : (entries.map Prod.fst).Nodup) :
    ((propertyFields values entries).filter (·.1 = key)).map Prod.snd = (entries.lookup key).elim [] (values key) := by
  induction entries with
  | nil => rfl
  | cons e rest ih =>
    rw [List.map_cons, List.nodup_cons] at hnodup
    rw [propertyFields_cons, List.filter_append, List.map_append, ih hnodup.2, lookup_cons_eq_ite]
    by_cases hkey : key = e.1
    · have hnone : rest.lookup key = none := lookup_eq_none_iff_not_mem.2 (hkey ▸ hnodup.1)
      rw [if_pos hkey, hnone]
      simp [hkey, List.filter_map, Function.comp_def]
    · rw [if_neg hkey]
      simp [Ne.symm hkey, List.filter_map, Function.comp_def]

theorem getAll_of_fields (hnodup : (entries.map Prod.fst).Nodup) (hf : f.fields = propertyFields values entries) :
    f.getAll key = (entries.lookup key).elim [] (values key) := by
  rw [getAll, hf, filter_propertyFields hnodup]

private theorem distinct_map_const {vs : List α} (hvs : vs ≠ []) (key : String) :
    distinct (vs.map fun _ => key) = [key] := by
  obtain ⟨v, vs, rfl⟩ := List.exists_cons_of_ne_nil hvs
  rw [List.map_cons, distinct, List.filter_eq_nil_iff.2]
  intro k hk
  obtain ⟨_, -, rfl⟩ := List.mem_map.1 (mem_distinct.1 hk)
  simp

section Values

variable (hvalues : ∀ key value, values key value ≠ [])
include hvalues

/-- Every property has a field. -/
theorem mem_names_of_fields (hf : f.fields = propertyFields values entries) :
    key ∈ f.names ↔ key ∈ entries.map Prod.fst := by
  rw [names, hf]
  constructor
  · intro h
    obtain ⟨field, hfield, rfl⟩ := List.mem_map.1 h
    exact mem_of_mem_propertyFields hfield
  · intro h
    obtain ⟨e, he, rfl⟩ := List.mem_map.1 h
    obtain ⟨v, hv⟩ := List.exists_mem_of_ne_nil _ (hvalues e.1 e.2)
    exact List.mem_map.2 ⟨(e.1, v), List.mem_flatMap.2 ⟨e, he, List.mem_map_of_mem hv⟩, rfl⟩

/-- The names of the properties, each once, are their keys. -/
theorem distinct_propertyFields (hnodup : (entries.map Prod.fst).Nodup) :
    distinct ((propertyFields values entries).map Prod.fst) = entries.map Prod.fst := by
  induction entries with
  | nil => rfl
  | cons e rest ih =>
    rw [List.map_cons, List.nodup_cons] at hnodup
    have hfirst : distinct (((values e.1 e.2).map ((e.1, ·))).map Prod.fst) = [e.1] := by
      rw [List.map_map]
      exact distinct_map_const (hvalues e.1 e.2) e.1
    have hrest : (rest.map Prod.fst).filter (· ∉ ((values e.1 e.2).map ((e.1, ·))).map Prod.fst) =
        rest.map Prod.fst := by
      rw [List.filter_eq_self]
      intro k hk
      simp only [decide_eq_true_eq]
      rintro hmem
      rw [← mem_distinct, hfirst, List.mem_singleton] at hmem
      exact hnodup.1 (hmem ▸ hk)
    rw [propertyFields_cons, List.map_append, distinct_append, hfirst, ih hnodup.2, hrest]
    rfl

end Values

/-! ### Completed forms -/

theorem fields_complete (f : Form) : f.complete.fields = f.fields ++
    (if "apply" ∈ f.names then [] else [("apply", "true")]) ++
    (if "propertylist" ∈ f.names then [] else [("propertylist", ",".intercalate f.propertyKeys)]) := by
  -- the second field is added to a form that has the first, whose name steers and is not listed
  have hlist {g : Form} (hkeys : g.propertyKeys = f.propertyKeys)
      (hmem : "propertylist" ∈ g.names ↔ "propertylist" ∈ f.names) :
      (if g.contains "propertylist" then g else g.set "propertylist" g.propertyNames).fields = g.fields ++
        if "propertylist" ∈ f.names then [] else [("propertylist", ",".intercalate f.propertyKeys)] := by
    by_cases h : "propertylist" ∈ g.names
    · rw [if_pos (contains_iff.2 h), if_pos (hmem.1 h), List.append_nil]
    · rw [if_neg (mt contains_iff.1 h), if_neg (mt hmem.2 h), fields_set_of_not_mem h, ← hkeys]
      rfl
  by_cases happly : "apply" ∈ f.names
  · rw [complete, if_pos (contains_iff.2 happly), if_pos happly, List.append_nil]
    exact hlist rfl Iff.rfl
  · have hfields := fields_set_of_not_mem happly "true"
    rw [complete, if_neg (mt contains_iff.1 happly), if_neg happly, ← hfields]
    refine hlist ?_ ?_
    · rw [propertyKeys_append hfields rfl happly, if_pos (by decide), List.append_nil]
    · simp [names, hfields]

theorem names_complete (f : Form) : f.complete.names = f.names ++ (if "apply" ∈ f.names then [] else ["apply"]) ++
    (if "propertylist" ∈ f.names then [] else ["propertylist"]) := by
  rw [names, fields_complete, List.map_append, List.map_append, ← names]
  split <;> split <;> rfl

/-- Completing a form gives values to names that it does not have, and to two names only. -/
theorem getAll_complete (f : Form) (key : String) : f.complete.getAll key = f.getAll key ++
    if key ∈ f.names then [] else if key = "apply" then ["true"]
    else if key = "propertylist" then [",".intercalate f.propertyKeys] else [] := by
  rw [getAll, fields_complete, List.filter_append, List.filter_append, List.map_append, List.map_append, ← getAll,
    List.append_assoc]
  congr 1
  by_cases happly : key = "apply"
  · subst happly
    split <;> split <;> simp
  · by_cases hlist : key = "propertylist"
    · subst hlist
      split <;> split <;> simp
    · split <;> split <;> simp [Ne.symm happly, Ne.symm hlist]

/-- A completed form is complete. -/
theorem complete_complete (f : Form) : f.complete.complete = f.complete := by
  have happly : "apply" ∈ f.complete.names := by
    rw [names_complete]
    by_cases h : "apply" ∈ f.names <;> simp [h]
  have hlist : "propertylist" ∈ f.complete.names := by
    rw [names_complete]
    by_cases h : "propertylist" ∈ f.names <;> simp [h]
  rw [complete.eq_1 f.complete, if_pos (contains_iff.2 happly), if_pos (contains_iff.2 hlist)]

/-- A form states properties if each of them is there with its values, if the two fields that complete it are there once
where the properties do not have them, and if nothing else is there. -/
structure States (f : Form) (properties : KeyMap α) (values : String → α → List String) : Prop where
  property : ∀ key value, properties.get? key = some value → f.getAll key = values key value
  apply : properties.get? "apply" = none → f.getAll "apply" = ["true"]
  list : properties.get? "propertylist" = none →
    f.getAll "propertylist" = [",".intercalate (properties.keys.filter (· ∉ controlKeys))]
  only : ∀ key ∈ f.names, key = "apply" ∨ key = "propertylist" ∨ key ∈ properties.keys

theorem states_complete (hvalues : ∀ key value, values key value ≠ []) {properties : KeyMap α}
    (hf : f.fields = propertyFields values properties.entries) : f.complete.States properties values := by
  have hnodup := properties.nodup_keys
  have hmem (key : String) : key ∈ f.names ↔ key ∈ properties.keys := mem_names_of_fields hvalues hf
  have hget (key : String) : f.getAll key = (properties.get? key).elim [] (values key) := getAll_of_fields hnodup hf
  have hkeys : f.propertyKeys = properties.keys.filter (· ∉ controlKeys) := by
    rw [propertyKeys, keys, hf, distinct_propertyFields hvalues hnodup]
    simp [KeyMap.keys]
  have habsent {key : String} (h : properties.get? key = none) : key ∉ f.names := by
    rw [hmem]
    exact lookup_eq_none_iff_not_mem.1 h
  refine ⟨fun key value h => ?_, fun h => ?_, fun h => ?_, fun key h => ?_⟩
  · have hkey : key ∈ f.names := by
      rw [hmem]
      exact List.mem_map_of_mem (mem_of_lookup_eq_some h)
    rw [getAll_complete, hget, h, if_pos hkey, List.append_nil]
    rfl
  · rw [getAll_complete, hget, h, if_neg (habsent h), if_pos rfl]
    rfl
  · rw [getAll_complete, hget, h, if_neg (habsent h), if_neg (by decide), if_pos rfl, hkeys]
    rfl
  · rw [names_complete, List.mem_append, List.mem_append, hmem] at h
    rcases h with (h | h) | h
    · exact .inr (.inr h)
    · split at h
      · cases h
      · exact .inl (List.mem_singleton.1 h)
    · split at h
      · cases h
      · exact .inr (.inl (List.mem_singleton.1 h))

/-! ### The forms -/

theorem states_ofComponent (properties : KeyMap Json) : (ofComponent properties).States properties plainValues :=
  states_complete (fun _ _ => List.cons_ne_nil _ _) (fields_ofProperties properties)

theorem controllerValues_ne_nil (key : String) (value : Json) : controllerValues key value ≠ [] := by
  unfold controllerValues
  split <;> exact List.cons_ne_nil _ _

theorem states_ofController (properties : KeyMap Json) : (ofController properties).States properties controllerValues :=
  states_complete controllerValues_ne_nil (fields_foldl_setControllerProperty properties)

/-- Fields that are set under distinct names stand as they were given. -/
theorem fields_setAll {fields : List (String × String)} (hnodup : (fields.map Prod.fst).Nodup) :
    (setAll {} fields).fields = fields := by
  have hfields : (setAll {} fields).fields = [] ++ propertyFields (fun _ value => [value]) fields :=
    fields_foldl (fun f e he => fields_set_of_not_mem he e.2) hnodup (fun _ _ => List.not_mem_nil)
  rw [hfields]
  simp [propertyFields]

/-- The names of values: what completes the form, and the properties under names of their own kind. -/
def valueNames (keys : List String) : List String := "apply" :: keys.map (· ++ ".value") ++ ["propertylist"]

/-- A name of the kind of values ends otherwise than the names of the fields that complete a form. -/
private theorem getLast?_value (key : String) : (key ++ ".value").toList.getLast? = some 'e' := by
  simp [String.toList_append]

theorem nodup_valueNames {keys : List String} (h : keys.Nodup) : (valueNames keys).Nodup := by
  have hne {name : String} (hname : name.toList.getLast? ≠ some 'e') : name ∉ keys.map (· ++ ".value") := by
    intro hmem
    obtain ⟨key, -, rfl⟩ := List.mem_map.1 hmem
    exact hname (getLast?_value key)
  have hinjective : Function.Injective fun key : String => key ++ ".value" := by
    intro k l hkl
    have hlists : k.toList ++ ".value".toList = l.toList ++ ".value".toList := by
      rw [← String.toList_append, ← String.toList_append]
      exact congrArg String.toList hkl
    exact String.toList_inj.1 (List.append_cancel_right hlists)
  have hkeys : (keys.map (· ++ ".value")).Nodup := h.map hinjective
  rw [valueNames, List.nodup_append, List.nodup_cons]
  refine ⟨⟨hne (by decide), hkeys⟩, by simp, fun name hname list hlist => ?_⟩
  rw [List.mem_singleton.1 hlist]
  rcases List.mem_cons.1 hname with rfl | hname
  · decide
  · rintro rfl
    exact hne (by decide) hname

theorem fields_ofValues (properties : KeyMap Json) : (ofValues properties).fields =
    ("apply", "true") :: properties.entries.map (fun e => (e.1 ++ ".value", formValue e.2)) ++
      [("propertylist", ",".intercalate properties.keys)] := by
  let fields := ("apply", "true") :: properties.entries.map fun e => (e.1 ++ ".value", formValue e.2)
  have hnames : fields.map Prod.fst ++ ["propertylist"] = valueNames properties.keys := by
    simp [fields, valueNames, KeyMap.keys, Function.comp_def]
  have hnodup := nodup_valueNames properties.nodup_keys
  rw [show properties.entries.map Prod.fst = properties.keys from rfl, ← hnames, List.nodup_append] at hnodup
  have hfields : (setAll {} fields).fields = fields := fields_setAll hnodup.1
  have hnew : "propertylist" ∉ (setAll {} fields).names := by
    rw [names, hfields]
    exact fun h => hnodup.2.2 _ h _ List.mem_cons_self rfl
  exact (fields_set_of_not_mem hnew _).trans (congrArg (· ++ _) hfields)

theorem names_ofValues (properties : KeyMap Json) : (ofValues properties).names = valueNames properties.keys := by
  simp [names, fields_ofValues, valueNames, KeyMap.keys]

end EnergyGateway.Form
