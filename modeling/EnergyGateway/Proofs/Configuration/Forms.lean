import EnergyGateway.Configuration.Forms
import EnergyGateway.Proofs.Form.Draft

/-!
# The forms of a configuration list their properties

Both forms of a configuration are consistent drafts with their list (`creationDraft_consistent`,
`changeDraft_consistent`), because the names under which a kind has its properties are distinct.  So each form is
what the completion of open properties makes of it without its list, and the first `enabled` in it is the state of
the component (`exists_posted_forms`).
-/

namespace EnergyGateway

/-- What succeeds one after the other succeeds at each step. -/
theorem exists_of_bind_eq_ok {ε α β : Type} {x : Except ε α} {f : α → Except ε β} {b : β} (h : (x >>= f) = .ok b) :
    ∃ a, x = .ok a ∧ f a = .ok b := by
  cases x with
  | error e => cases h
  | ok a => exact ⟨a, rfl, h⟩

namespace Configuration

open Form (Draft)

/-! ### Names -/

/-- The names of the properties that do not depend on the kind. -/
def commonNames : List String := ["id", "alias", "enabled"]

/-- The names of the properties that the kind has besides. -/
def ownNames (c : Configuration) : List String := (c.properties ++ c.initialProperties).map Prod.fst

theorem nodup_names (c : Configuration) : (commonNames ++ c.ownNames).Nodup := by
  cases c <;>
    simp only [ownNames, properties, initialProperties, List.cons_append, List.nil_append, List.map_cons,
      List.map_nil] <;>
    decide +kernel

theorem names_fit (c : Configuration) :
    ∀ k ∈ commonNames ++ c.ownNames, k ∉ Form.controlKeys ∧ ',' ∉ k.toList := by
  cases c <;>
    simp only [ownNames, properties, initialProperties, List.cons_append, List.nil_append, List.map_cons,
      List.map_nil] <;>
    decide +kernel

theorem own_properties (c : Configuration) : (c.properties.map Prod.fst).Sublist c.ownNames :=
  (List.sublist_append_left _ _).map _

/-! ### Filling in -/

/-- A consistent draft with properties of these names at most, which says that the component is in this state. -/
structure Says (d : Draft) (names : List String) (state : Option Bool) : Prop where
  consistent : d.Consistent
  listed : d.listed ⊆ names
  state : d.form.get? "enabled" = state.map Form.truth

namespace Says

variable {d : Draft} {names : List String} {state : Option Bool} {key : String}

private theorem fits (h : Says d names state) (hkey : key ∈ commonNames) (hnew : key ∉ names) : d.Fits key := by
  -- the name does not depend on the kind, so any kind will do
  obtain ⟨hcontrol, hcomma⟩ := names_fit (.account ⟨""⟩) key (List.mem_append_left _ hkey)
  exact ⟨hcontrol, hcomma, fun hmem => hnew (h.listed hmem)⟩

private theorem listed_append (h : Says d names state) (key : String) : d.listed ++ [key] ⊆ names ++ [key] :=
  List.append_subset.2 ⟨List.Subset.trans h.listed (List.subset_append_left _ _), List.subset_append_right _ _⟩

theorem put (h : Says d names state) (hkey : key ∈ commonNames) (hnew : key ∉ names) (hstate : key ≠ "enabled")
    (value : String) : Says (d.put key value) (names ++ [key]) state where
  consistent := h.consistent.put (h.fits hkey hnew) value
  listed := h.listed_append key
  state := by rw [Draft.get?_put, if_neg hstate.symm, h.state]

theorem switch (h : Says d names state) (hnew : "enabled" ∉ names) (b : Bool) :
    Says (d.put "enabled" (Form.truth b)) (names ++ ["enabled"]) (some b) where
  consistent := h.consistent.put (h.fits (by decide) hnew) _
  listed := h.listed_append "enabled"
  state := by rw [Draft.get?_put, if_pos rfl, Option.map_some]

theorem check (h : Says d names state) (hnew : "enabled" ∉ names) (b : Bool) :
    Says (d.putCheckbox "enabled" b) (names ++ ["enabled"]) (some b) where
  consistent := h.consistent.putCheckbox (h.fits (by decide) hnew) b
  listed := h.listed_append "enabled"
  state := by rw [Draft.get?_putCheckbox, if_pos rfl, Option.map_some]

theorem mono (h : Says d names state) {more : List String} (hsub : names ⊆ more) : Says d more state :=
  { h with listed := List.Subset.trans h.listed hsub }

/-- Properties of the kind come after the common ones, and none of them is named like a common one. -/
theorem putAll (h : Says d commonNames state) {c : Configuration} {properties : List (String × String)}
    (hown : (properties.map Prod.fst).Sublist c.ownNames) :
    (d.putAll properties).Consistent ∧ (d.putAll properties).form.get? "enabled" = state.map Form.truth := by
  obtain ⟨-, hnodup, hdisjoint⟩ := List.nodup_append.1 c.nodup_names
  refine ⟨h.consistent.putAll (fun k hk => ?_) (hnodup.sublist hown), ?_⟩
  · obtain ⟨hcontrol, hcomma⟩ := c.names_fit k (List.mem_append_right _ (hown.subset hk))
    exact ⟨hcontrol, hcomma, fun hmem => hdisjoint k (h.listed hmem) k (hown.subset hk) rfl⟩
  · rw [Draft.get?_putAll fun hmem => hdisjoint "enabled" (by decide) "enabled" (hown.subset hmem) rfl, h.state]

end Says

/-! ### The two forms -/

theorem creationStart_says (c : Configuration) : Says c.creationStart [] none := by
  cases c <;>
    refine ⟨⟨?_, ?_, ?_, ?_⟩, List.Subset.refl [], rfl⟩ <;>
    simp [creationStart, Draft.steer, Form.set, Form.setField, Form.names, Form.propertyKeys, Form.keys,
      Form.distinct, Form.controlKeys]

theorem creationDraft_consistent (c : Configuration) :
    c.creationDraft.Consistent ∧ c.creationDraft.form.get? "enabled" = c.enabled?.map Form.truth := by
  have hid : Says (c.creationStart.put "id" c.id) ["id"] none :=
    c.creationStart_says.put (by decide) (by decide) (by decide) c.id
  have hnamed : Says ((c.creationStart.put "id" c.id).put "alias" c.label) ["id", "alias"] none :=
    hid.put (by decide) (by decide) (by decide) c.label
  have hown : ((c.properties ++ c.initialProperties).map Prod.fst).Sublist c.ownNames := List.Sublist.refl _
  rw [creationDraft, ← Draft.putAll_append]
  cases c.enabled? with
  | some b => exact (hnamed.switch (by decide) b).putAll hown
  | none => exact (hnamed.mono (by decide)).putAll hown

theorem changeDraft_consistent (c : Configuration) :
    c.changeDraft.Consistent ∧ c.changeDraft.form.get? "enabled" = c.enabled?.map Form.truth := by
  let start := ({} : Draft).steer "apply" "true"
  have hstart : Says start [] none :=
    ⟨⟨rfl, by simp [start, Draft.steer], by decide, by decide⟩, List.Subset.refl [], rfl⟩
  have hid : Says (if c.repeatsId then start.put "id" c.id else start) ["id"] none := by
    split
    · exact hstart.put (by decide) (by decide) (by decide) c.id
    · exact hstart.mono (by decide)
  have hnamed : Says ((if c.repeatsId then start.put "id" c.id else start).put "alias" c.label) ["id", "alias"] none :=
    hid.put (by decide) (by decide) (by decide) c.label
  rw [changeDraft]
  -- the state is posted as a checkbox, as a text or not at all
  cases c.enabled? with
  | some b =>
    cases c.hasCheckbox with
    | true => exact (hnamed.check (by decide) b).putAll c.own_properties
    | false => exact (hnamed.switch (by decide) b).putAll c.own_properties
  | none => exact (hnamed.mono (by decide)).putAll c.own_properties

/-! ### What is created -/

/-- Apart from the common properties and its own, a form that creates has the values that it starts with. -/
theorem get?_creationDraft (c : Configuration) {k : String} (hown : k ∉ c.ownNames) (halias : k ≠ "alias")
    (henabled : k ≠ "enabled") :
    c.creationDraft.form.get? k = if k = "id" then some c.id else c.creationStart.form.get? k := by
  have hnamed : ((c.creationStart.put "id" c.id).put "alias" c.label).form.get? k =
      if k = "id" then some c.id else c.creationStart.form.get? k := by
    rw [Draft.get?_put, if_neg halias, Draft.get?_put]
  rw [creationDraft, ← Draft.putAll_append, Draft.get?_putAll hown]
  cases c.enabled? with
  | some b => exact (Draft.get?_put ..).trans ((if_neg henabled).trans hnamed)
  | none => exact hnamed

theorem get?_changeDraft_id (c : Configuration) :
    c.changeDraft.form.get? "id" = if c.repeatsId then some c.id else none := by
  obtain ⟨-, -, hdisjoint⟩ := List.nodup_append.1 c.nodup_names
  have hid : "id" ∉ c.properties.map Prod.fst := fun hmem =>
    hdisjoint "id" (by decide) "id" (c.own_properties.subset hmem) rfl
  have hstart : (if c.repeatsId then (({} : Draft).steer "apply" "true").put "id" c.id
      else ({} : Draft).steer "apply" "true").form.get? "id" = if c.repeatsId then some c.id else none := by
    split
    · rw [Draft.get?_put, if_pos rfl]
    · rfl
  rw [changeDraft, Draft.get?_putAll hid, ← hstart]
  cases c.enabled? <;> cases c.hasCheckbox <;> simp [Draft.get?_put, Draft.get?_putCheckbox]

theorem createForm_eq_ok {c : Configuration} {form : Form} (h : c.createForm = .ok form) :
    c.validate = .ok () ∧ form = c.creationDraft.finish := by
  obtain ⟨_, hvalid, hform⟩ := exists_of_bind_eq_ok h
  cases hform
  exact ⟨hvalid, rfl⟩

theorem updateForm_eq_ok {c : Configuration} {form : Form} (h : c.updateForm = .ok form) :
    c.validate = .ok () ∧ form = c.changeDraft.finish := by
  obtain ⟨_, hvalid, hform⟩ := exists_of_bind_eq_ok h
  cases hform
  exact ⟨hvalid, rfl⟩

/-- A form that creates a component names its id and its factory. -/
theorem get?_createForm {c : Configuration} {form : Form} (h : c.createForm = .ok form) :
    form.get? "id" = some c.id ∧ form.get? "factoryPid" = some c.factory := by
  obtain ⟨-, -, hdisjoint⟩ := List.nodup_append.1 c.nodup_names
  have hid : "id" ∉ c.ownNames := fun hmem => hdisjoint "id" (by decide) "id" hmem rfl
  have hfactory : "factoryPid" ∉ c.ownNames := fun hmem =>
    (c.names_fit "factoryPid" (List.mem_append_right _ hmem)).1 (by decide)
  have hstart : c.creationStart.form.get? "factoryPid" = some c.factory := by
    cases c <;> rfl
  obtain ⟨-, rfl⟩ := createForm_eq_ok h
  rw [Draft.get?_finish _ (by decide), Draft.get?_finish _ (by decide),
    c.get?_creationDraft hid (by decide) (by decide), c.get?_creationDraft hfactory (by decide) (by decide), hstart]
  exact ⟨rfl, rfl⟩

/-! ### What is posted -/

/-- A form that posts a configuration.  The completion of open properties gives it back without its list; the list
names each property once, in the order in which they are posted first, and none of the fields that steer the manager;
the state of the component is the value of `enabled` that counts. -/
structure Posts (c : Configuration) (f : Form) : Prop where
  complete_remove : (f.remove "propertylist").complete = f
  lists : ∃ listed : List String,
    f.getAll "propertylist" = [",".intercalate listed] ∧
    (∀ k ∈ listed, ',' ∉ k.toList) ∧
    (∀ k, k ∈ listed ↔ k ∈ f.names ∧ k ∉ ["apply", "factoryPid", "location", "delete", "propertylist"]) ∧
    listed.Nodup ∧
    listed.Pairwise fun k l => f.names.idxOf k < f.names.idxOf l
  state : f.get? "enabled" = c.enabled?.map Form.truth

theorem posts_finish {c : Configuration} {d : Draft} (h : d.Consistent)
    (hstate : d.form.get? "enabled" = c.enabled?.map Form.truth) : Posts c d.finish where
  complete_remove := by rw [h.remove_finish, h.complete_form]
  lists := by
    have horder := h.propertyKeys_finish ▸ Form.pairwise_propertyKeys d.finish
    refine ⟨d.listed, h.getAll_finish, h.no_comma, fun k => ?_, horder.imp fun hlt heq => ?_, horder⟩
    · rw [← h.propertyKeys_finish, Form.mem_propertyKeys]
      simp [Form.controlKeys]
      tauto
    · exact absurd hlt (heq ▸ Nat.lt_irrefl _)
  state := (d.get?_finish (by decide)).trans hstate

/-- A configuration that passes the checks has both forms, and each lists its properties as the completion of open
properties would. -/
theorem exists_posted_forms (c : Configuration) (h : c.validate = .ok ()) :
    ∃ create update, c.createForm = .ok create ∧ c.updateForm = .ok update ∧ Posts c create ∧ Posts c update := by
  refine ⟨c.creationDraft.finish, c.changeDraft.finish, ?_, ?_, ?_, ?_⟩
  · rw [createForm, h]
    rfl
  · rw [updateForm, h]
    rfl
  · exact posts_finish c.creationDraft_consistent.1 c.creationDraft_consistent.2
  · exact posts_finish c.changeDraft_consistent.1 c.changeDraft_consistent.2

/-- A controller that limits two inverters, one with a comma in its name. -/
private def twoInverters : Configuration :=
  .limitController ⟨limitId, "Grid, limit", true, 8000, ["pvInverter0", "pvInverter,1"]⟩

theorem exists_posted_forms_two_inverters :
    twoInverters.validate = .ok () ∧
    ∃ create update, twoInverters.createForm = .ok create ∧ twoInverters.updateForm = .ok update ∧
      Posts twoInverters create ∧ Posts twoInverters update := by
  have hvalid : twoInverters.validate = .ok () := by decide +kernel
  exact ⟨hvalid, exists_posted_forms twoInverters hvalid⟩

end Configuration

end EnergyGateway
