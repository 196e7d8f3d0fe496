import EnergyGateway.Proofs.Form.Property
import EnergyGateway.Proofs.Session.Atomicity

/-!
# Postings of open properties

Properties of a component or a controller are posted as they are, each under its own key, and the form is completed by
what they do not say themselves.  Values are posted in fields of their own kind beside what completes the form.  Nothing
else is posted (`Action.post_properties`).
-/

namespace EnergyGateway.Action

variable {σ α : Type}

/-- What an action posts is one form for a place, with a property; where the place has no address, it fails unsent. -/
def PostsForm (a : Action σ α) (setup : Setup σ) (place : String) (P : Form → Prop) : Prop :=
  a.Adds fun o es => es = [] ∧ o = .error .http ∨ ∃ e form, es = [e] ∧ Posting.SentAs setup ⟨place, form⟩ e ∧ P form

theorem postsForm_post (setup : Setup σ) (place : String) {form : Form} {P : Form → Prop} (h : P form) :
    (post setup ⟨place, form⟩).PostsForm setup place P := by
  refine (adds_post setup ⟨place, form⟩).mono ?_
  rintro o es (hunsent | ⟨e, hes, hsent, -⟩)
  · exact .inl hunsent
  · exact .inr ⟨e, form, hes, hsent, h⟩

/-- The form that is posted for properties has each of them under its own key with its value, where a controller that
is on has a checked box; it has the two fields that complete it once, as the properties say or else as `true` and the
list of their names; and it has nothing else.  To complete a form twice is to complete it once.  The form that is posted
for values has one field for each of them and the two fields that complete it, all under different names. -/
theorem post_properties (setup : Setup σ) (place : String) (properties : KeyMap Json) :
    (post setup ⟨place, .ofComponent properties⟩).PostsForm setup place (·.States properties Form.plainValues) ∧
    (post setup ⟨place, .ofController properties⟩).PostsForm setup place (·.States properties Form.controllerValues) ∧
    (∀ form : Form, form.complete.complete = form.complete) ∧
    (post setup ⟨place, .ofValues properties⟩).PostsForm setup place fun form =>
      form.names.Nodup ∧ form.fields = ("apply", "true") ::
        properties.entries.map (fun e => (e.1 ++ ".value", formValue e.2)) ++
          [("propertylist", ",".intercalate properties.keys)] := by
  refine ⟨postsForm_post setup place (Form.states_ofComponent properties),
    postsForm_post setup place (Form.states_ofController properties), Form.complete_complete,
    postsForm_post setup place ⟨?_, Form.fields_ofValues properties⟩⟩
  rw [Form.names_ofValues]
  exact Form.nodup_valueNames properties.nodup_keys

end EnergyGateway.Action
