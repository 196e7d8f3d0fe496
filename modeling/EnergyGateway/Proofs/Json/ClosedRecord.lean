import EnergyGateway.Proofs.Json.Compact
import EnergyGateway.Proofs.Json.OpenRecord

/-!
# Members of closed records

A closed record that is written as an object is taken apart into the fields that were written, and what a reader makes of
the written fields it makes of the text as well (`Document.bind_read_compact`).
-/

namespace EnergyGateway

/-! ### Records that are written as objects -/

/-- What is written for a closed record, some fields perhaps left out, is taken apart into its fields. -/
theorem exists_closedRecord?_written (names : List String) (fields : List (String × Option Json))
    (h : fields.map Prod.fst = names) (hnodup : names.Nodup) :
    ∃ r, (Json.object (writtenMembers fields)).document.closedRecord? names = some r ∧ r.positional = false ∧
      ∀ field ∈ fields, r.Holds field := by
  subst h
  have hextra : ∀ e ∈ (KeyMap.empty : KeyMap Json).entries, e.1 ∉ fields.map Prod.fst ∧ e.2.document.value? = some e.2 :=
    nofun
  obtain ⟨r, hr, -, hfields⟩ := exists_openRecord?_written hnodup hextra
  obtain ⟨_, -, -, rfl⟩ := Document.openRecord?_eq_some_iff.1 hr
  rw [show (KeyMap.empty : KeyMap Json).entries = [] from rfl, List.append_nil] at hr
  exact ⟨_, hr, rfl, hfields⟩

theorem forall_written {fields : List (String × Option Json)} {p : Json → Prop}
    (h : ∀ field ∈ fields, ∀ j ∈ field.2, p j) : ∀ e ∈ writtenMembers fields, p e.2 := by
  intro e he
  obtain ⟨field, hfield, heq⟩ := List.mem_filterMap.1 he
  obtain ⟨j, hj, rfl⟩ := Option.map_eq_some_iff.1 heq
  exact h field hfield j hj

/-- What is written for a closed record with all its fields is taken apart into them. -/
theorem exists_closedRecord?_document (names : List String) (members : List (String × Json))
    (h : members.map Prod.fst = names) (hnodup : names.Nodup) :
    ∃ r, (Json.object members).document.closedRecord? names = some r ∧ ∀ e ∈ members, r.Holds (e.1, some e.2) := by
  have hwritten : writtenMembers (members.map fun e => (e.1, some e.2)) = members := by
    simp [writtenMembers, List.filterMap_map]
  have hkeys : (members.map fun e => (e.1, some e.2)).map Prod.fst = names := by
    rw [List.map_map]
    exact h
  obtain ⟨r, hr, -, hfields⟩ := exists_closedRecord?_written names _ hkeys hnodup
  rw [hwritten] at hr
  exact ⟨r, hr, List.forall_mem_map.1 hfields⟩

namespace Fields.Holds

variable {α : Type} {r : Fields} {name : String} {j : Json} {item : Document → Option α} {a : α}

theorem required (h : r.Holds (name, some j)) (hitem : item j.document = some a) : r.required name item = some a := by
  have hlookup : r.declared.lookup name = some j.document := h
  rw [Fields.required, hlookup, Option.bind_some, hitem]

theorem optionalByName {write : α → Json} {o : Option α} (h : r.Holds (name, o.map write))
    (hobject : r.positional = false) (hitem : ∀ a, Document.option item (write a).document = some (some a)) :
    r.optionalByName name item = some o := by
  rw [Fields.optionalByName, hobject, if_neg Bool.false_ne_true, Fields.optional, withDefault_eq_some_iff]
  cases o with
  | none => exact .inl ⟨h, rfl⟩
  | some a => exact .inr ⟨_, h, hitem a⟩

end Fields.Holds

/-- The declared members of an object are looked up in the object. -/
theorem lookup_declared_of_closedRecord? {names : List String} {members : List (String × Json)} {r : Fields}
    (h : (Json.object members).document.closedRecord? names = some r) {name : String} (hname : name ∈ names) :
    r.declared.lookup name = (members.lookup name).map Json.document := by
  obtain ⟨_, hobject, -, rfl⟩ := Document.openRecord?_eq_some_iff.1
    (show (Json.object members).document.openRecord? names = some r from h)
  cases hobject
  rw [lookup_filter names.contains, if_pos (by simpa using hname), Json.memberDocuments_eq_map, lookup_map]

/-- A list is read back if its items are. -/
theorem Document.list_document {α : Type} {item : Document → Option α} {write : α → Json} {as : List α}
    (h : ∀ a ∈ as, item (write a).document = some a) :
    Document.list item (Json.array (as.map write)).document = some as := by
  rw [Json.document, Document.list, Json.documents_eq_map, List.map_map, mapM_eq_some_iff,
    List.forall₂_map_left_iff, List.forall₂_same]
  exact h

/-- What a reader makes of the members that were written, it makes of their text. -/
theorem Document.bind_read_compact {α : Type} {read : Document → Option α} {a : α} {j : Json}
    (h : read j.document = some a) (hj : j.Within depthLimit) : (Document.read j.compact).bind read = some a := by
  rw [read_compact hj, Option.bind_some, h]

end EnergyGateway
