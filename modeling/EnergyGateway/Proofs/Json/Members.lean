import EnergyGateway.Json.Basic
import EnergyGateway.Proofs.KeyMap
import Mathlib.Data.List.Forall2

/-!
# Values of members

Members have values when every one of them has, and the value of an object is the map of these.  A value is what its own
text is read to (`Document.value?_document`): putting members into key order a second time changes nothing, at any
depth.
-/

namespace EnergyGateway

/-- All are read, or none. -/
theorem mapM_eq_some_iff {α β : Type} {f : α → Option β} {as : List α} {bs : List β} :
    as.mapM f = some bs ↔ as.Forall₂ (fun a b => f a = some b) bs := by
  induction as generalizing bs with
  | nil => simp [List.forall₂_nil_left_iff, eq_comm]
  | cons a as ih =>
    simp only [List.mapM_cons, Option.bind_eq_bind, Option.pure_def, Option.bind_eq_some_iff, Option.some.injEq,
      List.forall₂_cons_left_iff, ih]
    constructor
    · rintro ⟨b, hb, bs, hbs, rfl⟩
      exact ⟨b, bs, hb, hbs, rfl⟩
    · rintro ⟨b, bs, hb, hbs, rfl⟩
      exact ⟨b, hb, bs, hbs, rfl⟩

theorem map_pair_eq_some_iff {α : Type} {key : String} {o : Option α} {pair : String × α} :
    o.map ((key, ·)) = some pair ↔ key = pair.1 ∧ o = some pair.2 := by
  obtain ⟨k, a⟩ := pair
  simp only [Option.map_eq_some_iff, Prod.mk.injEq]
  constructor
  · rintro ⟨b, rfl, rfl, rfl⟩
    exact ⟨rfl, rfl⟩
  · rintro ⟨rfl, rfl⟩
    exact ⟨a, rfl, rfl, rfl⟩

/-- Pairs with the same keys, one by one, and values that `f` gives. -/
def Aligned {α β : Type} (f : α → Option β) : List (String × α) → List (String × β) → Prop :=
  List.Forall₂ fun e e' => e.1 = e'.1 ∧ f e.2 = some e'.2

section Aligned

variable {α β : Type} {f : α → Option β} {as : List (String × α)} {bs : List (String × β)}

theorem mapM_pair_eq_some_iff : (as.mapM fun e => (f e.2).map ((e.1, ·))) = some bs ↔ Aligned f as bs := by
  rw [mapM_eq_some_iff]
  simp only [map_pair_eq_some_iff]
  rfl

theorem Aligned.map_fst_eq (h : Aligned f as bs) : as.map Prod.fst = bs.map Prod.fst := by
  induction h with
  | nil => rfl
  | cons he _ ih => rw [List.map_cons, List.map_cons, he.1, ih]

theorem Aligned.lookup_eq (h : Aligned f as bs) (key : String) : bs.lookup key = (as.lookup key).bind f := by
  induction h with
  | nil => rfl
  | cons he _ ih =>
    rw [lookup_cons_eq_ite, lookup_cons_eq_ite, ← he.1, ih]
    split
    · exact he.2.symm
    · rfl

theorem Aligned.reverse (h : Aligned f as bs) : Aligned f as.reverse bs.reverse := List.forall₂_reverse_iff.2 h

theorem exists_aligned (h : ∀ e ∈ as, ∃ b, f e.2 = some b) : ∃ bs, Aligned f as bs := by
  induction as with
  | nil => exact ⟨[], .nil⟩
  | cons e as ih =>
    obtain ⟨⟨b, hb⟩, h⟩ := List.forall_mem_cons.1 h
    obtain ⟨bs, hbs⟩ := ih h
    exact ⟨(e.1, b) :: bs, .cons ⟨rfl, hb⟩ hbs⟩

theorem Aligned.exists_of_mem (h : Aligned f as bs) : ∀ e ∈ as, ∃ b, f e.2 = some b ∧ (e.1, b) ∈ bs := by
  induction h with
  | nil => nofun
  | @cons e e' _ _ he _ ih =>
    refine List.forall_mem_cons.2 ⟨⟨e'.2, he.2, he.1 ▸ List.mem_cons_self⟩, fun e he => ?_⟩
    obtain ⟨b, hb, hmem⟩ := ih e he
    exact ⟨b, hb, List.mem_cons_of_mem _ hmem⟩

end Aligned

namespace Json

theorem documents_eq_map (items : List Json) : documents items = items.map document := by
  induction items with
  | nil => rfl
  | cons j rest ih => rw [documents, ih, List.map_cons]

theorem memberDocuments_eq_map (members : List (String × Json)) :
    memberDocuments members = members.map fun e => (e.1, e.2.document) := by
  induction members with
  | nil => rfl
  | cons e rest ih => rw [memberDocuments, ih, List.map_cons]

end Json

namespace Document

theorem values?_eq_some_iff {items : List Document} {js : List Json} :
    values? items = some js ↔ items.Forall₂ (fun d j => d.value? = some j) js := by
  rw [← mapM_eq_some_iff]
  induction items generalizing js with
  | nil => rfl
  | cons d rest ih => simp only [values?, List.mapM_cons, Option.bind_eq_bind, Option.bind_eq_some_iff, ih]

theorem memberValues?_eq_some_iff {members : List (String × Document)} {vs : List (String × Json)} :
    memberValues? members = some vs ↔ Aligned value? members vs := by
  rw [← mapM_pair_eq_some_iff]
  induction members generalizing vs with
  | nil => rfl
  | cons e rest ih =>
    obtain ⟨key, d⟩ := e
    simp only [memberValues?, List.mapM_cons, Option.bind_eq_bind, Option.bind_eq_some_iff, ih, Option.map_eq_some_iff,
      Option.pure_def, Option.some.injEq]
    constructor
    · rintro ⟨j, hj, vs, hvs, rfl⟩
      exact ⟨_, ⟨j, hj, rfl⟩, vs, hvs, rfl⟩
    · rintro ⟨_, ⟨j, hj, rfl⟩, vs, hvs, rfl⟩
      exact ⟨j, hj, vs, hvs, rfl⟩

/-- Items that are what their texts are read to. -/
theorem values?_documents {js : List Json} (h : ∀ j ∈ js, j.document.value? = some j) :
    values? (Json.documents js) = some js := by
  rw [values?_eq_some_iff, Json.documents_eq_map, List.forall₂_map_left_iff, List.forall₂_same]
  exact h

theorem memberValues?_memberDocuments {vs : List (String × Json)} (h : ∀ e ∈ vs, e.2.document.value? = some e.2) :
    memberValues? (Json.memberDocuments vs) = some vs := by
  rw [memberValues?_eq_some_iff, Json.memberDocuments_eq_map, Aligned, List.forall₂_map_left_iff, List.forall₂_same]
  exact fun e he => ⟨rfl, h e he⟩

-- one case per form of a text; lists of items and of members come along, as in the definition of values
mutual

/-- A value is what its own text is read to. -/
theorem value?_document : ∀ {d : Document} {j : Json}, d.value? = some j → j.document.value? = some j
  | .null, _, h => by cases h; rfl
  | .bool _, _, h => by cases h; rfl
  | .number _, _, h => by cases h; rfl
  | .string _, _, h => by cases h; rfl
  | .array items, _, h => by
    obtain ⟨js, hjs, rfl⟩ := Option.map_eq_some_iff.1 h
    exact congrArg (Option.map Json.array) (values?_documents (forall_value?_document hjs))
  | .object members, _, h => by
    obtain ⟨vs, hvs, rfl⟩ := Option.map_eq_some_iff.1 h
    have hmembers : memberValues? (Json.memberDocuments (sortKeys vs)) = some (sortKeys vs) :=
      memberValues?_memberDocuments fun e he => forall_member_value?_document hvs e (KeyMap.mem_of_mem_ofList he)
    have hsorted : sortKeys (sortKeys vs) = sortKeys vs := congrArg KeyMap.entries (KeyMap.ofList_entries (.ofList vs))
    rw [Json.document, value?, hmembers, Option.map_some, hsorted]
  | .unreadable, _, h => by cases h

theorem forall_value?_document : ∀ {items : List Document} {js : List Json}, values? items = some js →
    ∀ j ∈ js, j.document.value? = some j
  | [], _, h => by cases h; nofun
  | _ :: _, _, h => by
    simp only [values?, Option.bind_eq_bind, Option.bind_eq_some_iff, Option.pure_def, Option.some.injEq] at h
    obtain ⟨j, hj, js, hjs, rfl⟩ := h
    exact List.forall_mem_cons.2 ⟨value?_document hj, forall_value?_document hjs⟩

theorem forall_member_value?_document : ∀ {members : List (String × Document)} {vs : List (String × Json)},
    memberValues? members = some vs → ∀ e ∈ vs, e.2.document.value? = some e.2
  | [], _, h => by cases h; nofun
  | (_, _) :: _, _, h => by
    simp only [memberValues?, Option.bind_eq_bind, Option.bind_eq_some_iff, Option.pure_def, Option.some.injEq] at h
    obtain ⟨j, hj, vs, hvs, rfl⟩ := h
    exact List.forall_mem_cons.2 ⟨value?_document hj, forall_member_value?_document hvs⟩

end

end Document

/-! ### Values that are written -/

namespace Json

mutual

/-- The text of a value has a value. -/
theorem exists_value?_document : ∀ j : Json, ∃ v, j.document.value? = some v
  | .null => ⟨_, rfl⟩
  | .bool _ => ⟨_, rfl⟩
  | .number _ => ⟨_, rfl⟩
  | .string _ => ⟨_, rfl⟩
  | .array items => by
    obtain ⟨vs, hvs⟩ := exists_values?_documents items
    exact ⟨.array vs, by rw [document, Document.value?, hvs, Option.map_some]⟩
  | .object members => by
    obtain ⟨vs, hvs⟩ := exists_memberValues?_memberDocuments members
    exact ⟨.object (sortKeys vs), by rw [document, Document.value?, hvs, Option.map_some]⟩

theorem exists_values?_documents : ∀ items : List Json, ∃ vs, Document.values? (documents items) = some vs
  | [] => ⟨[], rfl⟩
  | j :: items => by
    obtain ⟨v, hv⟩ := exists_value?_document j
    obtain ⟨vs, hvs⟩ := exists_values?_documents items
    exact ⟨v :: vs, by simp [documents, Document.values?, hv, hvs]⟩

theorem exists_memberValues?_memberDocuments : ∀ members : List (String × Json),
    ∃ vs, Document.memberValues? (memberDocuments members) = some vs
  | [] => ⟨[], rfl⟩
  | (key, j) :: members => by
    obtain ⟨v, hv⟩ := exists_value?_document j
    obtain ⟨vs, hvs⟩ := exists_memberValues?_memberDocuments members
    exact ⟨(key, v) :: vs, by simp [memberDocuments, Document.memberValues?, hv, hvs]⟩

end

end Json

/-- The members of every object in a value stand in key order, as a reader puts them. -/
inductive Json.Ordered : Json → Prop
  | null : Ordered .null
  | bool (b : Bool) : Ordered (.bool b)
  | number (n : Number) : Ordered (.number n)
  | string (s : String) : Ordered (.string s)
  | array {items : List Json} (h : ∀ j ∈ items, Ordered j) : Ordered (.array items)
  | object {members : List (String × Json)} (hkeys : Increasing members) (h : ∀ e ∈ members, Ordered e.2) :
    Ordered (.object members)

theorem sortKeys_of_increasing {α : Type} {entries : List (String × α)} (h : Increasing entries) :
    sortKeys entries = entries := congrArg KeyMap.entries (KeyMap.ofList_entries ⟨entries, h⟩)

/-- A value in key order is what its own text is read to. -/
theorem Json.Ordered.value?_document {j : Json} (h : j.Ordered) : j.document.value? = some j := by
  induction h with
  | null => rfl
  | bool => rfl
  | number => rfl
  | string => rfl
  | array h ih => rw [Json.document, Document.value?, Document.values?_documents ih, Option.map_some]
  | object hkeys h ih =>
    rw [Json.document, Document.value?, Document.memberValues?_memberDocuments ih, Option.map_some,
      sortKeys_of_increasing hkeys]

end EnergyGateway
