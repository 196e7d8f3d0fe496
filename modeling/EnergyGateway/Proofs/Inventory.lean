import EnergyGateway.Installation.Basic
import EnergyGateway.Proofs.KeyMap
import Mathlib.Data.List.Basic

/-!
# The inventory as a join

The device of a category under an id is the component that the snapshot has there, if its factory belongs to the
category, with the PID of the last listing whose factory belongs to the category and whose hint names the id
(`Inventory.find?_join`).  One more component with a listing of its own makes one more device, and leaves the others as
they are (`Inventory.join_insert`).
-/

namespace EnergyGateway

/-- Whether a listing is of a factory of the category and its hint names the id. -/
def Listing.isOf (catalog : Catalog) (category : Category) (id : String) (l : Listing) : Bool :=
  l.factory.any (catalog.covers category) && l.label? == some id

/-- The last listing of a category whose hint names the id. -/
def Listing.last? (list : List Listing) (catalog : Catalog) (category : Category) (id : String) : Option Listing :=
  (list.filter (Listing.isOf catalog category id)).getLast?

/-- Under an id there is the PID of the last accepted listing whose hint names it. -/
theorem Listing.get?_index_eq (accept : Option String → Bool) (list : List Listing) (id : String) :
    (Listing.index accept list).get? id =
      (list.filter fun l => accept l.factory && l.label? == some id).getLast?.map Listing.pid := by
  rw [Listing.index, KeyMap.get?_ofList, List.getLast?_eq_head?_reverse, ← List.filterMap_reverse,
    ← List.filter_reverse, ← List.filter_reverse, List.head?_filter]
  -- the last listing is the first one from behind
  generalize list.reverse = list
  induction list with
  | nil => rfl
  | cons l rest ih =>
    rw [List.find?_cons]
    cases hf : accept l.factory with
    | false => simpa [hf] using ih
    | true =>
      rw [List.filter_cons, if_pos hf]
      rcases hl : l.label? with _ | label
      · rw [List.filterMap_cons_none (by simp [hl]), ih]
        simp
      · rw [List.filterMap_cons_some (b := (label, l.pid)) (by simp [hl]), lookup_cons_eq_ite, ih]
        by_cases h : id = label
        · simp [h]
        · have hne : (label == id) = false := beq_eq_false_iff_ne.2 (Ne.symm h)
          simp [h, hne]

theorem Listing.get?_index (catalog : Catalog) (category : Category) (id : String) (list : List Listing) :
    (Listing.index (fun factory => factory.any (catalog.covers category)) list).get? id =
      (Listing.last? list catalog category id).map Listing.pid :=
  Listing.get?_index_eq (fun factory => factory.any (catalog.covers category)) list id

namespace Inventory

private theorem lookup_eq_none_of_increasing {α : Type} {id : String} {v : α} {rest : List (String × α)}
    (h : Increasing ((id, v) :: rest)) : rest.lookup id = none :=
  lookup_eq_none_iff_not_mem.2 fun hmem => String.lt_irrefl _ ((List.pairwise_cons.1 h).1 id hmem)

/-- Each id stands once among the components, so the first device with an id is the only one. -/
private theorem find?_filterMap (covered : Component → Bool) (pid : String → Option String) (id : String)
    {entries : List (String × Component)} (h : Increasing entries) :
    ((entries.filter fun e => covered e.2).filterMap fun e =>
        (pid e.1).map fun p => (⟨e.1, p, e.2⟩ : ManagedDevice)).find? (·.id == id) =
      ((entries.lookup id).filter covered).bind fun c => (pid id).map fun p => ⟨id, p, c⟩ := by
  induction entries with
  | nil => rfl
  | cons e rest ih =>
    obtain ⟨key, c⟩ := e
    have ih := ih (List.pairwise_cons.1 h).2
    rw [List.filter_cons, lookup_cons_eq_ite]
    by_cases hkey : id = key
    · subst hkey
      rw [lookup_eq_none_of_increasing h] at ih
      rw [if_pos rfl]
      cases hc : covered c with
      | false => simpa [Option.filter, hc] using ih
      | true =>
        rcases hp : pid id with _ | p
        · simpa [List.filterMap_cons, Option.filter, hc, hp] using ih
        · simp [Option.filter, hc, hp]
    · rw [if_neg hkey, ← ih]
      have hkey' : ¬ key = id := fun he => hkey he.symm
      cases hc : covered c with
      | false => simp
      | true => rcases hp : pid key with _ | p <;> simp [hp, hkey']

/-- The device of a category with an id: the component there, and the last listing that names it. -/
theorem find?_join (components : ComponentMap) (listings : List Listing) (catalog : Catalog) (category : Category)
    (id : String) :
    find? (join components listings catalog category) id =
      ((components.get? id).filter fun c => catalog.covers category c.factory).bind fun c =>
        (Listing.last? listings catalog category id).map fun l => ⟨id, l.pid, c⟩ := by
  refine (find?_filterMap (fun c => catalog.covers category c.factory)
    (fun id => (Listing.index (fun factory => factory.any (catalog.covers category)) listings).get? id) id
    components.increasing).trans ?_
  rw [Listing.get?_index]
  simp only [Option.map_map]
  rfl

end Inventory

/-! ### The device that is asked for -/

namespace Installation

variable {i : Installation} {category : Category} {id : String}

theorem device_eq_ok {d : ManagedDevice} (h : i.device category id = .ok d) :
    i.components.get? id = some d.component ∧ i.catalog.covers category d.component.factory ∧
      ∃ l, Listing.last? i.listings i.catalog category id = some l ∧ d.pid = l.pid := by
  unfold device devices at h
  rw [Inventory.find?_join] at h
  split at h
  · rename_i d' hd
    cases h
    simp only [Option.bind_eq_some_iff, Option.filter_eq_some_iff, Option.map_eq_some_iff] at hd
    obtain ⟨c, ⟨hc, hcovers⟩, l, hl, rfl⟩ := hd
    exact ⟨hc, hcovers, l, hl, rfl⟩
  · cases h

/-- Without a component or without a listing there is no device. -/
theorem device_eq_error
    (h : (∀ c, i.components.get? id = some c → i.catalog.covers category c.factory = false) ∨
      Listing.last? i.listings i.catalog category id = none) :
    i.device category id = .error (.pidNotFound id) := by
  unfold device devices
  rw [Inventory.find?_join]
  rcases h with h | h
  · rcases hc : i.components.get? id with _ | c
    · rfl
    · simp [Option.filter, h c hc]
  · rw [h]
    simp

end Installation

/-! ### One more device -/

namespace Listing

variable {catalog : Catalog} {category : Category} {id : String}

/-- The first brackets of a hint name the id of the component. -/
theorem label?_of_hint {l : Listing} {front back : String} (hhint : l.nameHint = some (front ++ "[" ++ id ++ "]" ++ back))
    (hfront : '[' ∉ front.toList) (hid : ']' ∉ id.toList) (hne : id ≠ "") : l.label? = some id := by
  have htext : (front ++ "[" ++ id ++ "]" ++ back).toList = front.toList ++ '[' :: (id.toList ++ ']' :: back.toList) := by
    simp
  have hopen : Text.cut? '[' (front ++ "[" ++ id ++ "]" ++ back).toList =
      some (front.toList, id.toList ++ ']' :: back.toList) := Text.cut?_eq_some_iff.2 ⟨htext, hfront⟩
  have hclose : Text.cut? ']' (id.toList ++ ']' :: back.toList) = some (id.toList, back.toList) :=
    Text.cut?_eq_some_iff.2 ⟨rfl, hid⟩
  rw [label?, hhint, Option.bind_some, bracketed?, hopen]
  simp [hclose, hne]

theorem last?_append (list : List Listing) (l : Listing) :
    last? (list ++ [l]) catalog category id =
      if isOf catalog category id l then some l else last? list catalog category id := by
  rw [last?, List.filter_append, last?]
  split
  · rename_i h
    rw [List.filter_cons_of_pos h, List.filter_nil, List.getLast?_concat]
  · rename_i h
    rw [List.filter_cons_of_neg h, List.filter_nil, List.append_nil]

end Listing

namespace Inventory

variable {components : ComponentMap} {listings : List Listing} {catalog : Catalog} {category : Category} {id : String}
  {c : Component} {l : Listing}

/-- The device that a component makes, if it belongs to the category and is listed. -/
def device? (listings : List Listing) (catalog : Catalog) (category : Category) (e : String × Component) :
    Option ManagedDevice :=
  if catalog.covers category e.2.factory then
    (Listing.last? listings catalog category e.1).map fun l => ⟨e.1, l.pid, e.2⟩
  else none

theorem join_eq_filterMap (components : ComponentMap) (listings : List Listing) (catalog : Catalog)
    (category : Category) :
    join components listings catalog category = components.entries.filterMap (device? listings catalog category) := by
  unfold join
  rw [List.filterMap_filter]
  refine List.filterMap_congr fun ⟨id, c⟩ _ => ?_
  simp only [device?, Listing.get?_index, Option.map_map, Function.comp_def]

/-- A listing that names another id leaves a device as it is. -/
theorem device?_append (hlabel : l.label? = some id) {e : String × Component} (hne : e.1 ≠ id) :
    device? (listings ++ [l]) catalog category e = device? listings catalog category e := by
  have hother : Listing.isOf catalog category e.1 l = false := by
    simp [Listing.isOf, hlabel, hne.symm]
  rw [device?, Listing.last?_append, hother]
  rfl

/-- With a new component and a listing of its own there is one more device, and the others stay as they are. -/
theorem join_insert (hfree : components.contains id = false) (hcovers : catalog.covers category c.factory)
    (hof : Listing.isOf catalog category id l) :
    ∃ front back, join components listings catalog category = front ++ back ∧
      join (components.insert id c) (listings ++ [l]) catalog category = front ++ ⟨id, l.pid, c⟩ :: back := by
  have hlabel : l.label? = some id := by
    simp only [Listing.isOf, Bool.and_eq_true, beq_iff_eq] at hof
    exact hof.2
  have hnew : device? (listings ++ [l]) catalog category (id, c) = some ⟨id, l.pid, c⟩ := by
    rw [device?, if_pos hcovers, Listing.last?_append, if_pos hof]
    rfl
  obtain ⟨front, back, hentries, hinsert⟩ := KeyMap.exists_entries_insert hfree c
  have hkeys : ∀ e ∈ front ++ back, e.1 ≠ id := by
    rintro e he rfl
    refine KeyMap.contains_eq_false_iff.1 hfree ?_
    rw [KeyMap.keys, hentries]
    exact List.mem_map_of_mem he
  have hstay : ∀ part : List (String × Component), (∀ e ∈ part, e ∈ front ++ back) →
      part.filterMap (device? (listings ++ [l]) catalog category) = part.filterMap (device? listings catalog category) :=
    fun part hpart => List.filterMap_congr fun e he => device?_append hlabel (hkeys e (hpart e he))
  refine ⟨front.filterMap (device? listings catalog category), back.filterMap (device? listings catalog category), ?_, ?_⟩
  · rw [join_eq_filterMap, hentries, List.filterMap_append]
  · rw [join_eq_filterMap, hinsert, List.filterMap_append, List.filterMap_cons_some hnew,
      hstay front fun e he => List.mem_append_left _ he, hstay back fun e he => List.mem_append_right _ he]

end Inventory

namespace Installation

/-- The installation once the edge has a component more and the configuration manager lists it last. -/
def gain (i : Installation) (id : String) (c : Component) (l : Listing) : Installation :=
  ⟨i.catalog, i.listings ++ [l], i.components.insert id c⟩

variable {i : Installation} {category : Category} {id : String} {c : Component} {l : Listing}

theorem devices_gain (hfree : i.components.contains id = false) (hcovers : i.catalog.covers category c.factory)
    (hof : Listing.isOf i.catalog category id l) :
    ∃ front back, i.devices category = front ++ back ∧
      (i.gain id c l).devices category = front ++ ⟨id, l.pid, c⟩ :: back :=
  Inventory.join_insert hfree hcovers hof

theorem device_gain (hcovers : i.catalog.covers category c.factory) (hof : Listing.isOf i.catalog category id l) :
    (i.gain id c l).device category id = .ok ⟨id, l.pid, c⟩ := by
  unfold device devices gain
  rw [Inventory.find?_join, KeyMap.get?_insert, if_pos rfl, Listing.last?_append, if_pos hof]
  simp [Option.filter, hcovers]

end Installation

end EnergyGateway
