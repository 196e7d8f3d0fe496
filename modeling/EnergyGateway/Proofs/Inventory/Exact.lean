import EnergyGateway.Proofs.Inventory

/-!
# Which devices are in the inventory

A component of a category is in the inventory when a listing of the category names it: the listing's factory belongs to
the category, and the text in the first brackets of its hint is the id of the component.  The last such listing gives the
PID, and all other listings play no part (`Inventory.join_exact`).
-/

namespace EnergyGateway

/-- The last element that has a property. -/
theorem getLast?_filter_eq_some_iff {α : Type} {p : α → Bool} {list : List α} {a : α} :
    (list.filter p).getLast? = some a ↔
      ∃ before after, list = before ++ a :: after ∧ p a ∧ ∀ b ∈ after, p b = false := by
  rw [List.getLast?_eq_head?_reverse, ← List.filter_reverse, List.head?_filter, List.find?_eq_some_iff_append]
  constructor
  · rintro ⟨ha, after, before, hlist, hafter⟩
    refine ⟨before.reverse, after.reverse, ?_, ha, fun b hb => by simpa using hafter b (List.mem_reverse.1 hb)⟩
    rw [← List.reverse_reverse list, hlist, List.reverse_append, List.reverse_cons, List.append_assoc,
      List.singleton_append]
  · rintro ⟨before, after, rfl, ha, hafter⟩
    refine ⟨ha, after.reverse, before.reverse, ?_, fun b hb => by simpa using hafter b (List.mem_reverse.1 hb)⟩
    rw [List.reverse_append, List.reverse_cons, List.append_assoc, List.singleton_append]

namespace Listing

variable {catalog : Catalog} {category : Category} {id : String} {l : Listing} {list : List Listing}

/-- The text in the first brackets of the hint is the id. -/
def Hints (id : String) (l : Listing) : Prop :=
  ∃ front back, l.nameHint = some (front ++ "[" ++ id ++ "]" ++ back) ∧ '[' ∉ front.toList ∧ ']' ∉ id.toList ∧ id ≠ ""

theorem label?_eq_some_iff : l.label? = some id ↔ l.Hints id := by
  constructor
  · intro h
    obtain ⟨hint, hhint, h⟩ := Option.bind_eq_some_iff.1 h
    simp only [bracketed?, Option.bind_eq_bind, Option.bind_eq_some_iff] at h
    obtain ⟨⟨front, behind⟩, hopen, ⟨inside, back⟩, hclose, h⟩ := h
    obtain ⟨htext, hfront⟩ := Text.cut?_eq_some_iff.1 hopen
    obtain ⟨rfl, hinside⟩ := Text.cut?_eq_some_iff.1 hclose
    simp only [Option.ite_none_left_eq_some, Option.some.injEq, List.isEmpty_iff] at h
    obtain ⟨hne, rfl⟩ := h
    refine ⟨String.ofList front, String.ofList back, ?_, by simpa using hfront, by simpa using hinside, by simpa using hne⟩
    rw [hhint, Option.some.injEq]
    apply String.toList_injective
    simp [htext]
  · rintro ⟨front, back, hhint, hfront, hid, hne⟩
    exact label?_of_hint hhint hfront hid hne

/-- The listing is of a factory of the category, and its hint names the id. -/
def Names (catalog : Catalog) (category : Category) (id : String) (l : Listing) : Prop :=
  (∃ factory, l.factory = some factory ∧ catalog.covers category factory) ∧ l.Hints id

theorem isOf_iff : isOf catalog category id l ↔ l.Names catalog category id := by
  simp only [isOf, Names, Bool.and_eq_true, beq_iff_eq, label?_eq_some_iff, Option.any_eq_true]

instance (catalog : Catalog) (category : Category) (l : Listing) : Decidable (∃ id, l.Names catalog category id) :=
  decidable_of_iff (l.factory.any (catalog.covers category) ∧ l.label?.isSome) <| by
    simp only [← isOf_iff, isOf, Bool.and_eq_true, beq_iff_eq, Option.isSome_iff_exists, exists_and_left]

theorem last?_eq_some_iff : last? list catalog category id = some l ↔ ∃ before after, list = before ++ l :: after ∧
    l.Names catalog category id ∧ ∀ l' ∈ after, ¬l'.Names catalog category id := by
  rw [last?, getLast?_filter_eq_some_iff]
  simp only [← isOf_iff, Bool.not_eq_true]

/-- Listings that name nothing play no part. -/
theorem last?_filter (list : List Listing) (catalog : Catalog) (category : Category) (id : String) :
    last? (list.filter fun l => ∃ id, l.Names catalog category id) catalog category id =
      last? list catalog category id := by
  have hnames : ∀ l ∈ list, (isOf catalog category id l && decide (∃ id, l.Names catalog category id)) =
      isOf catalog category id l := by
    intro l _
    rw [Bool.and_eq_left_iff_imp, decide_eq_true_iff]
    exact fun h => ⟨id, isOf_iff.1 h⟩
  rw [last?, List.filter_filter, List.filter_congr hnames, last?]

end Listing

namespace Inventory

variable {components : ComponentMap} {listings : List Listing} {catalog : Catalog} {category : Category}

theorem device?_eq_some_iff {e : String × Component} {d : ManagedDevice} :
    device? listings catalog category e = some d ↔
      e = (d.id, d.component) ∧ catalog.covers category d.component.factory ∧
        ∃ l, Listing.last? listings catalog category d.id = some l ∧ d.pid = l.pid := by
  rw [device?, Option.ite_none_right_eq_some, Option.map_eq_some_iff]
  constructor
  · rintro ⟨hcovers, l, hl, rfl⟩
    exact ⟨rfl, hcovers, l, hl, rfl⟩
  · rintro ⟨rfl, hcovers, l, hl, hpid⟩
    exact ⟨hcovers, l, hl, by rw [← hpid]⟩

/-- The devices stand in the order of their ids, and none stands there twice. -/
theorem pairwise_join (components : ComponentMap) (listings : List Listing) (catalog : Catalog) (category : Category) :
    ((join components listings catalog category).map ManagedDevice.id).Pairwise (· < ·) := by
  have hkeys : components.entries.Pairwise fun e e' => e.1 < e'.1 := List.pairwise_map.1 components.increasing
  rw [join_eq_filterMap, List.pairwise_map, List.pairwise_filterMap]
  refine hkeys.imp fun {e e'} hlt d hd d' hd' => ?_
  obtain ⟨rfl, -⟩ := device?_eq_some_iff.1 hd
  obtain ⟨rfl, -⟩ := device?_eq_some_iff.1 hd'
  exact hlt

theorem mem_join_iff {d : ManagedDevice} : d ∈ join components listings catalog category ↔
    components.get? d.id = some d.component ∧ catalog.covers category d.component.factory ∧
      ∃ l, Listing.last? listings catalog category d.id = some l ∧ d.pid = l.pid := by
  have hentry : (d.id, d.component) ∈ components.entries ↔ components.get? d.id = some d.component :=
    ⟨lookup_eq_some_of_mem components.nodup_keys, mem_of_lookup_eq_some⟩
  rw [join_eq_filterMap, List.mem_filterMap]
  simp only [device?_eq_some_iff, ← hentry]
  constructor
  · rintro ⟨_, he, rfl, h⟩
    exact ⟨he, h⟩
  · rintro ⟨he, h⟩
    exact ⟨_, he, rfl, h⟩

/-- Exactly the components of the category that are named by a listing are in the inventory, in the order of their ids,
each with the PID of the last listing that names it.  Listings that name nothing play no part, wherever they stand. -/
theorem join_exact (components : ComponentMap) (listings : List Listing) (catalog : Catalog) (category : Category) :
    ((join components listings catalog category).map ManagedDevice.id).Pairwise (· < ·) ∧
    (∀ d, d ∈ join components listings catalog category ↔
      components.get? d.id = some d.component ∧ catalog.covers category d.component.factory ∧
      ∃ before l after, listings = before ++ l :: after ∧ l.Names catalog category d.id ∧
        (∀ l' ∈ after, ¬l'.Names catalog category d.id) ∧ d.pid = l.pid) ∧
    ∀ listings', (listings'.filter fun l => ∃ id, l.Names catalog category id) =
        (listings.filter fun l => ∃ id, l.Names catalog category id) →
      join components listings' catalog category = join components listings catalog category := by
  refine ⟨pairwise_join components listings catalog category, fun d => ?_, fun listings' hsame => ?_⟩
  · rw [mem_join_iff]
    refine and_congr_right fun _ => and_congr_right fun _ => ?_
    constructor
    · rintro ⟨l, hl, hpid⟩
      obtain ⟨before, after, hlistings, hnames, hlast⟩ := Listing.last?_eq_some_iff.1 hl
      exact ⟨before, l, after, hlistings, hnames, hlast, hpid⟩
    · rintro ⟨before, l, after, hlistings, hnames, hlast, hpid⟩
      exact ⟨l, Listing.last?_eq_some_iff.2 ⟨before, after, hlistings, hnames, hlast⟩, hpid⟩
  · have hlast (id : String) :
        Listing.last? listings' catalog category id = Listing.last? listings catalog category id := by
      rw [← Listing.last?_filter listings', hsame, Listing.last?_filter]
    simp only [join_eq_filterMap]
    refine List.filterMap_congr fun e _ => ?_
    rw [device?, device?, hlast]

end Inventory

end EnergyGateway
