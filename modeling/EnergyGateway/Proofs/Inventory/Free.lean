import EnergyGateway.Installation.Devices

/-!
# What is still free

A role is free if the catalog has it and no meter of the inventory has it, and the role of the meter that is being edited
stays free (`Inventory.any_freeRoles_iff`).  A port is free if the catalog has it and no bridge of the inventory uses its
key, as id or as alias (`Inventory.find?_freePorts`).  What is not free is refused with its name.
-/

namespace EnergyGateway

/-- A component uses a key as its id or as its alias. -/
def Component.Uses (c : Component) (id key : String) : Prop := id = key ∨ c.text? "alias" = some key

theorem Catalog.mem_of_port? {catalog : Catalog} {key : String} {port : PortTemplate} (h : catalog.port? key = some port) :
    port ∈ catalog.ports ∧ port.key = key := by
  unfold Catalog.port? at h
  exact ⟨List.mem_of_find?_eq_some h, by simpa using List.find?_some h⟩

namespace Inventory

variable {catalog : Catalog} {meters bridges : List ManagedDevice} {editing : Option String} {role key : String}
  {port : PortTemplate}

theorem any_freeRoles_iff : (freeRoles catalog meters editing).any (·.value == role) ↔
    (∃ r ∈ catalog.meterRoles, r.value = role) ∧
      ((∀ d ∈ meters, d.component.text? "type" ≠ some role) ∨ editing = some role) := by
  simp only [freeRoles, List.any_eq_true, List.mem_filter, beq_iff_eq, Bool.or_eq_true, Bool.not_eq_true',
    List.contains_eq_mem, decide_eq_false_iff_not, List.mem_filterMap, not_exists, not_and]
  constructor
  · rintro ⟨r, ⟨hr, hfree⟩, rfl⟩
    exact ⟨⟨r, hr, rfl⟩, hfree⟩
  · rintro ⟨⟨r, hr, rfl⟩, hfree⟩
    exact ⟨r, ⟨hr, hfree⟩, rfl⟩

theorem occupies_iff {bridge : ManagedDevice} : occupies bridge port ↔ bridge.component.Uses bridge.id port.key := by
  simp [occupies, Component.Uses]

/-- The free port with a key is the port of the catalog with that key, unless a bridge uses it. -/
theorem find?_freePorts_eq_some_iff : (freePorts catalog bridges).find? (·.key == key) = some port ↔
    catalog.port? key = some port ∧ ∀ d ∈ bridges, ¬d.component.Uses d.id key := by
  rw [freePorts, List.find?_filter, Catalog.port?]
  by_cases hfree : ∀ d ∈ bridges, ¬d.component.Uses d.id key
  · -- all ports with the key are free
    have hsame : (fun p : PortTemplate => decide ((!bridges.any (occupies · p)) = true ∧ (p.key == key) = true)) =
        fun p => p.key == key := by
      funext p
      rw [Bool.eq_iff_iff, decide_eq_true_iff, and_iff_right_iff_imp]
      intro hkey
      rw [Bool.not_eq_true', List.any_eq_false]
      intro d hd
      rw [occupies_iff, beq_iff_eq.1 hkey]
      exact hfree d hd
    rw [hsame]
    exact (and_iff_left hfree).symm
  · -- none of them is
    refine iff_of_false (fun h => hfree fun d hd => ?_) fun h => hfree h.2
    have hport := List.find?_some h
    rw [decide_eq_true_iff, Bool.not_eq_true', List.any_eq_false, beq_iff_eq] at hport
    rw [← hport.2, ← occupies_iff]
    exact hport.1 d hd

end Inventory

end EnergyGateway
