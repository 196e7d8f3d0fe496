import EnergyGateway.Installation.Devices
import EnergyGateway.Proofs.Configuration.Forms

/-!
# Decisions

What a decision was made from: the configuration that is posted, and a brand of the category that was asked for.
-/

namespace EnergyGateway

namespace Posting

variable {c : Configuration} {p : Posting}

theorem creation_eq_ok (h : creation c = .ok p) : c.createForm = .ok p.form ∧ p.place = c.factory := by
  unfold creation at h
  split at h
  · rename_i form hform
    cases h
    exact ⟨hform, rfl⟩
  · cases h

theorem change_eq_ok {pid : String} (h : change pid c = .ok p) :
    pid ≠ "" ∧ c.updateForm = .ok p.form ∧ p.place = pid := by
  unfold change at h
  split at h
  · cases h
  · rename_i hpid
    split at h
    · rename_i form hform
      cases h
      exact ⟨by simpa using hpid, hform, rfl⟩
    · cases h

end Posting

/-- What creates a configuration goes to its factory, and tells its id; the form names both. -/
theorem Decision.creating_eq_ok {c : Configuration} {d : Decision String} (h : Decision.creating c = .ok d) :
    d.result = c.id ∧ d.posting.place = c.factory ∧ d.posting.form.get? "id" = some c.id ∧
      d.posting.form.get? "factoryPid" = some c.factory := by
  obtain ⟨posting, hposting, hpure⟩ := exists_of_bind_eq_ok h
  cases hpure
  obtain ⟨hform, hplace⟩ := Posting.creation_eq_ok hposting
  exact ⟨rfl, hplace, Configuration.get?_createForm hform⟩

/-! ### Brands -/

namespace Catalog

variable {catalog : Catalog} {category : Category}

/-- A factory that is found is that of a brand with the factory or the name that was asked for. -/
theorem factoryOf_eq_ok {needle factory : String} (h : catalog.factoryOf category needle = .ok factory) :
    ∃ b ∈ catalog.brands category, b.factory = factory ∧ (b.factory = needle ∨ Text.sameIgnoringCase b.name needle) := by
  unfold factoryOf at h
  split at h
  · rename_i b hfind
    cases h
    have hmatch := List.find?_some hfind
    rw [Bool.or_eq_true, beq_iff_eq] at hmatch
    exact ⟨b, List.mem_of_find?_eq_some hfind, rfl, hmatch⟩
  · cases h

/-- The components of a brand belong to its category. -/
theorem covers_of_mem_brands {b : Brand} (h : b ∈ catalog.brands category) : catalog.covers category b.factory := by
  cases category with
  | serialPort => cases h
  | _ => exact List.any_eq_true.2 ⟨b, h, beq_self_eq_true _⟩

end Catalog

namespace Installation

variable {i : Installation} {brand factory : String}

theorem factoryOf_of_admitInverter {s : InverterSettings} (h : i.admitInverter brand s = .ok factory) :
    i.catalog.factoryOf .inverter brand = .ok factory := by
  obtain ⟨-, -, hfactory⟩ := exists_of_bind_eq_ok h
  exact hfactory

theorem factoryOf_of_admitMeter {s : MeterSettings} (h : i.admitMeter brand s = .ok factory) :
    i.catalog.factoryOf .meter brand = .ok factory := by
  obtain ⟨-, -, hfactory⟩ := exists_of_bind_eq_ok h
  exact hfactory

end Installation

end EnergyGateway
