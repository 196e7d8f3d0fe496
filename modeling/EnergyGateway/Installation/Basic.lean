import EnergyGateway.Inventory
import EnergyGateway.Posting

/-!
# Decisions on an installation

What is known of an installation is its catalog, the listed configurations and the snapshot of its components.
Whether a change is made is decided from this alone: a decision is the posting that makes the change and what
the operator is told then.  A change that is refused is never posted.
-/

namespace EnergyGateway

/-- What is known of an installation. -/
structure Installation where
  catalog : Catalog
  listings : List Listing
  components : ComponentMap

/-- A change that was decided on. -/
structure Decision (α : Type) where
  posting : Posting
  result : α

namespace Installation

/-- The devices of a category that can be changed. -/
def devices (i : Installation) (category : Category) : List ManagedDevice :=
  Inventory.join i.components i.listings i.catalog category

/-- The device of a category with this id. -/
def device (i : Installation) (category : Category) (id : String) : Except Failure ManagedDevice :=
  match Inventory.find? (i.devices category) id with
  | some d => .ok d
  | none => .error (.pidNotFound id)

end Installation

/-- The factory of a brand that is asked for by name or factory. -/
def Catalog.factoryOf (c : Catalog) (category : Category) (brand : String) : Except Failure String :=
  match c.findBrand? category brand with
  | some b => .ok b.factory
  | none => .error (.invalidValue ⟨"factoryPid", s!"unknown {category.label} brand '{brand}'"⟩)

namespace Decision

/-- Create a component and tell its id. -/
def creating (c : Configuration) : Except Failure (Decision String) := return ⟨← Posting.creation c, c.id⟩

/-- Change the component of a device. -/
def changing (d : ManagedDevice) (c : Configuration) : Except Failure (Decision Unit) :=
  return ⟨← Posting.change d.pid c, ()⟩

end Decision

end EnergyGateway
