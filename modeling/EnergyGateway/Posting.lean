import EnergyGateway.Configuration.Forms
import EnergyGateway.Failure
import EnergyGateway.Form.Property

/-!
# Postings

A form goes to a place of the configuration manager: posted to a factory it creates a component, posted to a PID
it changes or deletes the one that is configured there.
-/

namespace EnergyGateway

/-- A form for a place of the configuration manager. -/
structure Posting where
  /-- A factory or a PID. -/
  place : String
  form : Form
  deriving DecidableEq, Repr

namespace Posting

/-- The posting that creates a component. -/
def creation (c : Configuration) : Except Failure Posting :=
  match c.createForm with
  | .ok form => .ok ⟨c.factory, form⟩
  | .error e => .error (.invalidValue e)

/-- The posting that changes the component configured under a PID.  An empty PID would name the manager itself,
so it is no PID. -/
def change (pid : String) (c : Configuration) : Except Failure Posting :=
  if pid.isEmpty then .error (.pidNotFound c.id)
  else
    match c.updateForm with
    | .ok form => .ok ⟨pid, form⟩
    | .error e => .error (.invalidValue e)

/-- The posting that deletes what is configured under a PID. -/
def deletion (pid : String) : Posting := ⟨pid, .deletion⟩

end Posting

end EnergyGateway
