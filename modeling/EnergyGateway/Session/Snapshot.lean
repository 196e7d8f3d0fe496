import EnergyGateway.Session.Exchange
import EnergyGateway.Status

/-!
# Snapshots of a session

A session works on the last snapshot that arrived.  After a change it asks for a new one, so that later actions
see what the change did; the change itself has been made by then, so that whatever becomes of the question, the
action has succeeded.
-/

namespace EnergyGateway.Action

variable {σ α : Type}

/-- The current snapshot, or else the first one to arrive. -/
def snapshot (line : Line σ) : Action σ ComponentMap := do
  match (← look line).snapshot with
  | some components => return components
  | none =>
    await line
    require (.timeout Rpc.getConfig) (← get).store.snapshot

/-- Ask for a new snapshot and wait for it.  Tells whether one was published since the question. -/
def refresh (setup : Setup σ) : Action σ Bool := do
  let seen := (← look setup.line).version
  let _ ← askComponents setup
  if (← look setup.line).changedSince seen then return true
  await setup.line
  return (← get).store.changedSince seen

/-- Give the edge time to publish the effect of a change. -/
def settle (setup : Setup σ) : Action σ Unit :=
  tryCatch (discard (refresh setup)) fun _ => pure ()

/-- What the edge reports about itself. -/
def status (setup : Setup σ) : Action σ Status := do
  return .ofSnapshot (← snapshot setup.line) setup.catalog

end EnergyGateway.Action
