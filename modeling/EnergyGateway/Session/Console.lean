import EnergyGateway.Posting
import EnergyGateway.Session.Exchange

/-!
# The configuration manager

The configuration manager lists the configurations on its page, describes each of them under its PID, and takes
postings.
-/

namespace EnergyGateway

/-- The path of the configuration manager. -/
def managerPath : String := "/system/console/configMgr"

namespace Action

variable {σ α : Type}

/-- The configurations that the page lists. -/
def listings (setup : Setup σ) (pause : Action σ Unit := await setup.line) : Action σ (List Listing) := do
  return Listing.ofPage (← ofExcept (← fetch setup.line setup.console managerPath pause).text)

/-- The description of a configuration. -/
def describe (setup : Setup σ) (pid : String) : Action σ Json := do
  let answer ← fetch setup.line setup.console (managerPath ++ "/" ++ pid ++ ".json")
  ofExcept (answer.decode Document.value?)

/-- Post a form; the answer is a text. -/
def post (setup : Setup σ) (p : Posting) : Action σ String := do
  let answer ← submit setup.line setup.console .post (managerPath ++ "/" ++ p.place) (.form p.form)
  ofExcept answer.text

end Action

end EnergyGateway
