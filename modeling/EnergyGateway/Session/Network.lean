import EnergyGateway.Network
import EnergyGateway.Session.Exchange

/-!
# The network backend

Lists the interfaces of the box and changes them by their id.
-/

namespace EnergyGateway.Action

variable {σ α : Type}

/-- The path of the interfaces. -/
def interfacesPath : String := "/api/network-config"

def interfaces (line : Line σ) (server : Server) : Action σ (List Interface) := do
  ofExcept ((← fetch line server interfacesPath).decode (Document.list Interface.read))

/-- Change an interface; the answer is how it is then. -/
def updateInterface (line : Line σ) (server : Server) (id : String) (u : InterfaceUpdate) :
    Action σ Interface := do
  let answer ← submit line server .post (interfacesPath ++ "/" ++ id) (.json u.json)
  ofExcept (answer.decode Interface.read)

end EnergyGateway.Action
