import EnergyGateway.Files
import EnergyGateway.Ipsec
import EnergyGateway.Session.Exchange

/-!
# The tunnel backend

Lists, creates, changes and deletes IPsec connections, and keeps the certificates they use.
-/

namespace EnergyGateway.Action

variable {σ α : Type}

/-- The path of the connections. -/
def connectionsPath : String := "/api/connections"

/-- The path of one connection. -/
def connectionPath (id : String) : String := connectionsPath ++ "/" ++ id

/-- The path of the certificates. -/
def certificatesPath : String := "/api/certificates"

def connections (line : Line σ) (server : Server) : Action σ (List Connection) := do
  ofExcept ((← fetch line server connectionsPath).decode (Document.list Connection.read))

def createConnection (line : Line σ) (server : Server) (c : Connection) : Action σ Json := do
  ofExcept ((← submit line server .post connectionsPath (.json c.json)).decode Document.value?)

def updateConnection (line : Line σ) (server : Server) (id : String) (c : Connection) : Action σ Json := do
  ofExcept ((← submit line server .put (connectionPath id) (.json c.json)).decode Document.value?)

/-- Delete a connection.  What the answer says beyond its status does not matter. -/
def deleteConnection (line : Line σ) (server : Server) (id : String) : Action σ Unit := do
  discard (ofExcept (← submit line server .delete (connectionPath id) .none).accepted)

def certificates (line : Line σ) (server : Server) : Action σ (List Certificate) := do
  ofExcept ((← fetch line server certificatesPath).decode (Document.list Certificate.read))

/-- Upload a certificate under a file name. -/
def uploadCertificate (line : Line σ) (server : Server) (name : String) (contents : ByteArray) :
    Action σ Json := do
  let answer ← submit line server .post (certificatesPath ++ "/upload") (.file name contents)
  ofExcept (answer.decode Document.value?)

/-- Upload the certificate in a file, under the name of the file.  The edge may publish something while the file is
read. -/
def uploadFile (line : Line σ) (server : Server) (files : Files) (path : String) : Action σ Json := do
  await line
  match files.read path with
  | .ok contents => uploadCertificate line server ((Files.name? path).getD "certificate") contents
  | .error e => throw (.io e.message)

end EnergyGateway.Action
