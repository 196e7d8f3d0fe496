import EnergyGateway.Digest.Sha256
import EnergyGateway.Session.Console

/-!
# Login and password

The edge itself checks passwords.  A session is logged in from a login that the edge accepts to the next login
that fails, a logout or a change of the password.  Changing the password leaves a digest of the new one with the
account.
-/

namespace EnergyGateway

/-- The digest that the account keeps of a password, in hexadecimal. -/
def passwordDigest (password : String) : String := Sha256.hex password.toUTF8.toList

namespace Action

variable {σ : Type}

def setLoggedIn (b : Bool) : Action σ Unit := modify fun s => { s with loggedIn := b }

/-- Have the edge check a password. -/
def authenticate (setup : Setup σ) (user password : String) : Action σ Unit := do
  let params : Json := .object [("username", .string user), ("password", .string password)]
  tryCatch (discard (call setup.line Rpc.authenticate params)) fun
    | .rpc _ _ => throw .authenticationFailed
    | f => throw f

def login (setup : Setup σ) (user password : String) : Action σ Unit := do
  tryCatch (authenticate setup user password) fun f => do
    setLoggedIn false
    throw f
  setLoggedIn true

def logout : Action σ Unit := setLoggedIn false

/-- Replace the password of the account.  The edge checks the current one first. -/
def changePassword (setup : Setup σ) (current new : String) : Action σ Unit := do
  if new.isEmpty then throw (.invalidValue ⟨"password", "must not be empty"⟩)
  authenticate setup Configuration.accountId current
  let posting ← ofExcept (Posting.creation (.account ⟨passwordDigest new⟩))
  discard (post setup posting)
  logout

end Action

end EnergyGateway
