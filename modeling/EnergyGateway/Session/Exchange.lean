import EnergyGateway.Listing.Page
import EnergyGateway.Session.Basic

/-!
# Exchanges

One request and what comes of it.  Reads are tried again when no answer comes; what changes something is sent
once.  An answer counts if its status says so and its body can be read.  Requests for the edge travel inside
another request, and so do their answers.
-/

namespace EnergyGateway

namespace Server

/-- The address of a path on the server.  Slashes at the end of the base do not count. -/
def address (s : Server) (path : String) : String :=
  String.ofList (s.base.toList.reverse.dropWhile (· == '/')).reverse ++ path

def authorization (s : Server) : Option String :=
  s.credentials.map fun (user, password) => Http.basicAuthorization user password

/-- How often a read is tried at most. -/
def tries (s : Server) : Nat := max s.maxTries 1

end Server

namespace Http.Response

/-- A response whose status says that the request was done. -/
def accepted (r : Response) : Except Failure Response :=
  if r.isSuccess then .ok r
  else if r.status = 401 ∨ r.status = 403 then .error .authenticationFailed
  else .error (.api r.status (r.body.getD ""))

/-- The body of a response that counts. -/
def text (r : Response) : Except Failure String := do
  match (← r.accepted).body with
  | some body => return body
  | none => throw .http

/-- The value in the body of a response that counts. -/
def decode {α : Type} (read : Document → Option α) (r : Response) : Except Failure α := do
  match (Document.read (← r.text)).bind read with
  | some a => return a
  | none => throw .http

end Http.Response

namespace Action

variable {σ α : Type}

/-- Send a request once. -/
def send (line : Line σ) (r : Http.Request) : Action σ Http.Response := fun s =>
  let (answer, remote) := line.serve r s.remote
  let s := { s with remote, log := s.log ++ [.http r answer] }
  match answer with
  | some response => .ok response s
  | none => .error .http s

/-- Wait for the edge to publish something. -/
def await (line : Line σ) : Action σ Unit := fun s =>
  let (messages, remote) := line.wait s.remote
  .ok () { s with remote, store := s.store.ingestAll messages }

/-- The store as it is now. -/
def look (line : Line σ) : Action σ Store := fun s =>
  let (messages, remote) := line.meanwhile s.remote
  let store := s.store.ingestAll messages
  .ok store { s with remote, store }

/-- A request to a server.  An address that is none cannot be asked. -/
def request (server : Server) (method : Http.Method) (path : String) (payload : Http.Payload) :
    Action σ Http.Request :=
  match Url.parse? (server.address path) with
  | some url => pure ⟨method, url, server.authorization, payload⟩
  | none => throw .http

/-- Try something until it succeeds, at most `tries` times, with pauses between. -/
def tryUpTo (pause : Action σ Unit) (attempt : Action σ α) : (tries : Nat) → Action σ α
  | 0 => throw .http
  | 1 => attempt
  | tries + 2 => tryCatch attempt fun _ => do
    pause
    tryUpTo pause attempt (tries + 1)

/-- Read what is under a path.  An attempt without an address fails like one without an answer. -/
def fetch (line : Line σ) (server : Server) (path : String) (pause : Action σ Unit := await line) :
    Action σ Http.Response :=
  let attempt : Action σ Http.Response := do send line (← request server .get path .none)
  tryUpTo pause attempt server.tries

/-- Have something done under a path.  It is sent once, answered or not. -/
def submit (line : Line σ) (server : Server) (method : Http.Method) (path : String) (payload : Http.Payload) :
    Action σ Http.Response := do
  send line (← request server method path payload)

/-- Call a method of the edge.  What the edge publishes meanwhile goes into the store. -/
def call (line : Line σ) (method : String) (params : Json) : Action σ Json := fun s =>
  let (outcome, messages, remote) := line.call method params s.remote
  let s := { s with
    remote
    store := s.store.ingestAll messages
    log := s.log ++ [.rpc method params outcome] }
  match outcome with
  | .ok j => .ok j s
  | .error f => .error f s

/-- The id of a nested request, which no other request of the session has.  It has the form of a UUID. -/
def nestedId (n : Nat) : String :=
  "00000000-0000-4000-8000-" ++ String.ofList (List.replicate (12 - (toString n).length) '0') ++ toString n

/-- An id for a nested request. -/
def freshId : Action σ String := fun s => .ok (nestedId s.ids) { s with ids := s.ids + 1 }

/-- Ask the edge itself: wrap the request, and take the answer out of the answer. -/
def askEdge (setup : Setup σ) (method : String) (params : Json) : Action σ Json := do
  let id ← freshId
  let request : Rpc.EdgeRequest := ⟨setup.edge, { id, method, params }⟩
  ofExcept (Rpc.unwrapPayload (← call setup.line Rpc.edgeCall request.json))

/-- Ask the edge for its components. -/
def askComponents (setup : Setup σ) : Action σ Json := askEdge setup Rpc.getConfig (.object [])

/-- Change properties of a component on the edge. -/
def updateComponent (setup : Setup σ) (u : Rpc.ComponentUpdate) : Action σ Json :=
  askEdge setup Rpc.updateConfig u.json

end Action

end EnergyGateway
