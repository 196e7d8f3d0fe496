import EnergyGateway.Catalog
import EnergyGateway.Http.Message
import EnergyGateway.Store

/-!
# Sessions

A session talks to two parties: web servers over HTTP and an edge over its channel.  What they do is not known,
so a session runs against a `Line`, which answers from a state of its own.  Every exchange is recorded, in order.

The edge also publishes on its own.  What it publishes is taken into the store beside everything else, so before
a session looks at its store anything may have arrived.

An action of a session changes the session's state and succeeds or fails; what it has changed before a failure
stays changed.
-/

namespace EnergyGateway

/-- The other end: how it answers, and what it sends on its own. -/
structure Line (σ : Type) where
  /-- Answer a request, or not at all. -/
  serve : Http.Request → σ → Option Http.Response × σ
  /-- Answer a call of a method; messages may arrive meanwhile. -/
  call : String → Json → σ → Except Failure Json × List Rpc.Message × σ
  /-- The messages that arrive while the session waits. -/
  wait : σ → List Rpc.Message × σ
  /-- The messages that arrived while the session did something else. -/
  meanwhile : σ → List Rpc.Message × σ
  /-- Whether the time for a first snapshot is up. -/
  late : σ → Bool

/-- Something that was sent, and what came of it. -/
inductive Exchange where
  | http (r : Http.Request) (answer : Option Http.Response)
  | rpc (method : String) (params : Json) (outcome : Except Failure Json)

/-- Access to a web server: the start of its addresses, and the user to log in as, if any. -/
structure Server where
  base : String
  credentials : Option (String × String) := none
  /-- How often a read is tried; at least once. -/
  maxTries : Nat := 3

/-- What a session is set up with. -/
structure Setup (σ : Type) where
  line : Line σ
  /-- The id of the edge. -/
  edge : String := "0"
  console : Server
  catalog : Catalog

/-- The state of a session. -/
structure Session (σ : Type) where
  /-- The state of the other end. -/
  remote : σ
  store : Store := {}
  loggedIn : Bool := false
  /-- The exchanges so far. -/
  log : List Exchange := []
  /-- How many ids were given to nested requests. -/
  ids : Nat := 0

/-- An action of a session. -/
abbrev Action (σ α : Type) := EStateM Failure (Session σ) α

namespace Action

variable {σ α : Type}

/-- How an action ends. -/
def outcome (a : Action σ α) (s : Session σ) : Except Failure α :=
  match a s with
  | .ok x _ => .ok x
  | .error f _ => .error f

/-- The state in which an action leaves the session. -/
def after (a : Action σ α) (s : Session σ) : Session σ :=
  match a s with
  | .ok _ s' => s'
  | .error _ s' => s'

/-- An outcome that is known already. -/
def ofExcept : Except Failure α → Action σ α
  | .ok a => pure a
  | .error f => throw f

/-- A value that must be there. -/
def require (f : Failure) : Option α → Action σ α
  | some a => pure a
  | none => throw f

end Action

end EnergyGateway
