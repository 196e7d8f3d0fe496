import EnergyGateway.Http.Message

/-!
# A simulated web server

A server for rehearsals.  It answers by routes, of which the latest that matches counts, and remembers what it
was asked.  A route may drop connections before it answers; a server out of reach gets no request at all.
-/

namespace EnergyGateway

/-- What a server answers to a method under a path. -/
structure Route where
  method : String
  /-- The whole path with its query, or `*` for any. -/
  path : String
  status : Nat := 200
  body : String := ""
  /-- How many more requests are dropped unanswered. -/
  drops : Nat := 0

structure SimulatedServer where
  /-- The latest route first. -/
  routes : List Route := []
  reachable : Bool := true
  /-- The requests so far. -/
  received : List Http.Request := []

namespace SimulatedServer

def add (s : SimulatedServer) (r : Route) : SimulatedServer := { s with routes := r :: s.routes }

def answers (r : Route) (request : Http.Request) : Bool :=
  r.method == request.method.text && (r.path == "*" || r.path == request.url.target)

/-- Whether an answer of a status has no body. -/
def isBodiless (status : Nat) : Bool := status == 101 || status == 204 || status == 304

/-- The answer of a route.  A status has three digits; one below 200 only announces an answer, apart from 101. -/
def response (r : Route) : Option Http.Response :=
  if r.status < 100 ∨ 999 < r.status ∨ (r.status < 200 ∧ r.status ≠ 101) then none
  else some ⟨r.status, some (if isBodiless r.status then "" else r.body)⟩

/-- The answer where no route matches. -/
def unrouted (request : Http.Request) : Http.Response :=
  match request.method with
  | .get => ⟨404, some "no route"⟩
  | _ => ⟨200, some ""⟩

/-- Let the routes answer a request. -/
def route (request : Http.Request) : List Route → Option Http.Response × List Route
  | [] => (some (unrouted request), [])
  | r :: rest =>
    if answers r request then
      if r.drops = 0 then (response r, r :: rest) else (none, { r with drops := r.drops - 1 } :: rest)
    else
      let (answer, rest) := route request rest
      (answer, r :: rest)

def serve (s : SimulatedServer) (request : Http.Request) : Option Http.Response × SimulatedServer :=
  if s.reachable then
    let (answer, routes) := route request s.routes
    (answer, { s with routes, received := s.received ++ [request] })
  else (none, s)

end SimulatedServer

end EnergyGateway
