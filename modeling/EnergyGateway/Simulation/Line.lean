import EnergyGateway.Session.Basic
import EnergyGateway.Simulation.Edge
import EnergyGateway.Simulation.Server

/-!
# Simulated lines

A simulated edge beside a simulated server, and a line on which nothing answers.
-/

namespace EnergyGateway

structure Simulation where
  edge : SimulatedEdge := {}
  server : SimulatedServer := {}

namespace Simulation

def serve (request : Http.Request) (s : Simulation) : Option Http.Response × Simulation :=
  let (answer, server) := s.server.serve request
  (answer, { s with server })

/-- Answer a call.  The answer is there at once, so nothing else arrives meanwhile. -/
def call (method : String) (params : Json) (s : Simulation) :
    Except Failure Json × List Rpc.Message × Simulation :=
  let (outcome, published) := s.edge.answer method params
  let edge := { s.edge with
    calls := s.edge.calls ++ [(method, params)]
    underway := s.edge.underway ++ published }
  (outcome, [], { s with edge })

/-- While the session waits, all that was published arrives. -/
def wait (s : Simulation) : List Rpc.Message × Simulation :=
  (s.edge.underway, { s with edge := { s.edge with underway := [] } })

/-- The line to both.  Nothing arrives but while the session waits, and no time passes. -/
def line : Line Simulation := ⟨serve, call, wait, fun s => ([], s), fun _ => false⟩

/-- Sessions on this line, with a catalog. -/
def setup (catalog : Catalog) : Setup Simulation := ⟨line, "0", { base := "http://console" }, catalog⟩

end Simulation

/-- A line that is down. -/
def Line.down : Line Unit where
  serve _ s := (none, s)
  call _ _ s := (.error .notConnected, [], s)
  wait s := ([], s)
  meanwhile s := ([], s)
  late _ := false

end EnergyGateway
