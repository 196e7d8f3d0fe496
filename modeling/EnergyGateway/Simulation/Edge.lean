import EnergyGateway.Failure
import EnergyGateway.Json.Printer
import EnergyGateway.Rpc.Message

/-!
# A simulated edge

An edge for rehearsals.  It checks a password, reports components, and answers everything else with nothing.  It
can be made to fail, to refuse nested requests, to answer them with anything at all, and to publish nothing.
-/

namespace EnergyGateway

structure SimulatedEdge where
  /-- The password that is accepted; without one none is. -/
  password : Option String := some "admin"
  components : Json := .object []
  /-- Whether answers are not published. -/
  silent : Bool := false
  /-- What every call fails with. -/
  failing : Option String := none
  /-- The error in the answer to every nested request. -/
  payloadError : Option Json := none
  /-- What every nested request is answered with as a whole. -/
  outer : Option Json := none
  /-- The calls so far. -/
  calls : List (String × Json) := []
  /-- What was published and has not arrived yet. -/
  underway : List Rpc.Message := []

namespace SimulatedEdge

/-- The failure with this name; what names none is what the edge says. -/
def failure (method name : String) : Failure :=
  match name with
  | "NotConnected" => .notConnected
  | "ConnectionClosed" => .connectionClosed
  | "WebSocket" => .webSocket
  | "Timeout" => .timeout method
  | reason => .rpc (-32000) reason

/-- What the edge's own answer to a nested request holds. -/
def nestedOutcome (e : SimulatedEdge) (params : Json) : String × Json :=
  match e.payloadError with
  | some error => ("error", error)
  | none =>
    if ((params.at? ["payload", "method"]).bind Json.text?) == some Rpc.getConfig then
      ("result", .object [("components", e.components)])
    else ("result", .object [])

/-- The result of a nested request. -/
def nestedResult (e : SimulatedEdge) (params : Json) : Json :=
  e.outer.getD (.object [("payload", .object [e.nestedOutcome params,
    ("id", (params.at? ["payload", "id"]).getD .null), ("jsonrpc", .string Rpc.version)])])

/-- Whether the edge lets a password in. -/
def accepts (e : SimulatedEdge) (password : Option String) : Bool := e.password.isSome && password == e.password

/-- The answer to a call, and what is published with it. -/
def answer (e : SimulatedEdge) (method : String) (params : Json) : Except Failure Json × List Rpc.Message :=
  match e.failing with
  | some name => (.error (failure method name), [])
  | none =>
    if method = Rpc.authenticate then
      if e.accepts ((params.at? ["password"]).bind Json.text?) then (.ok .null, [])
      else (.error (.rpc 1003 "Authentication failed"), [])
    else if method = Rpc.edgeCall then
      let result := e.nestedResult params
      let message : Rpc.Message := { jsonrpc := Rpc.version, id := some "broadcast", result := some result }
      (.ok result, if e.silent then [] else [message])
    else (.ok .null, [])

/-- Change what is simulated.  Members of other names change nothing. -/
def set (e : SimulatedEdge) (member : String × Json) : SimulatedEdge :=
  match member with
  | ("password", j) => { e with password := j.text? }
  | ("components", j) => { e with components := j }
  | ("silent", .bool b) => { e with silent := b }
  | ("silent", _) => { e with silent := false }
  | ("fail", j) => { e with failing := j.text? }
  | ("payload_error", .object members) => { e with payloadError := some (.object members) }
  | ("payload_error", _) => { e with payloadError := none }
  | ("outer", j) => { e with outer := if j.isNull then none else some j }
  | _ => e

end SimulatedEdge

end EnergyGateway
