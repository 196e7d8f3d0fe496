import EnergyGateway.Component
import EnergyGateway.Failure
import EnergyGateway.Rpc.Message

/-!
# Answers of the edge

What the console takes out of a message: the outcome of a request, the outcome of a nested request, and the
components of an edge, which come in the answer to a request for them or in a notification.
-/

namespace EnergyGateway.Rpc

/-- What the caller gets from a message that answers it. -/
def Message.reply (m : Message) : Except Failure Json :=
  match m.outcome with
  | .ok j => .ok j
  | .error e => .error (.rpc e.code e.message)

/-- The outcome of the nested request, taken from the result of the outer one. -/
def unwrapPayload (result : Json) : Except Failure Json :=
  match readPayload result.document with
  | some m => m.reply
  | none => .error .noPayload

/-- A value that is there and is not `null`. -/
def present? (j : Option Json) : Option Json := j.filter (!·.isNull)

/-- Where a message carries components: in the result of a nested request, or in the parameters of a nested
notification. -/
def Message.carried? (m : Message) : Option Json :=
  (present? (m.result.bind (Json.at? ["payload", "result", "components"]))).or
    (present? (m.params.bind (Json.at? ["payload", "params", "components"])))

/-- The components that a message carries; all of them must be well-formed. -/
def Message.components? (m : Message) : Option ComponentMap :=
  m.carried?.bind fun j => ComponentMap.read j.document

end EnergyGateway.Rpc
