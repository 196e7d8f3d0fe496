import EnergyGateway.Json.Record
import EnergyGateway.Json.Printer

/-!
# Messages of the edge

The edge speaks JSON-RPC 2.0.  A message that comes in is the answer to a request, under the request's id, or a
notification, which has a method instead.  Requests for one edge travel inside another request that names the
edge.
-/

namespace EnergyGateway.Rpc

/-- The version in every message. -/
def version : String := "2.0"

def authenticate : String := "authenticateWithPassword"
def edgeCall : String := "edgeRpc"
def getConfig : String := "getEdgeConfig"
def updateConfig : String := "updateComponentConfig"

structure Request where
  jsonrpc : String := version
  id : String
  method : String
  params : Json

/-- Why the edge refused a request. -/
structure Error where
  code : Int
  message : String
  data : Option Json

/-- A message from the edge. -/
structure Message where
  jsonrpc : String := ""
  id : Option String := none
  result : Option Json := none
  error : Option Error := none
  method : Option String := none
  params : Option Json := none
  deriving Inhabited

/-- A request for one edge. -/
structure EdgeRequest where
  edge : String
  payload : Request

/-- A new value for a property. -/
structure PropertyUpdate where
  name : String
  value : Json

/-- New values for properties of a component. -/
structure ComponentUpdate where
  component : String
  properties : List PropertyUpdate

namespace Request

def read (d : Document) : Option Request := do
  let r ← d.closedRecord? ["jsonrpc", "id", "method", "params"]
  return {
    jsonrpc := ← r.required "jsonrpc" Document.text
    id := ← r.required "id" Document.text
    method := ← r.required "method" Document.text
    params := ← r.required "params" Document.value? }

def json (q : Request) : Json :=
  .object [("jsonrpc", .string q.jsonrpc), ("id", .string q.id), ("method", .string q.method), ("params", q.params)]

end Request

namespace Error

def read (d : Document) : Option Error := do
  let r ← d.closedRecord? ["code", "message", "data"]
  return {
    code := ← r.withDefault "code" Document.word 0
    message := ← r.withDefault "message" Document.text ""
    data := ← r.optional "data" Document.value? }

def json (e : Error) : Json :=
  .object ([("code", .number (.int e.code)), ("message", .string e.message)] ++ e.data.toList.map (("data", ·)))

end Error

namespace Message

def read (d : Document) : Option Message := do
  let r ← d.closedRecord? ["jsonrpc", "id", "result", "error", "method", "params"]
  return {
    jsonrpc := ← r.withDefault "jsonrpc" Document.text ""
    id := ← r.optional "id" Document.text
    result := ← r.optional "result" Document.value?
    error := ← r.optional "error" Error.read
    method := ← r.optional "method" Document.text
    params := ← r.optional "params" Document.value? }

def json (m : Message) : Json :=
  .object ([("jsonrpc", .string m.jsonrpc)] ++ m.id.toList.map (("id", .string ·)) ++
    m.result.toList.map (("result", ·)) ++ m.error.toList.map (("error", ·.json)) ++
    m.method.toList.map (("method", .string ·)) ++ m.params.toList.map (("params", ·)))

/-- What the message answers.  An error wins over a result, and no result is `null`. -/
def outcome (m : Message) : Except Error Json :=
  match m.error with
  | some e => .error e
  | none => .ok (m.result.getD .null)

def isNotification (m : Message) : Bool := m.id.isNone && m.method.isSome

end Message

namespace EdgeRequest

def read (d : Document) : Option EdgeRequest := do
  let r ← d.closedRecord? ["edgeId", "payload"]
  return ⟨← r.required "edgeId" Document.text, ← r.required "payload" Request.read⟩

def json (q : EdgeRequest) : Json := .object [("edgeId", .string q.edge), ("payload", q.payload.json)]

end EdgeRequest

/-- The answer to a request for one edge: another message. -/
def readPayload (d : Document) : Option Message := do
  (← d.closedRecord? ["payload"]).required "payload" Message.read

def payloadJson (m : Message) : Json := .object [("payload", m.json)]

namespace PropertyUpdate

def read (d : Document) : Option PropertyUpdate := do
  let r ← d.closedRecord? ["name", "value"]
  return ⟨← r.required "name" Document.text, ← r.required "value" Document.value?⟩

def json (u : PropertyUpdate) : Json := .object [("name", .string u.name), ("value", u.value)]

end PropertyUpdate

namespace ComponentUpdate

def read (d : Document) : Option ComponentUpdate := do
  let r ← d.closedRecord? ["componentId", "properties"]
  return ⟨← r.required "componentId" Document.text, ← r.required "properties" (Document.list PropertyUpdate.read)⟩

def json (u : ComponentUpdate) : Json :=
  .object [("componentId", .string u.component), ("properties", .array (u.properties.map PropertyUpdate.json))]

end ComponentUpdate

end EnergyGateway.Rpc
