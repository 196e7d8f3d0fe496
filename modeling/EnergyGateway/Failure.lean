import EnergyGateway.FieldError
import EnergyGateway.Tier

/-!
# Failures

Everything that can go wrong between the operator and the edge, with the sentence that tells the operator.
-/

namespace EnergyGateway

inductive Failure where
  /-- No usable answer came over HTTP. -/
  | http
  /-- The server answered with an error status. -/
  | api (status : Nat) (body : String)
  | authenticationFailed
  /-- The edge refused a request. -/
  | rpc (code : Int) (message : String)
  | webSocket
  | notConnected
  | connectionClosed
  /-- No answer in time to this method. -/
  | timeout (method : String)
  /-- The edge's answer to a nested request has no payload. -/
  | noPayload
  | invalidValue (e : FieldError)
  | tier (v : TierViolation Float)
  /-- The configuration manager lists no PID for this id. -/
  | pidNotFound (id : String)
  | io (reason : String)

namespace Failure

def message : Failure → String
  | .http => "HTTP request failed"
  | .api status body => s!"Console returned error status {status}: {body}"
  | .authenticationFailed => "Authentication failed"
  | .rpc _ reason => s!"RPC Error: {reason}"
  | .webSocket => "WebSocket error"
  | .notConnected => "Not connected to the edge"
  | .connectionClosed => "Connection closed before a response arrived"
  | .timeout method => s!"Request '{method}' timed out"
  | .noPayload => "Invalid response: edgeRpc result without payload"
  | .invalidValue e => s!"Invalid configuration value: {e.message}"
  | .tier v => s!"Tier limit: {v.message}"
  | .pidNotFound id => s!"No configuration PID found for '{id}'"
  | .io reason => s!"I/O error: {reason}"

end Failure

end EnergyGateway
