import TokenGate.Rpc.Dispatcher
import TokenGate.Rpc.Envelope
/-!
Processing of payloads: a payload holds one request or a batch of them, and each request is
answered in its place.
-/
namespace TokenGate.Rpc

structure Router where
  dispatcher : Dispatcher
  maxBatchSize : Nat

namespace Router

/-- Answers one request. -/
def handleRequest (r : Router) (request : Json) (caller : Caller) : Json :=
  match request with
  | .obj _ =>
    match validateId (request.get? "id") with
    | .error e => failure .null e
    | .ok id =>
      let answer := match request.get? "method" with
        | some (.str method) =>
          respond id (r.dispatcher.dispatch method (request.get? "params") caller)
        | _ => failure id (.invalidRequest "missing method")
      match request.get? "jsonrpc" with
      | none => answer
      | some (.str "2.0") => answer
      | some _ => failure id (.invalidRequest "jsonrpc must be \"2.0\"")
  | _ => failure .null (.invalidRequest "request must be an object")

/-- Answers a request or a batch. -/
def handleValue (r : Router) (payload : Json) (caller : Caller) : Json :=
  match payload with
  | .arr requests =>
    if requests.isEmpty then failure .null (.invalidRequest "empty batch")
    else if r.maxBatchSize < requests.length then
      failure .null (.limitExceeded
        s!"batch of {requests.length} exceeds maximum of {r.maxBatchSize}")
    else .arr (requests.map fun request => r.handleRequest request caller)
  | request => r.handleRequest request caller

/-- Answers a payload given as text. -/
def handleBody (r : Router) (body : String) (caller : Caller) : Json :=
  match Json.Decoder.any.decode body with
  | .ok payload => r.handleValue payload caller
  | .error e => failure .null (.parse e.message)

end Router

end TokenGate.Rpc
