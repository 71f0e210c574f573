import TokenGate.Gate.Validation
import TokenGate.Rpc.Dispatcher
/-!
The gate for single requests: each of them is validated on its own, and an accepted one grants
nothing to the next.
-/
namespace TokenGate.Gate

/-- Counts the outcome of a request. -/
def recordRequest (m : Metrics) : Except AuthError α → Metrics
  | .ok _ => m.httpAccept
  | .error e => m.httpReject e

/-- Passes a request on if it is accepted. -/
def perCall (v : Token.Validator) (now : Instant) (m : Metrics) (request : Http.Request)
    (inner : Rpc.Caller → Http.Request → Http.Response) : Http.Response × Metrics :=
  let outcome := authenticate v now request.headers
  let response := match outcome with
    | .ok _ => inner .authenticated request
    | .error _ => unauthorized
  (response, recordRequest m outcome)

end TokenGate.Gate
