import TokenGate.Gate.Validation
import TokenGate.Rpc.Dispatcher
/-!
The gate for connections: a connection is validated once, by its handshake, and keeps what that
decided until it is closed.
-/
namespace TokenGate.Gate

/-- The life of a connection. One on a plain listener has no handshake. -/
inductive Session where
  | awaitingHandshake
  | authenticated
  | rejected (reason : AuthError)
  | anonymous
  | closed
  deriving Repr, DecidableEq

namespace Session

def describe : Session → String
  | awaitingHandshake => "AwaitingHandshake"
  | authenticated => "Authenticated"
  | rejected reason => s!"Rejected({reason.name})"
  | anonymous => "Anonymous"
  | closed => "Closed"

/-- What the callers on a connection count as. -/
def caller : Session → Rpc.Caller
  | authenticated => .authenticated
  | _ => .anonymous

end Session

inductive HandshakeError where
  | refused (reason : AuthError)
  | alreadyPerformed (session : Session)
  deriving Repr, DecidableEq

def HandshakeError.message : HandshakeError → String
  | .refused reason => "handshake refused: " ++ reason.message
  | .alreadyPerformed session =>
    "handshake already performed, connection is " ++ session.describe

/-- The outcome of a handshake, with the session and the counters after it. -/
structure Handshake where
  outcome : Except HandshakeError Unit
  session : Session
  metrics : Metrics

/-- Validates the request that opens a connection, unless the session has left its first state. -/
def handshake (v : Token.Validator) (now : Instant) (m : Metrics) (session : Session)
    (h : Http.Headers) : Handshake :=
  match session with
  | .awaitingHandshake =>
    match authenticate v now h with
    | .ok _ => ⟨.ok (), .authenticated, m.handshakeAccept⟩
    | .error reason => ⟨.error (.refused reason), .rejected reason, m.handshakeReject reason⟩
  | session => ⟨.error (.alreadyPerformed session), session, m⟩

end TokenGate.Gate
