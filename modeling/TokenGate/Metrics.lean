import TokenGate.AuthError
import TokenGate.Json.Basic
/-!
Counters of attempts to authenticate and of open connections. They are 64 bits wide and wrap.
-/
namespace TokenGate

/-- How often each reason has occurred. -/
structure Rejections where
  malformedToken : UInt64 := 0
  algorithmNotAllowed : UInt64 := 0
  badSignature : UInt64 := 0
  missingClaim : UInt64 := 0
  clockSkewExceeded : UInt64 := 0
  noCredentialPresented : UInt64 := 0
  deriving Repr, DecidableEq

namespace Rejections

def get (r : Rejections) : AuthError → UInt64
  | .malformedToken => r.malformedToken
  | .algorithmNotAllowed => r.algorithmNotAllowed
  | .badSignature => r.badSignature
  | .missingClaim => r.missingClaim
  | .clockSkewExceeded => r.clockSkewExceeded
  | .noCredentialPresented => r.noCredentialPresented

def record (r : Rejections) : AuthError → Rejections
  | .malformedToken => { r with malformedToken := r.malformedToken + 1 }
  | .algorithmNotAllowed => { r with algorithmNotAllowed := r.algorithmNotAllowed + 1 }
  | .badSignature => { r with badSignature := r.badSignature + 1 }
  | .missingClaim => { r with missingClaim := r.missingClaim + 1 }
  | .clockSkewExceeded => { r with clockSkewExceeded := r.clockSkewExceeded + 1 }
  | .noCredentialPresented => { r with noCredentialPresented := r.noCredentialPresented + 1 }

theorem get_record (r : Rejections) (e d : AuthError) :
    (r.record e).get d = if e = d then r.get d + 1 else r.get d := by
  cases e <;> cases d <;> rfl

end Rejections

structure Metrics where
  httpAccepted : UInt64 := 0
  httpRejected : UInt64 := 0
  handshakesAccepted : UInt64 := 0
  handshakesRejected : UInt64 := 0
  connections : UInt64 := 0
  rejections : Rejections := {}
  deriving Repr, DecidableEq

namespace Metrics

def httpAccept (m : Metrics) : Metrics := { m with httpAccepted := m.httpAccepted + 1 }

def httpReject (m : Metrics) (e : AuthError) : Metrics :=
  { m with httpRejected := m.httpRejected + 1, rejections := m.rejections.record e }

def handshakeAccept (m : Metrics) : Metrics :=
  { m with handshakesAccepted := m.handshakesAccepted + 1 }

def handshakeReject (m : Metrics) (e : AuthError) : Metrics :=
  { m with handshakesRejected := m.handshakesRejected + 1, rejections := m.rejections.record e }

def connect (m : Metrics) : Metrics := { m with connections := m.connections + 1 }

def disconnect (m : Metrics) : Metrics := { m with connections := m.connections - 1 }

def counter (n : UInt64) : Json := Json.ofInt n.toNat

def toJson (m : Metrics) : Json :=
  Json.object [
    ("http", Json.object [
      ("accepted", counter m.httpAccepted),
      ("rejected", counter m.httpRejected)]),
    ("websocket", Json.object [
      ("accepted", counter m.handshakesAccepted),
      ("rejected", counter m.handshakesRejected),
      ("connections", counter m.connections)]),
    ("rejections", Json.object
      (AuthError.all.map fun e => (e.label, counter (m.rejections.get e))))]

end Metrics

end TokenGate
