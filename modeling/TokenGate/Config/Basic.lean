import TokenGate.Net.AddressReader
import TokenGate.Time.Duration
/-!
The configuration of a node: a plain listener for HTTP, one for WebSocket connections, and the
authenticated listener for both.
-/
namespace TokenGate

open Net (IpAddr SocketAddr)

/-- The plain listener for HTTP. -/
structure Config.Http where
  host : IpAddr := .localhost
  port : UInt16 := 8545
  enabled : Bool := true
  modules : List String := ["web3"]
  maxBatchSize : UInt64 := 100
  deriving Repr, DecidableEq

/-- The plain listener for WebSocket connections. -/
structure Config.WebSocket where
  host : IpAddr := .localhost
  port : UInt16 := 8546
  enabled : Bool := true
  modules : List String := ["web3"]
  maxMessageSize : UInt64 := 1048576
  deriving Repr, DecidableEq

def defaultTolerance : Duration := .ofSeconds 5

/-- The authenticated listener; its secret is named by a path. -/
structure Config.Auth where
  host : IpAddr := .localhost
  port : UInt16 := 8551
  secretPath : String := "jwtsecret"
  tolerance : Duration := defaultTolerance
  deriving Repr, DecidableEq

structure Config where
  http : Config.Http := {}
  websocket : Config.WebSocket := {}
  auth : Config.Auth := {}
  deriving Repr, DecidableEq

namespace Config

def httpAddr (c : Config) : SocketAddr := ⟨c.http.host, c.http.port⟩

def websocketAddr (c : Config) : SocketAddr := ⟨c.websocket.host, c.websocket.port⟩

def authAddr (c : Config) : SocketAddr := ⟨c.auth.host, c.auth.port⟩

inductive Error where
  | endpointCollision (transport : String) (addr : SocketAddr)
  | duplicatePorts
  | invalidTolerance (reason : String)
  | invalidLimit (reason : String)
  deriving Repr, DecidableEq

def Error.message : Error → String
  | .endpointCollision transport addr =>
    s!"{transport} listener and auth listener share address {addr.text}"
  | .duplicatePorts => "duplicate ports configured"
  | .invalidTolerance reason => "invalid tolerance: " ++ reason
  | .invalidLimit reason => "invalid limit: " ++ reason

/-- Whether two listeners ask for the same port of one address. Port 0 asks for any free port. -/
def collides (a b : SocketAddr) : Bool :=
  a.port != 0 && b.port != 0 && a.port == b.port &&
    (a.ip == b.ip || a.ip.isUnspecified || b.ip.isUnspecified)

/-- The first thing that is wrong with a configuration, if anything is. -/
def validate (c : Config) : Except Error Unit :=
  if c.http.enabled ∧ collides c.httpAddr c.authAddr then
    .error (.endpointCollision "http" c.authAddr)
  else if c.websocket.enabled ∧ collides c.websocketAddr c.authAddr then
    .error (.endpointCollision "ws" c.authAddr)
  else if c.http.enabled ∧ c.websocket.enabled ∧ collides c.httpAddr c.websocketAddr then
    .error .duplicatePorts
  else if c.auth.tolerance.toNanos = 0 then
    .error (.invalidTolerance "clock skew tolerance cannot be 0")
  else if c.websocket.maxMessageSize = 0 then
    .error (.invalidLimit "max_message_size cannot be 0")
  else if c.http.maxBatchSize = 0 then
    .error (.invalidLimit "max_batch_size cannot be 0")
  else .ok ()

end Config

end TokenGate
