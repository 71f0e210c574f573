import TokenGate.Config.Basic
import TokenGate.Gate.Connection
import TokenGate.Os.Network
import TokenGate.Rpc.Web3
import TokenGate.Version
/-!
A node: its services, the listeners that offer them, and its life. The services are fixed when the
listeners are opened, which happens at most once.
-/
namespace TokenGate

open Net (SocketAddr)

inductive Listener where
  | http
  | websocket
  | auth
  deriving Repr, DecidableEq

/-- The addresses that the listeners of a node have got. -/
structure Node.Addresses where
  http : Option SocketAddr
  websocket : Option SocketAddr
  auth : SocketAddr
  deriving Repr, DecidableEq

inductive Node.Phase where
  | unstarted
  | running (addresses : Addresses)
  | stopped
  deriving Repr, DecidableEq

structure Node where
  config : Config
  secret : Secret
  registry : Rpc.Registry
  phase : Node.Phase := .unstarted
  metrics : Metrics := {}
  /-- The connections that are open, by their numbers. -/
  connections : List (Nat × Listener × Gate.Session) := []
  /-- How many connections there have been. -/
  opened : Nat := 0

namespace Node

inductive Error where
  | configuration (e : Config.Error)
  | bind (addr : SocketAddr) (cause : Os.Error)
  | endpointCollision (transport : String) (addr : SocketAddr)
  | duplicateNamespace (name : String)
  | alreadyStarted
  | notStarted
  | listenerDisabled (name : String)
  deriving Repr, DecidableEq

def Error.message : Error → String
  | .configuration e => "configuration error: " ++ e.message
  | .bind addr cause => s!"server bind error on {addr.text}: {cause.message}"
  | .endpointCollision transport addr => s!"{transport} endpoint collision: {addr.text}"
  | .duplicateNamespace name => "namespace already registered: " ++ name
  | .alreadyStarted => "node already started"
  | .notStarted => "node not started"
  | .listenerDisabled name => name ++ " listener is disabled"

/-- The service that every node has. -/
def web3 : Rpc.Api where
  name := "web3"
  service := Rpc.Web3.service clientVersion

/-- Adds services until a namespace is taken; those before it stay. -/
def registerAll : List Rpc.Api → Rpc.Registry → Except String Unit × Rpc.Registry
  | [], r => (.ok (), r)
  | a :: rest, r =>
    match r.register a with
    | .error name => (.error name, r)
    | .ok r => registerAll rest r

/-- A node with the built-in service. -/
def new (config : Config) (secret : Secret) : Except Error Node := do
  config.validate.mapError .configuration
  let registry ← (Rpc.Registry.empty.register web3).mapError .duplicateNamespace
  return { config, secret, registry }

/-- Adds services to a node that has not been started yet. -/
def register (n : Node) (apis : List Rpc.Api) : Except Error Unit × Node :=
  match n.phase with
  | .unstarted =>
    let (r, registry) := registerAll apis n.registry
    (r.mapError .duplicateNamespace, { n with registry })
  | _ => (.error .alreadyStarted, n)

/-- Opens a listener and goes on with the address that it gets. If what follows fails, the listener
is closed. -/
def withListener (net : Os.Network) (addr : SocketAddr)
    (next : SocketAddr → Os.Network → Except Error α × Os.Network) :
    Except Error α × Os.Network :=
  match net.bind addr with
  | .error cause => (.error (.bind addr cause), net)
  | .ok (bound, net) =>
    match next bound net with
    | (.ok a, net) => (.ok a, net)
    | (.error e, net) => (.error e, net.release [bound])

/-- Goes on without a listener if it is not enabled. -/
def withEnabled (net : Os.Network) (enabled : Bool) (addr : SocketAddr)
    (next : Option SocketAddr → Os.Network → Except Error α × Os.Network) :
    Except Error α × Os.Network :=
  if enabled then withListener net addr fun bound => next (some bound) else next none net

/-- Refuses addresses among which a plain listener has that of the authenticated one. -/
def checkDistinct (a : Addresses) : Except Error Unit :=
  if a.http = some a.auth then .error (.endpointCollision "http" a.auth)
  else if a.websocket = some a.auth then .error (.endpointCollision "ws" a.auth)
  else .ok ()

/-- Opens the listeners of a configuration one after another. -/
def openListeners (c : Config) (net : Os.Network) : Except Error Addresses × Os.Network :=
  withEnabled net c.http.enabled c.httpAddr fun http net =>
    withEnabled net c.websocket.enabled c.websocketAddr fun websocket net =>
      withListener net c.authAddr fun auth net =>
        let a : Addresses := ⟨http, websocket, auth⟩
        ((checkDistinct a).map fun _ => a, net)

/-- Tries to start a node: what comes of it, and the node and the listeners there are then. -/
def tryStart (n : Node) (net : Os.Network) : Except Error Unit × Node × Os.Network :=
  match n.phase with
  | .unstarted =>
    match openListeners n.config net with
    | (.ok addresses, net) => (.ok (), { n with phase := .running addresses }, net)
    | (.error e, net) => (.error e, n, net)
  | _ => (.error .alreadyStarted, n, net)

/-- Starts a node. A start that fails leaves what there was before it. -/
def start (n : Node) (net : Os.Network) : Except Error (Node × Os.Network) :=
  match n.tryStart net with
  | (.ok (), n, net) => .ok (n, net)
  | (.error e, _) => .error e

def Addresses.all (a : Addresses) : List SocketAddr :=
  a.http.toList ++ a.websocket.toList ++ [a.auth]

/-- Closes the listeners. Connections that are open stay so until they are left. -/
def stop (n : Node) (net : Os.Network) : Node × Os.Network :=
  match n.phase with
  | .running a => ({ n with phase := .stopped }, net.release a.all)
  | _ => (n, net)

def isRunning (n : Node) : Bool := n.phase matches .running _

def addresses (n : Node) : Except Error Addresses :=
  match n.phase with
  | .running a => .ok a
  | _ => .error .notStarted

/-- The address of an enabled listener. -/
def enabledAddress (name : String) (addr : Option SocketAddr) : Except Error SocketAddr :=
  match addr with
  | some a => .ok a
  | none => .error (.listenerDisabled name)

def address (n : Node) (l : Listener) : Except Error SocketAddr := do
  let a ← n.addresses
  match l with
  | .http => enabledAddress "http" a.http
  | .websocket => enabledAddress "ws" a.websocket
  | .auth => return a.auth

/-- The address of a listener with a scheme before it. -/
def endpoint (n : Node) (l : Listener) (scheme : String) : Except Error String := do
  return s!"{scheme}://{(← n.address l).text}"

def httpEndpoint (n : Node) : Except Error String := n.endpoint .http "http"

def websocketEndpoint (n : Node) : Except Error String := n.endpoint .websocket "ws"

def httpAuthEndpoint (n : Node) : Except Error String := n.endpoint .auth "http"

def websocketAuthEndpoint (n : Node) : Except Error String := n.endpoint .auth "ws"

end Node

end TokenGate
