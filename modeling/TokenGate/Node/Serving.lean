import TokenGate.Gate.PerCall
import TokenGate.Http.Target
import TokenGate.Http.Upgrade
import TokenGate.Node.Basic
/-!
What the listeners of a node answer. Plain listeners take every caller for an anonymous one; the
authenticated listener has a gate for requests and another for connections.
-/
namespace TokenGate.Node

open Http (Request Response)

/-- The namespaces that a listener offers. -/
def scope (c : Config) : Listener → Rpc.Scope
  | .http => .modules c.http.modules
  | .websocket => .modules c.websocket.modules
  | .auth => .all

def router (n : Node) (l : Listener) : Rpc.Router where
  dispatcher := ⟨n.registry, scope n.config l⟩
  maxBatchSize := n.config.http.maxBatchSize.toNat

def validator (n : Node) : Token.Validator := ⟨n.secret, n.config.auth.tolerance⟩

def maxMessageSize (n : Node) : Nat := n.config.websocket.maxMessageSize.toNat

/-- What is done for the requests of one method and one path. -/
inductive Action where
  | call
  | health
  | metrics
  | connect
  deriving Repr, DecidableEq

structure Route where
  method : String
  action : Action
  deriving Repr, DecidableEq

/-- The routes under a path. -/
def routes : Listener → String → List Route
  | .http, "/" => [⟨"POST", .call⟩]
  | .http, "/health" => [⟨"GET", .health⟩]
  | .http, "/metrics" => [⟨"GET", .metrics⟩]
  | .websocket, "/" => [⟨"GET", .connect⟩]
  | .auth, "/" => [⟨"GET", .connect⟩, ⟨"POST", .call⟩]
  | _, _ => []

/-- The methods that a route serves. -/
def Route.methods (r : Route) : List String :=
  if r.method = "GET" then ["GET", "HEAD"] else [r.method]

def notFound : Response := { status := 404 }

def notAllowed (table : List Route) : Response where
  status := 405
  headers := [⟨"allow", Utf8.encode (",".intercalate (table.flatMap Route.methods))⟩]

def jsonResponse (status : Nat) (j : Json) : Response where
  status := status
  headers := [Http.contentType Http.jsonType]
  body := j.text

def plainResponse (status : Nat) (body : String) : Response where
  status := status
  headers := [Http.contentType Http.plainType]
  body := body

/-- How many bytes the body of a request may have. -/
def maxBodySize : Nat := 0x20_0000

/-- Answers a request that carries a payload. -/
def callResponse (r : Rpc.Router) (caller : Rpc.Caller) (request : Request) : Response :=
  if maxBodySize < request.body.length then
    plainResponse 413 "Failed to buffer the request body: length limit exceeded"
  else
    match Utf8.decode request.body with
    | .error fault =>
      plainResponse 400 ("Request body didn't contain valid UTF-8: " ++ fault.message)
    | .ok text =>
      match Json.Decoder.any.decode text with
      | .error e => jsonResponse 400 (Rpc.failure .null (.parse e.message))
      | .ok payload => jsonResponse 200 (r.handleValue payload caller)

def health : Json :=
  Json.object [
    ("status", .str "healthy"), ("service", .str "auth-gateway"), ("version", .str version)]

/-- What becomes of a request: a response, or a connection of the given number. -/
inductive Outcome where
  | response (r : Response)
  | connected (id : Nat)
  deriving Repr, DecidableEq

/-- Adds a connection. -/
def openConnection (n : Node) (l : Listener) (session : Gate.Session) : Outcome × Node :=
  (.connected n.opened, { n with
    connections := n.connections ++ [(n.opened, l, session)]
    opened := n.opened + 1
    metrics := n.metrics.connect })

/-- Answers a request for a connection. The gate is not asked about a request that asks for
something else. -/
def connect (n : Node) (l : Listener) (now : Instant) (request : Request) : Outcome × Node :=
  match Http.upgradeFault? request with
  | some fault => (.response fault.response, n)
  | none =>
    if l = .auth then
      let h := Gate.handshake n.validator now n.metrics .awaitingHandshake request.headers
      let n := { n with metrics := h.metrics }
      match h.outcome with
      | .ok () => n.openConnection l h.session
      | .error _ => (.response Gate.unauthorized, n)
    else n.openConnection l .anonymous

/-- Answers a request with a payload, which has to pass the gate if there is one. -/
def call (n : Node) (l : Listener) (now : Instant) (request : Request) : Response × Node :=
  let inner (caller : Rpc.Caller) := callResponse (n.router l) caller
  if l = .auth then
    let (response, metrics) := Gate.perCall n.validator now n.metrics request inner
    (response, { n with metrics })
  else (inner .anonymous request, n)

def act (n : Node) (l : Listener) (now : Instant) (request : Request) :
    Action → Outcome × Node
  | .call =>
    let (response, n) := n.call l now request
    (.response response, n)
  | .health => (.response (jsonResponse 200 health), n)
  | .metrics => (.response (jsonResponse 200 n.metrics.toJson), n)
  | .connect => n.connect l now request

/-- Responses to the method `HEAD` have no body. -/
def Outcome.forMethod (method : String) : Outcome → Outcome
  | .response r => .response (if method = "HEAD" then { r with body := "" } else r)
  | .connected id => .connected id

/-- Answers a request that has reached a listener. -/
def handle (n : Node) (l : Listener) (now : Instant) (request : Request) : Outcome × Node :=
  let table := routes l (Http.targetPath request.path)
  let (outcome, n) :=
    match table.find? fun r => r.methods.contains request.method with
    | some route => n.act l now request route.action
    | none => (.response (if table.isEmpty then notFound else notAllowed table), n)
  (outcome.forMethod request.method, n)

/-- An open connection. -/
def connection? (n : Node) (id : Nat) : Option Gate.Connection :=
  (n.connections.lookup id).map fun (l, session) => ⟨session, n.router l, n.maxMessageSize⟩

/-- Ends a connection. -/
def disconnect (n : Node) (id : Nat) : Node :=
  { n with
    connections := n.connections.filter (·.1 ≠ id)
    metrics := n.metrics.disconnect }

/-- Answers what comes in on a connection; one that is not open answers nothing. -/
def receive (n : Node) (id : Nat) (e : Http.Event) : Option String × Node :=
  match n.connection? id with
  | none => (none, n)
  | some c =>
    match c.react (e.limit n.maxMessageSize) with
    | .reply text => (some text, n)
    | .ignore => (none, n)
    | .leave => (none, n.disconnect id)

end TokenGate.Node
