import TokenGate.Client.Endpoint
import TokenGate.Client.Response
import TokenGate.Http.Upgrade
/-!
Clients: how they dial, and how they call. Over HTTP the provider is asked before every call; on a
socket it is asked once, before the client is there.
-/
namespace TokenGate

open Http (Headers Request)

/-- How calls are carried: each by a request for the target, or all over one socket. -/
inductive Client.Transport where
  | http (target : String)
  | websocket (stream : Client.Stream)
  deriving Repr, DecidableEq

/-- A client, with its provider as the last invocation has left it. -/
structure Client where
  transport : Client.Transport
  provider : Option Provider
  nextId : UInt64 := 1

namespace Client

/-- The payload of a call. -/
def payload (id : UInt64) (method : String) (params : Json) : Json :=
  .obj [("id", Json.ofInt id.toNat), ("jsonrpc", .str "2.0"), ("method", .str method),
    ("params", params)]

/-- The header fields that a provider makes of given ones, and the provider afterwards. -/
def credentials (provider : Option Provider) (now : Instant) (headers : Headers) :
    Except Error Headers × Option Provider :=
  match provider with
  | none => (.ok headers, none)
  | some p =>
    let (r, p) := p.invoke now headers
    (r.mapError .provider, some p)

/-- The request of a call. -/
def callRequest (target : String) (headers : Headers) (body : Json) : Request where
  method := "POST"
  path := target
  headers := headers ++
    if (headers.get? "content-type").isNone then [Http.contentType Http.jsonType] else []
  body := Utf8.encode body.text

/-- Sends a payload over a socket. What comes back waits behind what has not been read yet. -/
def transmit (peer : Peer σ) (stream : Stream) (body : Json) (s : σ) :
    Except Error Stream × σ :=
  if stream.isOpen then
    let (events, s) := peer.send stream.id (.text body.text) s
    (.ok { stream with unread := stream.unread ++ events }, s)
  else
    (.error (.transport "WebSocket protocol error: Sending after closing is not allowed"), s)

/-- Sends a payload over a socket and waits for the answer to it. -/
def ask (peer : Peer σ) (stream : Stream) (id : UInt64) (body : Json) (s : σ) :
    Except Error Json × Stream × σ :=
  match transmit peer stream body s with
  | (.error e, s) => (.error e, stream, s)
  | (.ok stream, s) =>
    let (r, stream) := awaitAnswer id stream
    (r, stream, s)

/-- Asks for a socket. -/
def openSocket (peer : Peer σ) (endpoint : Endpoint) (headers : Headers) (s : σ) :
    Except Error Stream × σ :=
  if !endpoint.hasPort then (.error (.dial "URL error: URL scheme not supported"), s)
  else
    match peer.connect ⟨"GET", endpoint.target, headers, []⟩ s with
    | (.ok (.accepted id), s) => (.ok { id }, s)
    | (.ok (.refused status), s) =>
      (.error (.dial s!"upgrade refused with status {Http.statusText status}"), s)
    | (.error e, s) => (.error (.dial ("IO error: " ++ e.message)), s)

/-- Makes a client. Over HTTP nothing is sent before the first call. -/
def dialWith (peer : Peer σ) (endpoint : String) (provider : Option Provider) (now : Instant)
    (s : σ) : Except Error Client × σ :=
  match Endpoint.parse endpoint with
  | .error e => (.error e, s)
  | .ok endpoint =>
    match endpoint.carrier with
    | .http => (.ok { transport := .http endpoint.target, provider }, s)
    | .websocket =>
      match credentials provider now Http.upgradeFields with
      | (.error e, _) => (.error e, s)
      | (.ok headers, provider) =>
        let (r, s) := openSocket peer endpoint headers s
        (r.map fun stream => { transport := .websocket stream, provider }, s)

/-- Makes a client without credentials. -/
def dial (peer : Peer σ) (endpoint : String) (now : Instant) (s : σ) : Except Error Client × σ :=
  dialWith peer endpoint none now s

/-- Makes a client that authenticates; it cannot do without a provider. -/
def dialAuthenticated (peer : Peer σ) (endpoint : String) (provider : Option Provider)
    (now : Instant) (s : σ) : Except Error Client × σ :=
  match provider with
  | none => (.error (.dial ("no auth provider for " ++ endpoint)), s)
  | some p => dialWith peer endpoint (some p) now s

/-- Calls a method. -/
def call (peer : Peer σ) (c : Client) (d : Json.Decoder α) (method : String) (params : Json)
    (now : Instant) (s : σ) : Except Error α × Client × σ :=
  let body := payload c.nextId method params
  let after := { c with nextId := c.nextId + 1 }
  match c.transport with
  | .http target =>
    let (r, provider) := credentials c.provider now []
    match r with
    | .error e => (.error e, { after with provider }, s)
    | .ok headers =>
      let (response, s) := peer.post (callRequest target headers body) s
      (readResponse response >>= decodeResponse d, { after with provider }, s)
  | .websocket stream =>
    let (r, stream, s) := ask peer stream c.nextId body s
    (r >>= decodeResponse d, { after with transport := .websocket stream }, s)

/-- Ends a client. -/
def close (peer : Peer σ) (c : Client) (s : σ) : σ :=
  match c.transport with
  | .http _ => s
  | .websocket stream => if stream.isOpen then (peer.send stream.id .close s).2 else s

end Client

end TokenGate
