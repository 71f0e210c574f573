import TokenGate.Client.Error
import TokenGate.Client.Peer
import TokenGate.Http.Status
import TokenGate.Json.Bytes
import TokenGate.Rpc.Error
/-!
How clients read what comes back: responses to requests, and events on a socket, among which the
answer to a call has to be found.
-/
namespace TokenGate.Client

open Http (Event Response)

/-- Decodes the result in a response, or gives the error in it. -/
def decodeResponse (d : Json.Decoder α) (response : Json) : Except Error α :=
  match response.get? "error" with
  | some e =>
    match Rpc.Error.decoder.decodeValue e with
    | .ok e => .error (.rpc e.code e.message)
    | .error e => .error (.invalidResponse e.message)
  | none =>
    match response.get? "result" with
    | none => .error (.invalidResponse "missing result")
    | some result => (d.decodeValue result).mapError fun e => .invalidResponse e.message

/-- Reads the response to a call, if there is one. -/
def readResponse (r : Except Os.Error Response) : Except Error Json :=
  match r with
  | .error e => .error (.transport e.message)
  | .ok r =>
    if r.status = 401 then .error .unauthorized
    else
      match Json.read? r.body with
      | some j => .ok j
      | none =>
        .error (.invalidResponse
          s!"status {Http.statusText r.status}: error decoding response body")

/-- A message as JSON. -/
def readMessage (text : String) : Except Error Json :=
  (Json.Decoder.any.decode text).mapError fun e => .invalidResponse e.message

/-- A message of bytes as JSON. -/
def readBytes (b : Bytes) : Except Error Json :=
  (Json.decodeBytes b).mapError fun e => .invalidResponse e.message

/-- Whether a message answers the call of an id: it bears the id, or it is an error that bears no
id or null. -/
def answers (id : UInt64) (message : Json) : Bool :=
  match message.get? "id" with
  | some (.num (.int i _)) => i = id.toNat
  | some .null => (message.get? "error").isSome
  | none => (message.get? "error").isSome
  | some _ => false

/-- The answer that an event is to the call of an id, if it is one. -/
def readEvent (id : UInt64) : Event → Except Error (Option Json)
  | .text s => do
    let j ← readMessage s
    return if answers id j then some j else none
  | .binary b => do
    let j ← readBytes b
    return if answers id j then some j else none
  | .ping => return none
  | .pong => return none
  | .close => throw .closed
  | .failure =>
    throw (.transport "WebSocket protocol error: Connection reset without closing handshake")

/-- Reads events up to the answer to the call of an id. Whatever has come in can be read: the
limits that sockets of clients have by default, 16 MiB for a frame and 64 MiB for a message, are
left out. -/
def awaitAnswer (id : UInt64) : Stream → Except Error Json × Stream
  | ⟨socket, [], _⟩ => (.error .closed, ⟨socket, [], false⟩)
  | ⟨socket, e :: rest, isOpen⟩ =>
    match readEvent id e with
    | .ok (some j) => (.ok j, ⟨socket, rest, isOpen⟩)
    | .ok none => awaitAnswer id ⟨socket, rest, isOpen⟩
    | .error cause => (.error cause, ⟨socket, rest, isOpen && !(e matches .close | .failure)⟩)
  termination_by s => s.unread.length

end TokenGate.Client
