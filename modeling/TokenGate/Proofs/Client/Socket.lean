import TokenGate.Proofs.Client.Exchange
import TokenGate.Proofs.Node.Payload
/-!
Calls over a socket. What a client sends either comes to the router, or is too long and ends the
socket, after which nothing is sent any more.
-/
namespace TokenGate

open Client (Peer payload)

namespace Node

variable {n : Node} {l : Listener} {session : Gate.Session} {socket : Nat} {text : String}

theorem send_text (hc : n.connections.lookup socket = some (l, l.session))
    (hs : text.utf8ByteSize ≤ min n.maxMessageSize Http.maxFrameSize) (t : Instant) :
    (peer l t).send socket (.text text) n =
      ([.text ((n.router l).handleBody text l.caller).text], n) := by
  rw [← l.caller_session]
  exact echo_payload hc hs List.mem_cons_self

/-- A message that is too long ends the connection. -/
theorem send_oversized (hc : n.connections.lookup socket = some (l, session))
    (hs : ¬ text.utf8ByteSize ≤ min n.maxMessageSize Http.maxFrameSize) (t : Instant) :
    (peer l t).send socket (.text text) n = ([.failure], n.disconnect socket) :=
  echo_oversized hc hs

end Node

namespace Client

variable {α σ : Type} {c : Client} {n : Node} {l : Listener} {socket : Nat} {method : String}
  {params body : Json} {peer : Peer σ} {s s' : σ}

/-- The number of bytes that a node takes at once from a client. -/
def limit (c : Client) (n : Node) : Nat :=
  match c.transport with
  | .http _ => Node.maxBodySize
  | .websocket _ => min n.maxMessageSize Http.maxFrameSize

/-- The payload of a call is not too long. -/
def Fits (c : Client) (n : Node) (method : String) (params : Json) : Prop :=
  (payload c.nextId method params).text.utf8ByteSize ≤ c.limit n

/-- What a client gets that calls a method, from the router that takes the call. -/
def answered (r : Rpc.Router) (caller : Rpc.Caller) (decoder : Json.Decoder α) (id : UInt64)
    (method : String) (params : Json) : Except Error α :=
  readMessage (r.handleBody (payload id method params).text caller).text >>= decodeResponse decoder

theorem ask_text {id : UInt64} (he : peer.send socket (.text body.text) s = ([.text reply], s'))
    (h : ∀ j, readMessage reply = .ok j → answers id j) :
    ask peer { id := socket } id body s = (readMessage reply, { id := socket }, s') := by
  simp only [ask, transmit, if_true, he, List.nil_append, awaitAnswer_text h]

theorem ask_failure (he : peer.send socket (.text body.text) s = ([.failure], s')) (id : UInt64) :
    ∃ reason, ask peer { id := socket } id body s =
      (.error (.transport reason), ⟨socket, [], false⟩, s') := by
  have ha : awaitAnswer id ⟨socket, [.failure], true⟩ =
      (.error (.transport "WebSocket protocol error: Connection reset without closing handshake"),
        ⟨socket, [], false⟩) := by
    rw [awaitAnswer.eq_def]
    rfl
  simp only [ask, transmit, if_true, he, List.nil_append, ha]
  exact ⟨_, rfl⟩

/-- A call over an open socket is answered for the caller that the listener takes the client for. -/
theorem call_open (ht : c.transport = .websocket { id := socket })
    (hc : n.connections.lookup socket = some (l, l.session)) (hf : c.Fits n method params)
    (decoder : Json.Decoder α) (now t : Instant) :
    c.call (Node.peer l t) decoder method params now n =
      (answered (n.router l) l.caller decoder c.nextId method params,
        { c with nextId := c.nextId + 1 }, n) := by
  obtain ⟨transport, provider, nextId⟩ := c
  cases ht
  have ha := ask_text (Node.send_text hc hf t) fun j hj => answers_of_readMessage hj
  simp only [call, ha, answered]

/-- A call with a message that is too long ends the socket. -/
theorem call_oversized (ht : c.transport = .websocket { id := socket })
    (hc : n.connections.lookup socket = some (l, session)) (hf : ¬ c.Fits n method params)
    (decoder : Json.Decoder α) (now t : Instant) :
    ∃ reason, c.call (Node.peer l t) decoder method params now n =
      (.error (.transport reason),
        { c with nextId := c.nextId + 1, transport := .websocket ⟨socket, [], false⟩ },
        n.disconnect socket) := by
  obtain ⟨transport, provider, nextId⟩ := c
  cases ht
  obtain ⟨reason, ha⟩ := ask_failure (Node.send_oversized hc hf t) nextId
  refine ⟨reason, ?_⟩
  simp only [call, ha]
  rfl

/-- Over a socket that has ended nothing is sent any more. -/
theorem call_lost (ht : c.transport = .websocket ⟨socket, [], false⟩) (peer : Peer σ)
    (decoder : Json.Decoder α) (now : Instant) (s : σ) :
    ∃ reason, c.call peer decoder method params now s =
      (.error (.transport reason), { c with nextId := c.nextId + 1 }, s) := by
  obtain ⟨transport, provider, nextId⟩ := c
  cases ht
  refine ⟨"WebSocket protocol error: Sending after closing is not allowed", ?_⟩
  simp only [call, ask, transmit, Bool.false_eq_true, if_false]
  rfl

end Client

end TokenGate
